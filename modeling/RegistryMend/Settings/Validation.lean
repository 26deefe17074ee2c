import RegistryMend.Journal.Level
import RegistryMend.Repair.Asset
import RegistryMend.Settings.Assignments
import RegistryMend.Settings.Number

/-! # Settings

A draft holds the settings that were given. Validation fills in the others, brings texts into their
plain form, and either gives settings within their bounds or names every field that is out of them.
-/

namespace RegistryMend.Settings

/-- The settings that were given. -/
structure Draft where
  logLevel : Option String := none
  logMaxBytes : Option Int := none
  logBackupCount : Option Int := none
  targetFormat : Option String := none
  batchSize : Option Int := none
  cronExpression : Option String := none
  isolateFailures : Option Bool := none
  lockTimeout : Option Decimal.Double := none
deriving DecidableEq, Repr

end RegistryMend.Settings

namespace RegistryMend

/-- The settings of a repair. -/
structure Settings where
  logLevel : Journal.Level := .info
  logMaxBytes : Nat := 10485760
  logBackupCount : Nat := 5
  targetFormat : String := "npm"
  batchSize : Nat := 100
  /-- When to repair again: five fields, or nothing to repair once. -/
  cronExpression : String := ""
  isolateFailures : Bool := false
  /-- How many seconds to wait for the run lock. -/
  lockTimeout : Decimal.Double := .zero
deriving DecidableEq, Repr

end RegistryMend

namespace RegistryMend.Settings

open RegistryMend.Journal (Level)

/-- The fields that can be out of bounds. -/
inductive Field where
  | logLevel
  | logMaxBytes
  | logBackupCount
  | targetFormat
  | batchSize
  | cronExpression
  | lockTimeout
deriving DecidableEq, Repr

/-- The key of a field in a settings text. -/
def Field.key : Field → String
  | logLevel => "LOG_LEVEL"
  | logMaxBytes => "LOG_MAX_BYTES"
  | logBackupCount => "LOG_BACKUP_COUNT"
  | targetFormat => "REPAIR_TARGET_FORMAT"
  | batchSize => "REPAIR_BATCH_SIZE"
  | cronExpression => "REPAIR_CRON_EXPRESSION"
  | lockTimeout => "REPAIR_LOCK_TIMEOUT_SECONDS"

/-- In which way a field is out of bounds. -/
inductive Complaint where
  | tooSmall
  | tooLarge
  | tooShort
  | refused (message : String)
deriving DecidableEq, Repr

/-- A field that is out of bounds. -/
structure Problem where
  field : Field
  complaint : Complaint
deriving DecidableEq, Repr

/-- What is wrong with a field. -/
def Problem.message (problem : Problem) : String :=
  match problem.complaint with
  | .tooSmall => problem.field.key ++ " is too small"
  | .tooLarge => problem.field.key ++ " is too large"
  | .tooShort => problem.field.key ++ " is too short"
  | .refused message => message

/-- A whole number within bounds. -/
def checkRange (low : Nat) (high : Option Nat) (n : Int) : Except Complaint Nat :=
  if n < low then .error .tooSmall
  else if high.any fun high => (high : Int) < n then .error .tooLarge
  else .ok n.toNat

/-- The level with a name; no name stands for the level of plain information. -/
def checkLevel (text : String) : Except Complaint Level :=
  match Repair.Repository.plain text with
  | "" => .ok .info
  | "debug" => .ok .debug
  | "info" => .ok .info
  | "warn" | "warning" => .ok .warning
  | "error" => .ok .error
  | _ => .error (.refused "LOG_LEVEL must be one of: debug, info, warn, error")

/-- A format; the text as given is not empty. -/
def checkFormat (text : String) : Except Complaint String :=
  if text = "" then .error .tooShort else .ok (Repair.Repository.plain text)

/-- Five fields with single spaces between them, or nothing. -/
def checkCron (text : String) : Except Complaint String :=
  let fields := Text.words text.toList
  if fields.isEmpty || fields.length == 5 then .ok (String.ofList ([' '].intercalate fields))
  else .error (.refused "REPAIR_CRON_EXPRESSION must have 5 fields")

/-- A number of seconds that is not negative. -/
def checkTimeout (d : Decimal.Double) : Except Complaint Decimal.Double :=
  if d.isAtLeastZero then .ok d else .error .tooSmall

/-- A field as checked: its value if it was not given, the value that was accepted, or the
complaint. -/
def checkField {α β : Type} (default : β) (check : α → Except Complaint β) (given : Option α) :
    Except Complaint β :=
  match given with
  | none => .ok default
  | some value => check value

/-- The problem with a field, if there is one. -/
def problemOf {β : Type} (field : Field) : Except Complaint β → List Problem
  | .ok _ => []
  | .error complaint => [⟨field, complaint⟩]

/-- Checks all fields. Problems are listed in the order of the fields. -/
def validate (draft : Draft) : Except (List Problem) Settings :=
  let default : Settings := {}
  let level := checkField default.logLevel checkLevel draft.logLevel
  let maxBytes := checkField default.logMaxBytes (checkRange 1024 none) draft.logMaxBytes
  let backups := checkField default.logBackupCount (checkRange 0 (some 100)) draft.logBackupCount
  let format := checkField default.targetFormat checkFormat draft.targetFormat
  let batchSize := checkField default.batchSize (checkRange 1 (some 10000)) draft.batchSize
  let cron := checkField default.cronExpression checkCron draft.cronExpression
  let isolate := draft.isolateFailures.getD default.isolateFailures
  let timeout := checkField default.lockTimeout checkTimeout draft.lockTimeout
  match level, maxBytes, backups, format, batchSize, cron, timeout with
  | .ok level, .ok maxBytes, .ok backups, .ok format, .ok batchSize, .ok cron, .ok timeout =>
    .ok ⟨level, maxBytes, backups, format, batchSize, cron, isolate, timeout⟩
  | _, _, _, _, _, _, _ =>
    .error (problemOf .logLevel level ++ problemOf .logMaxBytes maxBytes ++
      problemOf .logBackupCount backups ++ problemOf .targetFormat format ++
      problemOf .batchSize batchSize ++ problemOf .cronExpression cron ++
      problemOf .lockTimeout timeout)

/-- Whether a text means yes. -/
def readFlag (text : String) : Bool :=
  ["1", "true", "yes", "on"].contains (Repair.Repository.plain text)

/-- The value of a key, unless it is blank. -/
def given? (key : String) (assignments : Assignments) : Option String :=
  ((assignments.lookup key).map Text.trim).filter (· ≠ "")

/-- The key of the one setting that is never out of bounds. -/
def isolationKey : String := "REPAIR_ISOLATE_REPOSITORY_FAILURES"

/-- The draft that assignments make. Numbers that cannot be read count as not given, and unknown
keys say nothing. -/
def draftOf (assignments : Assignments) : Draft where
  logLevel := given? Field.logLevel.key assignments
  logMaxBytes := (given? Field.logMaxBytes.key assignments).bind (Text.readInteger? ·.toList)
  logBackupCount := (given? Field.logBackupCount.key assignments).bind (Text.readInteger? ·.toList)
  targetFormat := given? Field.targetFormat.key assignments
  batchSize := (given? Field.batchSize.key assignments).bind (Text.readInteger? ·.toList)
  cronExpression := given? Field.cronExpression.key assignments
  isolateFailures := (given? isolationKey assignments).map readFlag
  lockTimeout := (given? Field.lockTimeout.key assignments).bind readDouble?

/-- The settings that a text gives. -/
def load (text : List Char) : Except (List Problem) Settings :=
  validate (draftOf (parse text))

end RegistryMend.Settings

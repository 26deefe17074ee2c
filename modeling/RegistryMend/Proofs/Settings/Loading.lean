import RegistryMend.Proofs.Settings.Assignments
import RegistryMend.Proofs.Settings.Validation

/-! # What loading gives

Every settings text either gives settings within their bounds or is refused with the problems of the
fields that are out of theirs. What becomes of a field hangs on the last value of its key alone:
blanks and numbers that cannot be read leave the field as it is by default.
-/

namespace RegistryMend.Settings

open RegistryMend.Journal (Level)
open RegistryMend.Repair (Repository)

/-! ## The last value of a key -/

/-- The last value that a text assigns to a key, without blanks around it, unless it is blank. -/
def lastGiven (key : String) (text : List Char) : Option String :=
  ((assigned key text).getLast?.map Text.trim).filter (· ≠ "")

theorem given?_parse (key : String) (text : List Char) :
    given? key (parse text) = lastGiven key text := by
  rw [given?, lookup_parse, lastGiven]

theorem not_allBlank_of_lastGiven {key value : String} {text : List Char}
    (given : lastGiven key text = some value) : Text.allBlank value = false := by
  obtain ⟨trimmed, some_⟩ := Option.filter_eq_some_iff.mp given
  obtain ⟨raw, -, rfl⟩ := Option.map_eq_some_iff.mp trimmed
  rw [← Bool.not_eq_true, ← Text.trim_eq_empty_iff, Text.trim_trim]
  simpa using some_

/-- The number that the last value of a key writes, if it writes one. -/
def lastNumber (key : String) (text : List Char) : Option Int :=
  (lastGiven key text).bind (Text.readInteger? ·.toList)

/-- The level that a word stands for. -/
def levelOf (word : String) : Level :=
  match word with
  | "debug" => .debug
  | "warn" | "warning" => .warning
  | "error" => .error
  | _ => .info

/-- Settings are those that the last values in a text write. -/
structure ReadFrom (text : List Char) (settings : Settings) : Prop where
  logLevel : settings.logLevel =
    ((lastGiven Field.logLevel.key text).map fun word => levelOf (Repository.plain word)).getD .info
  logMaxBytes : (settings.logMaxBytes : Int) =
    (lastNumber Field.logMaxBytes.key text).getD 10485760
  logBackupCount : (settings.logBackupCount : Int) =
    (lastNumber Field.logBackupCount.key text).getD 5
  targetFormat : settings.targetFormat =
    ((lastGiven Field.targetFormat.key text).map Repository.plain).getD "npm"
  batchSize : (settings.batchSize : Int) = (lastNumber Field.batchSize.key text).getD 100
  cronExpression : settings.cronExpression =
    ((lastGiven Field.cronExpression.key text).map singleSpaced).getD ""
  isolateFailures : settings.isolateFailures =
    ((lastGiven isolationKey text).map readFlag).getD false
  lockTimeout : settings.lockTimeout =
    ((lastGiven Field.lockTimeout.key text).bind readDouble?).getD .zero

/-! ## Problems -/

/-- The fields in the order of their declaration. -/
def Field.all : List Field :=
  [logLevel, logMaxBytes, logBackupCount, targetFormat, batchSize, cronExpression, lockTimeout]

/-- What is wrong with a number that must lie within bounds. -/
def outOfRange? (low : Nat) (high : Option Nat) (n : Int) : Option Complaint :=
  if n < low then some .tooSmall
  else if high.any (· < n) then some .tooLarge
  else none

/-- What is wrong with a value of a field, if it is not blank. -/
def Field.complaint? (value : String) : Field → Option Complaint
  | logLevel =>
    if Repository.plain value ∈ ["debug", "info", "warn", "warning", "error"] then none
    else some (.refused "LOG_LEVEL must be one of: debug, info, warn, error")
  | logMaxBytes => (Text.readInteger? value.toList).bind (outOfRange? 1024 none)
  | logBackupCount => (Text.readInteger? value.toList).bind (outOfRange? 0 (some 100))
  | targetFormat => none
  | batchSize => (Text.readInteger? value.toList).bind (outOfRange? 1 (some 10000))
  | cronExpression =>
    if (Text.words value.toList).length = 5 then none
    else some (.refused "REPAIR_CRON_EXPRESSION must have 5 fields")
  | lockTimeout => (readDouble? value).bind fun seconds =>
    if seconds.isAtLeastZero then none else some .tooSmall

/-- The problem with a field in a text, if its last value is wrong. -/
def offence? (text : List Char) (field : Field) : Option Problem :=
  ((lastGiven field.key text).bind field.complaint?).map (⟨field, ·⟩)

/-- The problems in a text, one for each field whose last value is wrong. -/
def offences (text : List Char) : List Problem :=
  Field.all.filterMap (offence? text)

/-- The complaint of a check that fails. -/
def refusal? {β : Type} : Except Complaint β → Option Complaint
  | .ok _ => none
  | .error complaint => some complaint

theorem refusal?_checkRange (low : Nat) (high : Option Nat) (n : Int) :
    refusal? (checkRange low high n) = outOfRange? low high n := by
  unfold checkRange outOfRange?
  split_ifs <;> rfl

theorem refusal?_checkLevel {value : String} (some_ : Text.allBlank value = false) :
    refusal? (checkLevel value) = Field.logLevel.complaint? value := by
  have given : Repository.plain value ≠ "" := by
    rw [Ne, plain_eq_empty_iff, some_]
    exact Bool.false_ne_true
  unfold checkLevel Field.complaint?
  split
  · next none => exact absurd none given
  all_goals simp_all [refusal?]

theorem refusal?_checkFormat {value : String} (some_ : Text.allBlank value = false) :
    refusal? (checkFormat value) = none := by
  have given : value ≠ "" := by
    rintro rfl
    cases some_
  rw [checkFormat, if_neg given, refusal?]

theorem refusal?_checkCron {value : String} (some_ : Text.allBlank value = false) :
    refusal? (checkCron value) = Field.cronExpression.complaint? value := by
  have given : (Text.words value.toList).isEmpty = false := by
    rw [List.isEmpty_eq_false_iff, Ne, Text.words_eq_nil_iff, ← List.all_eq_true, ← Text.allBlank, some_]
    exact Bool.false_ne_true
  unfold checkCron Field.complaint?
  simp only [given, Bool.false_or, beq_iff_eq]
  split <;> rfl

theorem refusal?_checkTimeout (seconds : Decimal.Double) :
    refusal? (checkTimeout seconds) = if seconds.isAtLeastZero then none else some .tooSmall := by
  unfold checkTimeout
  split <;> rfl

/-- A field has a problem if its check refuses what its last value is read as. -/
theorem problemOf_checkField {α β : Type} (text : List Char) (field : Field) (default : β)
    (check : α → Except Complaint β) (read : String → Option α)
    (spec : ∀ value, Text.allBlank value = false →
      ((read value).bind fun a => refusal? (check a)) = field.complaint? value) :
    problemOf field (checkField default check ((lastGiven field.key text).bind read)) =
      (offence? text field).toList := by
  rw [offence?]
  cases given : lastGiven field.key text with
  | none => rfl
  | some value =>
    rw [Option.bind_some, Option.bind_some, ← spec value (not_allBlank_of_lastGiven given)]
    cases read value with
    | none => rfl
    | some a => cases outcome : check a <;> simp [checkField, problemOf, refusal?, outcome]

/-- The problems of a draft are those of the last values in the text it was made from. -/
theorem problemsOf_draftOf (text : List Char) :
    problemsOf (draftOf (parse text)) = offences text := by
  have level := problemOf_checkField text .logLevel Level.info checkLevel some
    fun _ given => by rw [Option.bind_some, refusal?_checkLevel given]
  have format := problemOf_checkField text .targetFormat "npm" checkFormat some
    fun _ given => by rw [Option.bind_some, refusal?_checkFormat given, Field.complaint?]
  have cron := problemOf_checkField text .cronExpression "" checkCron some
    fun _ given => by rw [Option.bind_some, refusal?_checkCron given]
  have bytes := problemOf_checkField text .logMaxBytes 10485760 (checkRange 1024 none)
    (Text.readInteger? ·.toList) fun _ _ => by simp only [refusal?_checkRange, Field.complaint?]
  have backups := problemOf_checkField text .logBackupCount 5 (checkRange 0 (some 100))
    (Text.readInteger? ·.toList) fun _ _ => by simp only [refusal?_checkRange, Field.complaint?]
  have size := problemOf_checkField text .batchSize 100 (checkRange 1 (some 10000))
    (Text.readInteger? ·.toList) fun _ _ => by simp only [refusal?_checkRange, Field.complaint?]
  have timeout := problemOf_checkField text .lockTimeout .zero checkTimeout readDouble?
    fun _ _ => by simp only [refusal?_checkTimeout, Field.complaint?]
  rw [Option.bind_fun_some] at level format cron
  simp only [problemsOf, draftOf, given?_parse, level, bytes, backups, format, size, cron, timeout]
  simp [offences, Field.all, List.filterMap_eq_flatMap_toList]

/-! ## Settings -/

/-- Settings within their bounds: those of validation, and a format. -/
structure InRange (settings : Settings) : Prop extends Bounded settings where
  targetFormat_ne_empty : settings.targetFormat ≠ ""

theorem checkLevel_levelOf {word : String} {level : Level}
    (accepted : checkLevel word = .ok level) : level = levelOf (Repository.plain word) := by
  unfold checkLevel at accepted
  unfold levelOf
  split at accepted <;> cases accepted <;> simp_all

/-- A field that passes is what was given for it, in the form that its check gives it. -/
theorem checkField_getD {α β : Type} {default value : β} {check : α → Except Complaint β}
    {given : Option α} (form : α → β) (byCheck : ∀ a b, check a = .ok b → b = form a)
    (accepted : checkField default check given = .ok value) :
    value = (given.map form).getD default := by
  cases given with
  | none => exact (Except.ok.inj accepted).symm
  | some a => exact byCheck a value accepted

/-- A number that passes is the one that was given. -/
theorem checkRange_getD {low default k : Nat} {high : Option Nat} {given : Option Int}
    (accepted : checkField default (checkRange low high) given = .ok k) :
    (k : Int) = given.getD default := by
  cases given with
  | none => exact congrArg _ (Except.ok.inj accepted).symm
  | some n => exact (checkRange_ok accepted).1

theorem readFrom_of_checked {text : List Char} {settings : Settings}
    (checked : Checked (draftOf (parse text)) settings) : ReadFrom text settings := by
  obtain ⟨level, bytes, backups, format, size, cron, isolate, timeout⟩ := checked
  simp only [draftOf, given?_parse] at level bytes backups format size cron isolate timeout
  have seconds := checkField_getD id (fun _ _ accepted => (checkTimeout_ok accepted).1) timeout
  rw [Option.map_id_apply] at seconds
  exact {
    logLevel := checkField_getD _ (fun _ _ => checkLevel_levelOf) level
    logMaxBytes := checkRange_getD bytes
    logBackupCount := checkRange_getD backups
    targetFormat :=
      checkField_getD Repository.plain (fun _ _ accepted => (checkFormat_ok accepted).2) format
    batchSize := checkRange_getD size
    cronExpression :=
      checkField_getD singleSpaced (fun _ _ accepted => (checkCron_singleSpaced accepted).1) cron
    isolateFailures := isolate.symm
    lockTimeout := seconds }

/-- A format that was read is not empty, since no blank value is. -/
theorem ReadFrom.targetFormat_ne_empty {text : List Char} {settings : Settings}
    (read : ReadFrom text settings) : settings.targetFormat ≠ "" := by
  rw [read.targetFormat]
  cases given : lastGiven Field.targetFormat.key text with
  | none => decide
  | some word =>
    have some_ := not_allBlank_of_lastGiven given
    simp [plain_eq_empty_iff, some_]

/-- Loading a text either gives the settings that its last values write, all within their bounds,
or fails with the problems of its last values, of which there is one at least. -/
theorem load_outcome (text : List Char) :
    match load text with
    | .ok settings => InRange settings ∧ ReadFrom text settings ∧ offences text = []
    | .error problems => problems = offences text ∧ problems ≠ [] := by
  rcases validate_cases (draftOf (parse text)) with ⟨settings, accepted, checked⟩ | ⟨refused, some_⟩
  · have read := readFrom_of_checked checked
    rw [load, accepted]
    exact ⟨⟨bounded_of_validate accepted, read.targetFormat_ne_empty⟩, read,
      (problemsOf_draftOf text).symm.trans checked.problemsOf_eq⟩
  · rw [load, refused]
    exact ⟨problemsOf_draftOf text, some_⟩

example : load "REPAIR_BATCH_SIZE = 0\nLOG_MAX_BYTES = many\nLOG_LEVEL = loud".toList =
    .error [⟨.logLevel, .refused "LOG_LEVEL must be one of: debug, info, warn, error"⟩,
      ⟨.batchSize, .tooSmall⟩] := by
  rfl

end RegistryMend.Settings

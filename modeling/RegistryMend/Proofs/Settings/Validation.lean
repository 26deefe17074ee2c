import RegistryMend.Proofs.Text.Casing
import RegistryMend.Settings.Validation

/-! # What validation accepts

Validation checks each field by itself: it accepts a draft exactly if every check does, and lists
the problems of the checks that fail otherwise. What it accepts is within the bounds and in plain
form, so that checking it again changes nothing. The one exception is a format of blanks alone: as
given it is not empty, but its plain form is.
-/

namespace RegistryMend.Settings

open RegistryMend.Journal (Level)
open RegistryMend.Repair (Repository)

/-! ## All checks together -/

/-- Every field of a draft passes its check, with the settings as the results. -/
structure Checked (draft : Draft) (settings : Settings) : Prop where
  logLevel : checkField .info checkLevel draft.logLevel = .ok settings.logLevel
  logMaxBytes :
    checkField 10485760 (checkRange 1024 none) draft.logMaxBytes = .ok settings.logMaxBytes
  logBackupCount :
    checkField 5 (checkRange 0 (some 100)) draft.logBackupCount = .ok settings.logBackupCount
  targetFormat : checkField "npm" checkFormat draft.targetFormat = .ok settings.targetFormat
  batchSize : checkField 100 (checkRange 1 (some 10000)) draft.batchSize = .ok settings.batchSize
  cronExpression : checkField "" checkCron draft.cronExpression = .ok settings.cronExpression
  isolateFailures : draft.isolateFailures.getD false = settings.isolateFailures
  lockTimeout : checkField .zero checkTimeout draft.lockTimeout = .ok settings.lockTimeout

/-- The problems of the checks that fail, in the order of the fields. -/
def problemsOf (draft : Draft) : List Problem :=
  problemOf .logLevel (checkField .info checkLevel draft.logLevel) ++
    problemOf .logMaxBytes (checkField 10485760 (checkRange 1024 none) draft.logMaxBytes) ++
    problemOf .logBackupCount (checkField 5 (checkRange 0 (some 100)) draft.logBackupCount) ++
    problemOf .targetFormat (checkField "npm" checkFormat draft.targetFormat) ++
    problemOf .batchSize (checkField 100 (checkRange 1 (some 10000)) draft.batchSize) ++
    problemOf .cronExpression (checkField "" checkCron draft.cronExpression) ++
    problemOf .lockTimeout (checkField .zero checkTimeout draft.lockTimeout)

@[simp] theorem problemOf_ok {β : Type} (field : Field) (value : β) :
    problemOf field (.ok value) = [] := rfl

theorem problemOf_eq_nil_iff {β : Type} {field : Field} {result : Except Complaint β} :
    problemOf field result = [] ↔ ∃ value, result = .ok value := by
  cases result with
  | ok value => exact iff_of_true rfl ⟨value, rfl⟩
  | error complaint => simp [problemOf]

theorem Checked.problemsOf_eq {draft : Draft} {settings : Settings}
    (checked : Checked draft settings) : problemsOf draft = [] := by
  simp [problemsOf, checked.logLevel, checked.logMaxBytes, checked.logBackupCount,
    checked.targetFormat, checked.batchSize, checked.cronExpression, checked.lockTimeout]

theorem validate_of_checked {draft : Draft} {settings : Settings}
    (checked : Checked draft settings) : validate draft = .ok settings := by
  simp only [validate, checked.logLevel, checked.logMaxBytes, checked.logBackupCount,
    checked.targetFormat, checked.batchSize, checked.cronExpression, checked.lockTimeout,
    checked.isolateFailures]

/-- Either every check passes, or some do not and their problems are listed. -/
theorem validate_cases (draft : Draft) :
    (∃ settings, validate draft = .ok settings ∧ Checked draft settings) ∨
      (validate draft = .error (problemsOf draft) ∧ problemsOf draft ≠ []) := by
  by_cases clean : problemsOf draft = []
  · simp only [problemsOf, List.append_eq_nil_iff, problemOf_eq_nil_iff] at clean
    obtain ⟨⟨⟨⟨⟨⟨⟨level, isLevel⟩, ⟨bytes, isBytes⟩⟩, ⟨backups, isBackups⟩⟩, ⟨format, isFormat⟩⟩,
      ⟨size, isSize⟩⟩, ⟨cron, isCron⟩⟩, ⟨timeout, isTimeout⟩⟩ := clean
    have checked : Checked draft
        ⟨level, bytes, backups, format, size, cron, draft.isolateFailures.getD false, timeout⟩ :=
      ⟨isLevel, isBytes, isBackups, isFormat, isSize, isCron, rfl, isTimeout⟩
    exact .inl ⟨_, validate_of_checked checked, checked⟩
  · refine .inr ⟨?_, clean⟩
    dsimp only [validate]
    split
    · next level bytes backups format size cron timeout =>
      refine absurd ?_ clean
      simp only [problemsOf, List.append_eq_nil_iff, problemOf_eq_nil_iff]
      exact ⟨⟨⟨⟨⟨⟨⟨_, level⟩, ⟨_, bytes⟩⟩, ⟨_, backups⟩⟩, ⟨_, format⟩⟩, ⟨_, size⟩⟩, ⟨_, cron⟩⟩,
        ⟨_, timeout⟩⟩
    · rfl

theorem checked_of_validate {draft : Draft} {settings : Settings}
    (accepted : validate draft = .ok settings) : Checked draft settings := by
  rcases validate_cases draft with ⟨other, same, checked⟩ | ⟨refused, -⟩
  · rw [accepted] at same
    cases same
    exact checked
  · rw [accepted] at refused
    cases refused

/-! ## Each check -/

/-- What holds of the value by default and of every value that a check accepts holds of what becomes
of the field. -/
theorem checkField_ok {α β : Type} {P : β → Prop} {default value : β}
    {check : α → Except Complaint β} {given : Option α} (byDefault : P default)
    (byCheck : ∀ a b, check a = .ok b → P b)
    (accepted : checkField default check given = .ok value) : P value := by
  cases given with
  | none =>
    cases accepted
    exact byDefault
  | some a => exact byCheck a value accepted

/-- Of the levels, those that settings can have. -/
def levels : List Level := [.debug, .info, .warning, .error]

theorem checkLevel_ok {text : String} {level : Level} (accepted : checkLevel text = .ok level) :
    level ∈ levels := by
  unfold checkLevel at accepted
  split at accepted <;> cases accepted <;> decide

theorem checkLevel_name {level : Level} (known : level ∈ levels) :
    checkLevel (Text.lowerCase level.name) = .ok level := by
  revert level
  decide +kernel

theorem checkRange_ok {low k : Nat} {high : Option Nat} {n : Int}
    (accepted : checkRange low high n = .ok k) :
    (k : Int) = n ∧ low ≤ k ∧ ∀ bound ∈ high, k ≤ bound := by
  unfold checkRange at accepted
  split at accepted
  · cases accepted
  · next large =>
    split at accepted
    · cases accepted
    · next small =>
      cases accepted
      refine ⟨by omega, by omega, ?_⟩
      rintro bound rfl
      have below : n ≤ bound := by simpa using small
      omega

theorem checkRange_of_le {low k : Nat} (high : Option Nat) (large : low ≤ k)
    (small : ∀ bound ∈ high, k ≤ bound) : checkRange low high k = .ok k := by
  have fits : (high.any fun bound => decide ((bound : Int) < k)) = false := by
    cases high with
    | none => rfl
    | some bound => simpa using small bound rfl
  rw [checkRange, if_neg (by omega), fits]
  rfl

theorem checkFormat_ok {text format : String} (accepted : checkFormat text = .ok format) :
    text ≠ "" ∧ format = Repository.plain text := by
  unfold checkFormat at accepted
  split at accepted
  · cases accepted
  · next given => exact ⟨given, (Except.ok.inj accepted).symm⟩

@[simp] theorem plain_plain (text : String) :
    Repository.plain (Repository.plain text) = Repository.plain text := by
  rw [Repository.plain, Repository.plain, Text.trim_lowerCase_trim, Text.lowerCase_lowerCase]

/-- The plain form of a text is empty if there are only blanks in it. -/
theorem plain_eq_empty_iff {text : String} :
    Repository.plain text = "" ↔ Text.allBlank text = true := by
  rw [Repository.plain, Text.lowerCase_eq_empty_iff, Text.trim_eq_empty_iff]

/-- The words of a text with single spaces between them. -/
def singleSpaced (text : String) : String :=
  String.ofList ([' '].intercalate (Text.words text.toList))

@[simp] theorem words_singleSpaced (text : String) :
    Text.words (singleSpaced text).toList = Text.words text.toList := by
  rw [singleSpaced, String.toList_ofList, Text.words_intercalate]
  exact fun _ => Text.solid_of_mem_words

/-- Five texts without blanks with single spaces between them. -/
def FiveFields (expression : String) : Prop :=
  ∃ fields : List (List Char), fields.length = 5 ∧ (∀ field ∈ fields, Text.Solid field) ∧
    expression.toList = [' '].intercalate fields

theorem checkCron_singleSpaced {text expression : String}
    (accepted : checkCron text = .ok expression) :
    expression = singleSpaced text ∧
      (Text.words text.toList = [] ∨ (Text.words text.toList).length = 5) := by
  unfold checkCron at accepted
  dsimp only at accepted
  split at accepted
  · next count =>
    simp only [Bool.or_eq_true, List.isEmpty_iff, beq_iff_eq] at count
    exact ⟨(Except.ok.inj accepted).symm, count⟩
  · cases accepted

theorem checkCron_ok {text expression : String} (accepted : checkCron text = .ok expression) :
    expression = "" ∨ FiveFields expression := by
  obtain ⟨rfl, none | five⟩ := checkCron_singleSpaced accepted
  · left
    rw [singleSpaced, none]
    rfl
  · exact .inr ⟨_, five, fun _ => Text.solid_of_mem_words, String.toList_ofList⟩

theorem checkCron_of_fields {expression : String}
    (fields : expression = "" ∨ FiveFields expression) :
    checkCron expression = .ok expression := by
  rcases fields with rfl | ⟨fields, five, solid, joined⟩
  · rfl
  · have same : Text.words expression.toList = fields := by
      rw [joined, Text.words_intercalate solid]
    simp only [checkCron, same, five, beq_self_eq_true, Bool.or_true, if_true, ← joined,
      String.ofList_toList]

theorem checkTimeout_ok {given seconds : Decimal.Double}
    (accepted : checkTimeout given = .ok seconds) :
    seconds = given ∧ seconds.isAtLeastZero = true := by
  unfold checkTimeout at accepted
  split at accepted
  · next reached =>
    cases accepted
    exact ⟨rfl, reached⟩
  · cases accepted

/-! ## What is accepted -/

/-- Settings as validation gives them. -/
structure Bounded (settings : Settings) : Prop where
  logLevel : settings.logLevel ∈ levels
  logMaxBytes : 1024 ≤ settings.logMaxBytes
  logBackupCount : settings.logBackupCount ≤ 100
  targetFormat_trim : Text.trim settings.targetFormat = settings.targetFormat
  targetFormat_lowerCase : Text.lowerCase settings.targetFormat = settings.targetFormat
  batchSize : 1 ≤ settings.batchSize ∧ settings.batchSize ≤ 10000
  cronExpression : settings.cronExpression = "" ∨ FiveFields settings.cronExpression
  lockTimeout : settings.lockTimeout.isAtLeastZero = true

theorem bounded_of_validate {draft : Draft} {settings : Settings}
    (accepted : validate draft = .ok settings) : Bounded settings := by
  have checked := checked_of_validate accepted
  have bytes := checkField_ok (P := fun k => 1024 ≤ k) (by decide)
    (fun _ _ accepted => (checkRange_ok accepted).2.1) checked.logMaxBytes
  have backups := checkField_ok (P := fun k => k ≤ 100) (by decide)
    (fun _ _ accepted => (checkRange_ok accepted).2.2 100 rfl) checked.logBackupCount
  have size := checkField_ok (P := fun k => 1 ≤ k ∧ k ≤ 10000) (by decide)
    (fun _ _ accepted => ⟨(checkRange_ok accepted).2.1, (checkRange_ok accepted).2.2 10000 rfl⟩)
    checked.batchSize
  have format := checkField_ok (P := fun text => Repository.plain text = text)
    (by decide +kernel)
    (fun _ _ accepted => by rw [(checkFormat_ok accepted).2, plain_plain]) checked.targetFormat
  exact {
    logLevel := checkField_ok (by decide) (fun _ _ => checkLevel_ok) checked.logLevel
    logMaxBytes := bytes
    logBackupCount := backups
    targetFormat_trim := by rw [← format, Repository.plain, Text.trim_lowerCase_trim]
    targetFormat_lowerCase := by rw [← format, Repository.plain, Text.lowerCase_lowerCase]
    batchSize := size
    cronExpression :=
      checkField_ok (P := fun text => text = "" ∨ FiveFields text) (.inl rfl)
        (fun _ _ => checkCron_ok) checked.cronExpression
    lockTimeout :=
      checkField_ok (P := fun seconds => seconds.isAtLeastZero = true) (by decide)
        (fun _ _ accepted => (checkTimeout_ok accepted).2) checked.lockTimeout }

/-! ## Validating again -/

/-- The draft in which every one of the settings is given. -/
def asDraft (settings : Settings) : Draft where
  logLevel := some (Text.lowerCase settings.logLevel.name)
  logMaxBytes := some settings.logMaxBytes
  logBackupCount := some settings.logBackupCount
  targetFormat := some settings.targetFormat
  batchSize := some settings.batchSize
  cronExpression := some settings.cronExpression
  isolateFailures := some settings.isolateFailures
  lockTimeout := some settings.lockTimeout

theorem Bounded.plain_targetFormat {settings : Settings} (bounded : Bounded settings) :
    Repository.plain settings.targetFormat = settings.targetFormat := by
  rw [Repository.plain, bounded.targetFormat_trim, bounded.targetFormat_lowerCase]

/-- Settings as validation gives them are accepted again and left as they are, unless their format
is empty. -/
theorem Bounded.validate_asDraft {settings : Settings} (bounded : Bounded settings) :
    validate settings.asDraft =
      if settings.targetFormat = "" then .error [⟨.targetFormat, .tooShort⟩] else .ok settings := by
  have level := checkLevel_name bounded.logLevel
  have bytes := checkRange_of_le none bounded.logMaxBytes nofun
  have backups := checkRange_of_le (some 100) (Nat.zero_le settings.logBackupCount)
    fun bound isBound => Option.some.inj isBound ▸ bounded.logBackupCount
  have size := checkRange_of_le (some 10000) bounded.batchSize.1
    fun bound isBound => Option.some.inj isBound ▸ bounded.batchSize.2
  have cron := checkCron_of_fields bounded.cronExpression
  have timeout : checkTimeout settings.lockTimeout = .ok settings.lockTimeout := by
    rw [checkTimeout, bounded.lockTimeout, if_pos rfl]
  by_cases empty : settings.targetFormat = ""
  · have format : checkFormat settings.targetFormat = .error .tooShort := by
      rw [checkFormat, if_pos empty]
    simp only [validate, asDraft, checkField, level, bytes, backups, size, cron, timeout, format,
      if_pos empty, problemOf, List.nil_append, List.append_nil]
  · have format : checkFormat settings.targetFormat = .ok settings.targetFormat := by
      rw [checkFormat, if_neg empty, bounded.plain_targetFormat]
    simp only [validate, asDraft, checkField, level, bytes, backups, size, cron, timeout, format,
      if_neg empty, Option.getD_some]

/-- The format of accepted settings is empty exactly if it was given as blanks alone. -/
theorem Checked.targetFormat_eq_empty_iff {draft : Draft} {settings : Settings}
    (checked : Checked draft settings) : settings.targetFormat = "" ↔
      ∃ given, draft.targetFormat = some given ∧ Text.allBlank given = true := by
  have outcome := checked.targetFormat
  cases given : draft.targetFormat with
  | none =>
    rw [given] at outcome
    have usual : "npm" = settings.targetFormat := Except.ok.inj outcome
    rw [← usual]
    simp
  | some text =>
    rw [given] at outcome
    rw [(checkFormat_ok outcome).2, plain_eq_empty_iff]
    simp

/-- Accepted settings are accepted again and left as they are exactly if their format is not empty,
and an empty format, which blanks alone were given for, is their one problem otherwise. Either way
there can be a repository of that format. -/
theorem validate_again {draft : Draft} {settings : Settings}
    (accepted : validate draft = .ok settings) :
    (validate settings.asDraft = .ok settings ↔ settings.targetFormat ≠ "") ∧
    (settings.targetFormat = "" →
      validate settings.asDraft = .error [⟨.targetFormat, .tooShort⟩]) ∧
    (settings.targetFormat = "" ↔
      ∃ given, draft.targetFormat = some given ∧ Text.allBlank given = true) ∧
    (∀ name, ∃ repository,
      Repository.ofRow? ⟨name, settings.targetFormat, "hosted"⟩ = some repository ∧
        repository.matchesFormat settings.targetFormat = true) := by
  have bounded := bounded_of_validate accepted
  have again := bounded.validate_asDraft
  refine ⟨?_, ?_, (checked_of_validate accepted).targetFormat_eq_empty_iff, ?_⟩
  · rw [again]
    split
    · next empty => simp [empty]
    · next given => simp [given]
  · intro empty
    rw [again, if_pos empty]
  · intro name
    have hosted : Repair.RepositoryType.named? (Repository.plain "hosted") = some .hosted := by
      decide +kernel
    refine ⟨⟨name, settings.targetFormat, .hosted⟩, ?_, by simp [Repository.matchesFormat]⟩
    rw [Repository.ofRow?, hosted, bounded.plain_targetFormat]
    rfl

theorem validate_again_blank :
    let draft : Draft := { logLevel := some " WARN\n", targetFormat := some " \t" }
    let settings : Settings := { logLevel := .warning, targetFormat := "" }
    validate draft = .ok settings ∧
      validate settings.asDraft = .error [⟨.targetFormat, .tooShort⟩] := by
  have accepted : validate { logLevel := some " WARN\n", targetFormat := some " \t" } =
      .ok { logLevel := .warning, targetFormat := "" } := by rfl
  exact ⟨accepted, (validate_again accepted).2.1 rfl⟩

end RegistryMend.Settings

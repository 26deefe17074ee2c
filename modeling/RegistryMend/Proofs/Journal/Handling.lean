import RegistryMend.Journal.Handlers

/-! # What reaches which log

A record is dropped at once only if no handler would take it. So the error log gets all warnings and
what is more important, and the audit log all audited information that is not mere detail of the
scheduler, whatever the console shows.
-/

namespace RegistryMend.Journal

/-! ## Records -/

namespace Record

variable {record : Record}

/-- Whether a record is for the error log. -/
def isGrave (record : Record) : Bool :=
  Level.warning.rank ≤ record.level.rank

/-- Whether a record is for the audit log. The information of the scheduler is not. -/
def isForAudit (record : Record) : Bool :=
  record.isAudited && Level.info.rank ≤ record.tempered.level.rank

/-- Records become less important for handlers, or stay as they are. -/
theorem rank_tempered_le (record : Record) : record.tempered.level.rank ≤ record.level.rank := by
  rw [tempered]
  split
  · next chatter =>
    rw [chatter.1]
    exact (by decide : Level.debug.rank ≤ Level.info.rank)
  · exact Nat.le_refl _

@[simp] theorem isAudited_tempered (record : Record) :
    record.tempered.isAudited = record.isAudited := by
  rw [tempered]
  split <;> rfl

@[simp] theorem auditLine_tempered (stamp : String) (record : Record) :
    record.tempered.auditLine stamp = record.auditLine stamp := by
  rw [tempered]
  split <;> rfl

/-- Warnings and what is more important reach handlers as they are. -/
theorem tempered_of_isGrave (grave : record.isGrave = true) : record.tempered = record := by
  rw [tempered, if_neg]
  rintro ⟨plain, -⟩
  rw [isGrave, plain] at grave
  exact absurd grave (by decide)

/-- Only warnings and what is more important reach handlers as such. -/
theorem warning_le_rank_tempered_iff :
    Level.warning.rank ≤ record.tempered.level.rank ↔ record.isGrave = true := by
  constructor
  · intro grave
    exact decide_eq_true (Nat.le_trans grave record.rank_tempered_le)
  · intro grave
    rw [tempered_of_isGrave grave]
    exact of_decide_eq_true grave

end Record

/-- A level is found by its name. -/
@[simp] theorem rankNamed_name (level : Level) : rankNamed level.name = level.rank := by
  cases level <;> decide +kernel

/-! ## One record -/

namespace Handlers

variable (handlers : Handlers) (stamp : String) (journal : Journal) (record : Record)

/-- A record that is dropped at once is too unimportant for the console and for all information. -/
theorem rank_tempered_lt_of_dropped {handlers : Handlers} {record : Record}
    (dropped : record.level.rank < handlers.rootRank) :
    record.tempered.level.rank < handlers.consoleRank ∧
      record.tempered.level.rank < Level.info.rank := by
  have below := Nat.lt_of_le_of_lt record.rank_tempered_le dropped
  rw [rootRank] at below
  omega

theorem console_handle : (handlers.handle stamp journal record).console =
    if handlers.consoleRank ≤ record.tempered.level.rank then
      journal.console ++ (record.tempered.line stamp).escaped ++ "\n"
    else journal.console := by
  rw [handle]
  split
  · next dropped => rw [if_neg (Nat.not_le.mpr (rank_tempered_lt_of_dropped dropped).1)]
  · rfl

theorem errors_handle : (handlers.handle stamp journal record).errors =
    if record.isGrave then journal.errors.write handlers.rotation (record.line stamp)
    else journal.errors := by
  rw [handle]
  split
  · next dropped =>
    have low := (rank_tempered_lt_of_dropped dropped).2
    rw [if_neg]
    rw [← Record.warning_le_rank_tempered_iff]
    exact Nat.not_le.mpr (Nat.lt_trans low (by decide))
  · dsimp only
    by_cases grave : record.isGrave = true
    · rw [if_pos (Record.warning_le_rank_tempered_iff.mpr grave), if_pos grave,
        Record.tempered_of_isGrave grave]
    · rw [if_neg (mt Record.warning_le_rank_tempered_iff.mp grave), if_neg grave]

theorem audit_handle : (handlers.handle stamp journal record).audit =
    if record.isForAudit then journal.audit.write handlers.rotation (record.auditLine stamp)
    else journal.audit := by
  rw [handle]
  split
  · next dropped =>
    have low := (rank_tempered_lt_of_dropped dropped).2
    rw [Record.isForAudit, decide_eq_false (Nat.not_le.mpr low), Bool.and_false, if_neg (by decide)]
  · simp only [Record.isAudited_tempered, Record.auditLine_tempered, Record.isForAudit,
      Bool.and_eq_true, decide_eq_true_eq, and_comm]

end Handlers

/-! ## All records -/

/-- Writes lines one after the other. -/
def RotatingFile.writeAll (rotation : Rotation) (file : RotatingFile) (lines : List WideText) :
    RotatingFile :=
  lines.foldl (RotatingFile.write rotation) file

namespace Handlers

/-- Hands a record and its time stamp to the handlers. -/
def take (handlers : Handlers) (journal : Journal) (stamped : String × Record) : Journal :=
  handlers.handle stamped.1 journal stamped.2

variable (handlers : Handlers) (journal : Journal) (entries : List (String × Record))

/-- A log that takes some of the records holds the lines of these, in order. -/
theorem foldl_take {α : Type} (log : Journal → α) (taken : Record → Bool)
    (add : α → String × Record → α)
    (step : ∀ journal stamped, log (handlers.take journal stamped) =
      if taken stamped.2 then add (log journal) stamped else log journal) :
    log (entries.foldl handlers.take journal) =
      (entries.filter (taken ·.2)).foldl add (log journal) := by
  induction entries generalizing journal with
  | nil => rfl
  | cons stamped rest ih =>
    rw [List.foldl_cons, ih, step, List.filter_cons]
    split <;> rfl

theorem console_foldl : (entries.foldl handlers.take journal).console =
    ((entries.filter fun stamped => handlers.consoleRank ≤ stamped.2.tempered.level.rank).map
      fun stamped => (stamped.2.tempered.line stamped.1).escaped).foldl
        (fun text line => text ++ line ++ "\n") journal.console := by
  rw [List.foldl_map]
  refine handlers.foldl_take journal entries Journal.console
    (fun record => handlers.consoleRank ≤ record.tempered.level.rank) _ fun journal stamped => ?_
  simp only [decide_eq_true_eq]
  exact handlers.console_handle stamped.1 journal stamped.2

theorem errors_foldl : (entries.foldl handlers.take journal).errors =
    journal.errors.writeAll handlers.rotation
      ((entries.filter (·.2.isGrave)).map fun stamped => stamped.2.line stamped.1) := by
  rw [RotatingFile.writeAll, List.foldl_map]
  exact handlers.foldl_take journal entries Journal.errors Record.isGrave _
    fun journal stamped => handlers.errors_handle stamped.1 journal stamped.2

theorem audit_foldl : (entries.foldl handlers.take journal).audit =
    journal.audit.writeAll handlers.rotation
      ((entries.filter (·.2.isForAudit)).map fun stamped => stamped.2.auditLine stamped.1) := by
  rw [RotatingFile.writeAll, List.foldl_map]
  exact handlers.foldl_take journal entries Journal.audit Record.isForAudit _
    fun journal stamped => handlers.audit_handle stamped.1 journal stamped.2

theorem console_ofSettings (settings : Settings) :
    (entries.foldl (ofSettings settings).take journal).console =
      ((entries.filter fun stamped =>
          settings.logLevel.rank ≤ stamped.2.tempered.level.rank).map
        fun stamped => (stamped.2.tempered.line stamped.1).escaped).foldl
          (fun text line => text ++ line ++ "\n") journal.console := by
  rw [console_foldl, ofSettings, rankNamed_name]

theorem errors_ofSettings (settings : Settings) :
    (entries.foldl (ofSettings settings).take journal).errors =
      journal.errors.writeAll ⟨settings.logMaxBytes, settings.logBackupCount⟩
        ((entries.filter (·.2.isGrave)).map fun stamped => stamped.2.line stamped.1) :=
  errors_foldl (ofSettings settings) journal entries

theorem audit_ofSettings (settings : Settings) :
    (entries.foldl (ofSettings settings).take journal).audit =
      journal.audit.writeAll ⟨settings.logMaxBytes, settings.logBackupCount⟩
        ((entries.filter (·.2.isForAudit)).map fun stamped => stamped.2.auditLine stamped.1) :=
  audit_foldl (ofSettings settings) journal entries

end Handlers

/-- The error log gets exactly the warnings and what is more important, and the audit log exactly the
audited records that are information or more important once the information of the scheduler counts
as detail, in order. So the level in the settings changes nothing in either of them, nor in the files
set aside: it says no more than what the console shows. -/
theorem logs_of_settings (settings : Settings) (journal : Journal)
    (entries : List (String × Record)) :
    let rotation : Rotation := ⟨settings.logMaxBytes, settings.logBackupCount⟩
    let after := entries.foldl (Handlers.ofSettings settings).take journal
    after.errors = journal.errors.writeAll rotation
        ((entries.filter fun stamped => Level.warning.rank ≤ stamped.2.level.rank).map
          fun stamped => stamped.2.line stamped.1) ∧
      after.audit = journal.audit.writeAll rotation
        ((entries.filter fun stamped => stamped.2.event = some auditedEvent ∧
            Level.info.rank ≤ stamped.2.tempered.level.rank).map
          fun stamped => stamped.2.auditLine stamped.1) ∧
      after.console = ((entries.filter fun stamped =>
            settings.logLevel.rank ≤ stamped.2.tempered.level.rank).map
          fun stamped => (stamped.2.tempered.line stamped.1).escaped).foldl
            (fun text line => text ++ line ++ "\n") journal.console ∧
      ∀ level, let other :=
          entries.foldl (Handlers.ofSettings { settings with logLevel := level }).take journal
        other.errors = after.errors ∧ other.audit = after.audit := by
  intro rotation after
  have forAudit : (fun stamped : String × Record => decide (stamped.2.event = some auditedEvent ∧
      Level.info.rank ≤ stamped.2.tempered.level.rank)) = fun stamped => stamped.2.isForAudit := by
    funext stamped
    rw [Bool.eq_iff_iff]
    simp [Record.isForAudit, Record.isAudited]
  have errors := Handlers.errors_ofSettings journal entries
  have audit := Handlers.audit_ofSettings journal entries
  rw [forAudit]
  refine ⟨errors settings, audit settings, Handlers.console_ofSettings journal entries settings,
    fun level => ⟨?_, ?_⟩⟩
  · exact (errors { settings with logLevel := level }).trans (errors settings).symm
  · exact (audit { settings with logLevel := level }).trans (audit settings).symm

end RegistryMend.Journal

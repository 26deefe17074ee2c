import Mathlib.Data.List.Basic
import RegistryMend.Proofs.Journal.Handling
import RegistryMend.Proofs.Text.Wide
import RegistryMend.Repair.TarballReader
import RegistryMend.Storage.RootStore

/-! # The lines of the audit log

The audit log holds one entry for every correction of a package root, in the order in which they
were made, as long as no file that was set aside is dropped. Nothing in an entry is escaped: an
entry is one line if the texts in it are, and a version with a newline in it makes several lines,
of which a later one can look like an entry of its own. An entry with a lone surrogate in it cannot be
written in UTF-8.
-/

namespace RegistryMend.Journal

open RegistryMend.Repair (Event)
open RegistryMend.Storage (Blob RootMemory RootWrite Stream)

/-! ## Rotating files -/

namespace RotatingFile

variable {rotation : Rotation} {file : RotatingFile} {line : WideText}

/-- All that stands in a log, the files set aside first. -/
def text (file : RotatingFile) : List Char :=
  file.older.reverse.flatMap String.toList ++ file.current.toList

/-- Whether one of the files set aside is dropped when a line is written. -/
def Drops (rotation : Rotation) (file : RotatingFile) (line : WideText) : Prop :=
  file.isFilledBy rotation line = true ∧ 0 < rotation.backups ∧
    rotation.backups ≤ file.older.length

instance : Decidable (Drops rotation file line) :=
  inferInstanceAs (Decidable (_ ∧ _ ∧ _))

/-- Setting a file aside keeps all of the log if there is room for one more file. -/
theorem text_rotate (room : 0 < rotation.backups → file.older.length < rotation.backups) :
    (file.rotate rotation).text = file.text := by
  rw [rotate]
  split
  · rfl
  · next some_ =>
    have room := room (Nat.pos_of_ne_zero some_)
    rw [text, text]
    dsimp only
    rw [List.take_of_length_le (by omega), List.drop_of_length_le (by omega), List.append_nil,
      List.reverse_cons, List.flatMap_append]
    simp

/-- What writing a line puts into a log. -/
def written (line : WideText) : List Char :=
  match line.plain? with
  | some text => text.toList ++ ['\n']
  | none => []

/-- A line is written behind all that stands in a log. -/
theorem text_write (kept : ¬file.Drops rotation line) :
    (file.write rotation line).text = file.text ++ written line := by
  have rotated : (if file.isFilledBy rotation line then file.rotate rotation else file).text =
      file.text := by
    split
    · next filled =>
      apply text_rotate
      intro some_
      apply Nat.lt_of_not_le
      intro full
      exact kept ⟨filled, some_, full⟩
    · rfl
  rw [← rotated, write, written]
  generalize (if file.isFilledBy rotation line then file.rotate rotation else file) = ready
  cases line.plain? with
  | none => exact (List.append_nil _).symm
  | some text => simp [RotatingFile.text]

end RotatingFile

/-! ## Entries -/

/-- The entry of the audit log for an event at a time. -/
def auditLine? (describe : Fault → String) (stamped : String × Event) : Option WideText :=
  stamped.2.audited?.map fun repository =>
    (stamped.1 ++ " " ++ repository ++ " " : String) ++ stamped.2.text describe

/-- Hands the record of an event to the handlers. -/
def Handlers.log (handlers : Handlers) (describe : Fault → String) (journal : Journal)
    (stamped : String × Event) : Journal :=
  handlers.handle stamped.1 journal (.ofEvent describe stamped.2)

/-- Whether nothing of the audit log is dropped while events are logged. -/
def Handlers.KeepsAudit (handlers : Handlers) (describe : Fault → String) :
    Journal → List (String × Event) → Prop
  | _, [] => True
  | journal, stamped :: rest =>
    (∀ entry ∈ auditLine? describe stamped, ¬journal.audit.Drops handlers.rotation entry) ∧
      handlers.KeepsAudit describe (handlers.log describe journal stamped) rest

instance (handlers : Handlers) (describe : Fault → String) :
    ∀ (journal : Journal) (entries : List (String × Event)),
      Decidable (handlers.KeepsAudit describe journal entries)
  | _, [] => inferInstanceAs (Decidable True)
  | journal, stamped :: rest =>
    have := instDecidableKeepsAudit handlers describe (handlers.log describe journal stamped) rest
    inferInstanceAs (Decidable (_ ∧ _))

/-- The texts that the entry of a correction is made of. -/
def auditedTexts : Event → List WideText
  | .rootRepaired repository packageId version old new =>
    [repository, packageId, version, old.getD "None", new]
  | _ => []

section

variable (handlers : Handlers) (describe : Fault → String) (journal : Journal)

/-- A record that is not audited leaves the audit log as it is. -/
theorem audit_handle_of_not_audited {record : Record} (plain : record.isAudited = false)
    (stamp : String) : (handlers.handle stamp journal record).audit = journal.audit := by
  rw [Handlers.audit_handle, Record.isForAudit, plain]
  rfl

/-- The information of a repair that is audited is written to the audit log at any level of the
console. -/
theorem audit_handle_of_audited {record : Record} (audited : record.isAudited = true)
    (level : record.level = .info) (logger : record.logger = repairLogger) (stamp : String) :
    (handlers.handle stamp journal record).audit =
      journal.audit.write handlers.rotation (record.auditLine stamp) := by
  have tempered : record.tempered = record := by
    rw [Record.tempered, logger, if_neg]
    simp [repairLogger, schedulerLoggers]
  rw [Handlers.audit_handle, Record.isForAudit, audited, tempered, level]
  rfl

/-- What logging an event leaves of the audit log. -/
theorem audit_log (stamped : String × Event) :
    (handlers.log describe journal stamped).audit =
      match auditLine? describe stamped with
      | none => journal.audit
      | some entry => journal.audit.write handlers.rotation entry := by
  obtain ⟨stamp, event⟩ := stamped
  cases event with
  | rootRepaired repository packageId version old new =>
    exact audit_handle_of_audited handlers journal rfl rfl rfl stamp
  | _ => exact audit_handle_of_not_audited handlers journal rfl stamp

/-- An event appends its entry to the audit log, if it has one. -/
theorem text_audit_log (stamped : String × Event)
    (kept : ∀ entry ∈ auditLine? describe stamped, ¬journal.audit.Drops handlers.rotation entry) :
    (handlers.log describe journal stamped).audit.text =
      journal.audit.text ++
        (auditLine? describe stamped).toList.flatMap RotatingFile.written := by
  rw [audit_log]
  cases written : auditLine? describe stamped with
  | none => simp
  | some entry => simp [RotatingFile.text_write (kept entry written)]

/-- The audit log after a run is what it was before, with an entry for each correction. -/
theorem text_audit_foldl (entries : List (String × Event))
    (kept : handlers.KeepsAudit describe journal entries) :
    (entries.foldl (handlers.log describe) journal).audit.text =
      journal.audit.text ++
        (entries.filterMap (auditLine? describe)).flatMap RotatingFile.written := by
  induction entries generalizing journal with
  | nil => simp
  | cons stamped rest ih =>
    obtain ⟨first, others⟩ := kept
    rw [List.foldl_cons, ih _ others, text_audit_log handlers describe journal stamped first,
      List.append_assoc, ← List.flatMap_append]
    congr 2
    rw [List.filterMap_cons]
    cases auditLine? describe stamped <;> rfl

end

/-! ## Lines -/

/-- The lines of what writing an entry puts into a log. -/
def pieces (entry : WideText) : List (List Char) :=
  match entry.plain? with
  | some text => text.toList.splitOn '\n'
  | none => []

/-- Entries that each end with a newline are cut into the pieces of each. -/
theorem splitOn_flatMap_written (entries : List WideText) :
    (entries.flatMap RotatingFile.written).splitOn '\n' = entries.flatMap pieces ++ [[]] := by
  induction entries with
  | nil => rfl
  | cons entry rest ih =>
    rw [List.flatMap_cons, List.flatMap_cons, RotatingFile.written, pieces]
    cases entry.plain? with
    | none => exact ih
    | some text =>
      dsimp only
      rw [List.append_assoc, List.singleton_append, List.splitOn_append_cons_self, ih,
        List.append_assoc]

/-- A text that can be written in UTF-8 and has no newline in it. -/
def OneLine (text : WideText) : Prop :=
  text.plain?.isSome = true ∧ .char '\n' ∉ text.codes

instance (text : WideText) : Decidable (OneLine text) :=
  inferInstanceAs (Decidable (_ ∧ _))

theorem oneLine_iff {text : WideText} :
    OneLine text ↔ ∃ s : String, text = s ∧ '\n' ∉ s.toList := by
  rw [OneLine, Option.isSome_iff_exists]
  constructor
  · rintro ⟨⟨s, plain⟩, clean⟩
    obtain rfl := WideText.plain?_eq_some_iff.mp plain
    exact ⟨s, rfl, fun member => clean (List.mem_map_of_mem member)⟩
  · rintro ⟨s, rfl, clean⟩
    refine ⟨⟨s, WideText.plain?_ofString s⟩, fun member => ?_⟩
    obtain ⟨c, inside, same⟩ := List.mem_map.mp member
    cases same
    exact clean inside

theorem OneLine.append {first second : WideText} (one : OneLine first) (other : OneLine second) :
    OneLine (first ++ second) := by
  obtain ⟨s, rfl, clean⟩ := oneLine_iff.mp one
  obtain ⟨t, rfl, clean_⟩ := oneLine_iff.mp other
  refine oneLine_iff.mpr ⟨s ++ t, (WideText.ofString_append s t).symm, ?_⟩
  rw [String.toList_append, List.mem_append, not_or]
  exact ⟨clean, clean_⟩

/-- An entry is one line if all texts in it are. -/
theorem oneLine_auditLine {describe : Fault → String} {stamped : String × Event}
    {entry : WideText} (written : auditLine? describe stamped = some entry)
    (clean : ∀ text ∈ (stamped.1 : WideText) :: auditedTexts stamped.2, OneLine text) :
    OneLine entry := by
  obtain ⟨stamp, event⟩ := stamped
  rw [auditLine?, Option.map_eq_some_iff] at written
  obtain ⟨repository, about, rfl⟩ := written
  cases event with
  | rootRepaired _ packageId version old new =>
    cases about
    simp only [auditedTexts, List.forall_mem_cons] at clean
    obtain ⟨stamped, inRepository, ofPackage, ofVersion, before, after, -⟩ := clean
    have head : OneLine ((stamp ++ " " ++ repository ++ " " : String) : WideText) := by
      simp only [WideText.ofString_append]
      exact ((stamped.append (by decide)).append inRepository).append (by decide)
    have named := ((show OneLine "Package root repaired: package: " by decide).append ofPackage).append
      (show OneLine ", version: " by decide)
    exact head.append (((((named.append ofVersion).append (show OneLine ", shasum: " by decide)).append
      before).append (show OneLine " -> " by decide)).append after)
  | _ => cases about

/-- The audit log that a run leaves has a part for every correction, in order, and nothing else. The
part of an entry that can be written in UTF-8 has the pieces into which the entry is cut at its own
newlines. So every correction makes one line, the text of its entry, where all texts in an entry are of
one line. -/
theorem auditLog_lines (handlers : Handlers) (describe : Fault → String)
    (entries : List (String × Event)) (kept : handlers.KeepsAudit describe {} entries) :
    let corrections := entries.filterMap (auditLine? describe)
    let lines := (entries.foldl (handlers.log describe) {}).audit.text.splitOn '\n'
    (∃ parts, lines = List.flatten parts ++ [[]] ∧
      List.Forall₂ (fun entry part => ∀ text : String, entry = (text : WideText) →
        part = text.toList.splitOn '\n') corrections parts) ∧
      ((∀ stamped ∈ entries, ∀ text ∈ (stamped.1 : WideText) :: auditedTexts stamped.2,
          OneLine text) →
        ∃ texts : List String, corrections = texts.map WideText.ofString ∧
          lines = texts.map String.toList ++ [[]]) := by
  intro corrections lines
  have whole : lines = corrections.flatMap pieces ++ [[]] := by
    rw [← splitOn_flatMap_written corrections]
    exact congrArg (List.splitOn '\n') (text_audit_foldl handlers describe {} entries kept)
  refine ⟨⟨corrections.map pieces, whole, ?_⟩, fun clean => ?_⟩
  · rw [List.forall₂_map_right_iff, List.forall₂_same]
    rintro entry - text rfl
    rw [pieces, WideText.plain?_ofString]
  · have single : ∀ entry ∈ corrections, OneLine entry := by
      intro entry member
      obtain ⟨stamped, logged, written⟩ := List.mem_filterMap.mp member
      exact oneLine_auditLine written (clean stamped logged)
    rw [whole]
    generalize corrections = entries at single
    induction entries with
    | nil => exact ⟨[], rfl, rfl⟩
    | cons entry rest ih =>
      rw [List.forall_mem_cons] at single
      obtain ⟨text, rfl, line⟩ := oneLine_iff.mp single.1
      obtain ⟨texts, rfl, same⟩ := ih single.2
      refine ⟨text :: texts, rfl, ?_⟩
      rw [List.flatMap_cons, List.append_assoc, same, pieces, WideText.plain?_ofString]
      dsimp only
      rw [List.splitOn_eq_singleton line]
      rfl

theorem auditLog_lines_rotated :
    let handlers : Handlers := ⟨20, ⟨100, 2⟩⟩
    let describe : Fault → String := fun _ => ""
    let entries : List (String × Event) := [("10:00:00", .rootRepaired "r" "a" "1" none "new"),
      ("10:00:01", .blobMissing "b" "b"),
      ("10:00:02", .rootRepaired "r" "b" "2" (some "old") "new")]
    handlers.KeepsAudit describe {} entries ∧
      (entries.foldl (handlers.log describe) {}).audit.older.length = 1 ∧
      (entries.foldl (handlers.log describe) {}).audit.text.splitOn '\n' =
        ["10:00:00 r Package root repaired: package: a, version: 1, shasum: None -> new".toList,
          "10:00:02 r Package root repaired: package: b, version: 2, shasum: old -> new".toList,
          []] := by
  intro handlers describe entries
  have kept : handlers.KeepsAudit describe {} entries := by decide +kernel
  have clean : ∀ stamped ∈ entries, ∀ text ∈ (stamped.1 : WideText) :: auditedTexts stamped.2,
      OneLine text := by decide +kernel
  refine ⟨kept, by decide +kernel, ?_⟩
  obtain ⟨texts, same, lines⟩ := (auditLog_lines handlers describe entries kept).2 clean
  have given : entries.filterMap (auditLine? describe) = [
      "10:00:00 r Package root repaired: package: a, version: 1, shasum: None -> new",
      "10:00:02 r Package root repaired: package: b, version: 2, shasum: old -> new"].map
        WideText.ofString := by decide +kernel
  rw [lines, WideText.ofString_injective.list_map (same.symm.trans given)]
  rfl

/-- A version with a newline in it, and an entry about another package behind that. -/
def forgingVersion : String :=
  "1, shasum: x -> y\n2024-01-01 00:00:00 r Package root repaired: package: b, version: 2"

/-- A tarball of that version. -/
def forgingTarball : Storage.Bytes :=
  [31, 139, 8, 0, 0, 0, 0, 0, 0, 255, 1, 111, 2, 144, 253] ++
    Archive.asciiBytes "p/package.json" ++ List.replicate 110 0 ++
    Archive.asciiBytes "00000000157" ++ List.replicate 13 0 ++
    Archive.asciiBytes "004240" ++ [0, 32] ++ Archive.asciiBytes "0" ++ List.replicate 355 0 ++
    Archive.asciiBytes ("\x7b\"name\":\"a\",\"version\":\"1, shasum: x -> y\\n" ++
      "2024-01-01 00:00:00 r Package root repaired: package: b, version: 2\"\x7d")

/-- A run of the correction for that tarball, over a root without versions. -/
def forgingRun : Except Failure Bool × Repair.Session RootMemory :=
  let blob : Blob := ⟨"b", "new", 623, fun _ => .ok (Stream.ofBytes forgingTarball)⟩
  (Repair.reconcile Storage.memoryRoots Repair.tarballReader "r"
    ⟨1, "r", "a-1.tgz", some "b", []⟩ blob).runIn
      ⟨{ documents := [("a", "\x7b\x7d")] }, #[], 0⟩

/-- One correction with that version makes two lines, and the second tells of a correction that
was never made. -/
theorem auditLog_forged :
    let handlers := Handlers.ofSettings {}
    let entries := forgingRun.2.events.toList.map fun event => ("2026-05-06 07:08:09", event)
    forgingRun.1 = .ok true ∧ forgingRun.2.store.writes.map RootWrite.packageId = [("a" : WideText)] ∧
      handlers.KeepsAudit (fun _ => "") {} entries ∧
      (entries.foldl (handlers.log fun _ => "") {}).audit.text.splitOn '\n' =
        [("2026-05-06 07:08:09 r Package root repaired: package: a, version: 1, " ++
            "shasum: x -> y").toList,
          ("2024-01-01 00:00:00 r Package root repaired: package: b, version: 2, " ++
            "shasum: None -> new").toList, []] := by
  have ran : (forgingRun.1, forgingRun.2.store.writes.map RootWrite.packageId,
      forgingRun.2.events.toList) = (.ok true, [("a" : WideText)],
        [.manifestRead "a" forgingVersion, .rootRepaired "r" "a" forgingVersion none "new"]) := by
    decide +kernel
  rw [Prod.mk.injEq, Prod.mk.injEq] at ran
  obtain ⟨ended, written, told⟩ := ran
  rw [told]
  exact ⟨ended, written, by decide +kernel, by decide +kernel⟩

end RegistryMend.Journal

import RegistryMend.Proofs.Package.Frame
import RegistryMend.Proofs.Repair.Completeness
import RegistryMend.Proofs.Repair.Keeping
import RegistryMend.Proofs.Storage.Tables

/-! # What a repair leaves alone

A repair corrects rows and neither adds nor removes any. It leaves the rows of other repositories
as they are, and those that have no document or agree with all tarballs. What it writes into a
document comes from the manifests of the package, and all else that the document held is kept.
-/

namespace RegistryMend.Repair

open RegistryMend.Json (Members)
open RegistryMend.Package (Root)
open RegistryMend.Storage (Database RootKey RootRow Table)

/-! ## What is kept of a row -/

/-- An asset of a repository announces a version of a package with a manifest. -/
def Plan.Describes (plan : Plan) (db : Database) (key : RootKey) (version : WideText)
    (manifest : Members) : Prop :=
  ∃ asset announcement told, Holds db key.1 asset ∧
    plan.announcement? db key.1 asset = .ok (some announcement) ∧
      announcement.key key.1 = key ∧ announcement.release.version = version ∧
        plan.reader (announcement.blob.opening 0) = .ok (manifest, told)

/-- Some asset announces the version. -/
def Plan.Names (plan : Plan) (db : Database) (key : RootKey) (version : WideText) : Prop :=
  ∃ manifest, plan.Describes db key version manifest

/-- One of the manifests for the version has the field. -/
def Plan.Carries (plan : Plan) (db : Database) (key : RootKey) (version field : WideText) : Prop :=
  ∃ manifest, plan.Describes db key version manifest ∧ (manifest.find? field).isSome

/-- No asset announces another checksum than the root has. -/
def Plan.AllAgree (plan : Plan) (db : Database) (key : RootKey) (root : Root) : Prop :=
  ∀ version sha1 asset, plan.Announces db key.1 ↑key.2 version sha1 asset →
    Root.distText? version Root.shasumKey root = some ↑sha1

/-- What the repair of some repositories may make of a row. -/
structure Plan.Spares (plan : Plan) (repositories : List String) (db : Database)
    (row after : RootRow) : Prop where
  key : after.key = row.key
  /-- The revision is kept, or it is a number and a larger one takes its place. -/
  revision : after.revision = row.revision ∨
    ∃ old new, row.revision? = some old ∧ after.revision = .integer new ∧ old < new
  /-- Of other repositories, without a document, or in agreement with all assets. -/
  untouched : row.repository ∉ repositories ∨ row.document? = none ∨
    (∀ root, row.document? = some root → plan.AllAgree db row.key root) → after = row
  document : ∀ stored, row.document? = some stored → ∃ root, after.document? = some root ∧
    Root.Keeps (plan.Names db row.key) (plan.Carries db row.key) stored root

section

variable {plan : Plan} {repositories : List String} {db : Database} {row middle after : RootRow}

theorem Plan.Spares.refl (plan : Plan) (repositories : List String) (db : Database)
    (row : RootRow) : plan.Spares repositories db row row where
  key := rfl
  revision := .inl rfl
  untouched _ := rfl
  document stored found := ⟨stored, found, .refl stored⟩

theorem Plan.Spares.trans (first : plan.Spares repositories db row middle)
    (second : plan.Spares repositories db middle after) :
    plan.Spares repositories db row after where
  key := second.key.trans first.key
  revision := by
    rcases second.revision with same | ⟨between, new, number, last, grown⟩
    · rw [same]
      exact first.revision
    · refine .inr ?_
      rcases first.revision with same | ⟨old, next, number_, given, grown_⟩
      · rw [RootRow.revision?, same] at number
        exact ⟨between, new, number, last, grown⟩
      · rw [RootRow.revision?, given] at number
        cases number
        exact ⟨old, new, number_, last, grown_.trans grown⟩
  untouched free := by
    have same := first.untouched free
    subst same
    exact second.untouched free
  document stored found := by
    obtain ⟨between, found_, kept⟩ := first.document stored found
    obtain ⟨root, found__, kept_⟩ := second.document between found_
    rw [first.key] at kept_
    exact ⟨root, found__, kept.trans kept_⟩

/-- What may become of a row does not depend on the rows that there are. -/
theorem spares_withRoots (roots : Table RootRow RootRow.key) :
    plan.Spares repositories (db.withRoots roots) row after ↔
      plan.Spares repositories db row after :=
  ⟨fun spares => ⟨spares.key, spares.revision, spares.untouched, spares.document⟩,
    fun spares => ⟨spares.key, spares.revision, spares.untouched, spares.document⟩⟩

end

/-! ## Corrected rows -/

/-- The revision is not kept, and all else is. -/
theorem keeps_withRevision {named : WideText → Prop} {carried : WideText → WideText → Prop}
    (revision : String) (root : Root) :
    Root.Keeps named carried root (Storage.withRevision revision root) := by
  refine .of_eq fun key other => Assoc.lookup_insert_of_ne ?_ ..
  rintro rfl
  exact other (by decide)

section

variable {plan : Plan} {repository : String} {asset : Asset} {db after : Database}

/-- The root that is written in place of a stored one keeps of it what the manifests do not carry. -/
theorem keeps_mended (faithful : ManifestReader.Faithful plan.reader)
    (held : Holds db repository asset) {announcement : Announcement}
    (announced : plan.announcement? db repository asset = .ok (some announcement)) (stored : Root) :
    Root.Keeps (plan.Names db (announcement.key repository))
      (plan.Carries db (announcement.key repository)) stored (announcement.mended stored) := by
  obtain ⟨-, manifest, told, read, described⟩ := announcement?_reads announced
  have describes : plan.Describes db (announcement.key repository) announcement.release.version
      manifest := ⟨asset, announcement, told, held, announced, rfl, rfl, read⟩
  have names : plan.Names db (announcement.key repository) announcement.release.version :=
    ⟨manifest, describes⟩
  have merged : Root.Keeps (plan.Names db (announcement.key repository))
      (plan.Carries db (announcement.key repository)) stored
        (Package.merge stored announcement.release.fragment) := by
    rw [releaseOf_fragment described]
    exact Package.keeps_merge (faithful _ _ _ read).1 names
      (fun field given => ⟨manifest, describes, given⟩) stored
  rw [Announcement.mended]
  split
  · exact merged
  · split
    · exact merged
    · exact merged.trans (Package.keeps_updateDist names _ _)

/-- A visit corrects the row of the package that the asset announces, if it disagrees, and leaves
all others as they are. -/
theorem Visit.spares (faithful : ManifestReader.Faithful plan.reader) {repositories : List String}
    (chosen : repository ∈ repositories) (held : Holds db repository asset)
    {result : Except Failure Bool} {events : Array Event}
    (visit : Visit plan repository asset db result after events) :
    List.Forall₂ (plan.Spares repositories db) db.roots.rows after.roots.rows := by
  cases visit with
  | @mended announcement stored revision _ announced _ found differs _ permitted =>
    obtain ⟨row, present, read⟩ := Option.bind_eq_some_iff.mp found
    have storable := Database.storable_document found
    have written := (corrects_mended faithful announced
      (Storage.storable_withRevision storable revision)).storable
    have keyed : row.key = announcement.key repository := Table.key_of_find? present
    have free : db.refusalOf? row = none := by
      rwa [Database.refusal?, present] at permitted
    obtain ⟨number, counted, -⟩ :=
      row.isRevisable_iff.mp (Database.refusalOf?_eq_none_iff.mp free).2
    rw [Database.written, Database.revision?_of_find? present]
    refine Table.forall₂_put (fun row => .refl plan repositories db row) present ?_
    constructor
    · exact keyed.symm
    · refine .inr ⟨number, number + 1, counted, ?_, Int.lt_succ number⟩
      rw [counted]
      rfl
    · rintro (other | absent | agree)
      · have same : row.repository = repository := congrArg Prod.fst keyed
        exact absurd (same ▸ chosen) other
      · rw [read] at absent
        cases absent
      · refine absurd (agree stored read _ _ asset ?_) differs
        rw [keyed]
        exact ⟨held, announcement, announced, announcement.named, rfl, rfl⟩
    · intro stored_ read_
      rw [read] at read_
      cases read_
      refine ⟨_, Storage.document?_nextRow written .., ?_⟩
      rw [keyed]
      exact (keeps_withRevision revision stored).trans <|
        (keeps_mended faithful held announced _).trans <|
          (keeps_withRevision _ _).trans (Root.keeps_sorted (Storage.storable_withRevision written _))
  | _ => exact List.forall₂_same.mpr fun row _ => .refl plan repositories db row

end

/-! ## Whole passes -/

/-- What visits leave alone is left alone by passes. -/
theorem spares_kept {plan : Plan} (faithful : ManifestReader.Faithful plan.reader)
    (repositories : List String) : plan.Kept repositories fun db after =>
      (∃ roots, after = db.withRoots roots) ∧
        List.Forall₂ (plan.Spares repositories db) db.roots.rows after.roots.rows where
  refl db := ⟨⟨db.roots, rfl⟩, List.forall₂_same.mpr fun row _ => .refl plan repositories db row⟩
  trans := by
    rintro first _ _ ⟨⟨roots, rfl⟩, one⟩ ⟨⟨roots_, rfl⟩, other⟩
    have other_ := other.imp fun _ _ => (spares_withRoots roots).mp
    refine ⟨⟨roots_, rfl⟩, Storage.forall₂_trans ?_ one other_⟩
    exact fun first second => first.trans second
  visit chosen held visit := ⟨visit.frame, visit.spares faithful chosen held⟩

/-- However a pass ends, it leaves the keys of all rows, and spares them one by one. Nothing but
package roots changes. -/
theorem repair_spares {plan : Plan} (tarballs : plan.reader = tarballReader)
    (session : Session Premises) :
    let db := session.store.opened
    let after := ((repair plan).runIn session).2.store.opened
    (∃ roots, after = db.withRoots roots) ∧
      after.roots.rows.map RootRow.key = db.roots.rows.map RootRow.key ∧
      List.Forall₂ (plan.Spares (plan.selected session.store.database) db) db.roots.rows
        after.roots.rows := by
  have faithful : ManifestReader.Faithful plan.reader := tarballs ▸ tarballReader_faithful
  obtain ⟨result, after, events, runs, run⟩ := exists_passRun plan session.store
  obtain ⟨-, stored, -⟩ := runs.seen
  obtain ⟨frame, spares⟩ := run.keeps (spares_kept faithful _)
  intro db after_
  have same : after_ = after.opened := congrArg Premises.opened stored
  rw [same]
  have keys : List.Forall₂ Eq (db.roots.rows.map RootRow.key)
      (after.opened.roots.rows.map RootRow.key) :=
    List.forall₂_map_left_iff.mpr (List.forall₂_map_right_iff.mpr
      (spares.imp fun _ _ spare => spare.key.symm))
  rw [List.forall₂_eq_eq_eq] at keys
  exact ⟨frame, keys.symm, spares⟩

/-- A root with a stale version, another version, and a field of its own. -/
def mixedRow (repository : String) : RootRow :=
  ⟨repository, "a", .integer 1, "\x7b\"readme\":\"text\",\"versions\":\x7b\"0\":\x7b\x7d," ++
    "\"1\":\x7b\"main\":\"a.js\"\x7d\x7d\x7d"⟩

/-- The database with this root in two repositories, of which only the first is listed. -/
def mixedDatabase : Database :=
  { staleDatabase with
    repositories := .put .empty ⟨"r", "npm", "hosted"⟩
    roots := ⟨[mixedRow "r", mixedRow "s"], by decide⟩ }

/-- The root is corrected in the one repository and stays as it is in the other. -/
theorem repair_spares_mixed :
    let session : Session Premises := ⟨{ database := some mixedDatabase }, #[], 0⟩
    ∃ row, ((repair stalePlan).runIn session).2.store.opened.roots.rows = [row, mixedRow "s"] ∧
      row.revision = .integer 2 ∧ stalePlan.Spares ["r"] mixedDatabase (mixedRow "r") row := by
  intro session
  have selected : stalePlan.selected (some mixedDatabase) = ["r"] := by decide +kernel
  have revisions : ((repair stalePlan).runIn
      ⟨{ database := some mixedDatabase }, #[], 0⟩).2.store.opened.roots.rows.map RootRow.revision =
        [.integer 2, .integer 1] := by decide +kernel
  obtain ⟨-, -, spares⟩ := @repair_spares stalePlan rfl session
  have spares_ : List.Forall₂ (stalePlan.Spares ["r"] mixedDatabase) [mixedRow "r", mixedRow "s"]
      ((repair stalePlan).runIn session).2.store.opened.roots.rows := selected ▸ spares
  obtain ⟨row, rest, spare, others, rows⟩ := List.forall₂_cons_left_iff.mp spares_
  obtain ⟨other, last, spare_, none_, rfl⟩ := List.forall₂_cons_left_iff.mp others
  rw [List.forall₂_nil_left_iff.mp none_] at rows
  have same : other = mixedRow "s" := spare_.untouched (.inl (by decide))
  rw [rows] at revisions
  rw [same] at rows
  exact ⟨row, rows, (List.cons.inj revisions).1, spare⟩

end RegistryMend.Repair

import RegistryMend.Proofs.Package.Ids
import RegistryMend.Proofs.Repair.Batches
import RegistryMend.Proofs.Repair.Rewriting

/-! # Assets in any order

Visits do to every row what the announcements of their assets do, one after the other. They succeed
if every asset can be read and every row may be replaced as often as it is rewritten. Assets that
announce different versions can therefore be visited in any order, if all documents have a tag
`latest`.
-/

namespace RegistryMend.Repair

open RegistryMend.Package (Root)
open RegistryMend.Storage (Database RootRow nextRow withRevision)

/-- What an asset announces, if that can be read. -/
def Plan.told? (plan : Plan) (db : Database) (repository : String) (asset : Asset) :
    Option Announcement :=
  match plan.announcement? db repository asset with
  | .ok announcement => announcement
  | .error _ => none

theorem told?_eq_some_iff {plan : Plan} {db : Database} {repository : String} {asset : Asset}
    {announcement : Announcement} : plan.told? db repository asset = some announcement ↔
      plan.announcement? db repository asset = .ok (some announcement) := by
  rw [Plan.told?]
  cases plan.announcement? db repository asset with
  | error failure => simp
  | ok announcement? => simp

/-- The row that announcements leave in the place of a row, one after the other. -/
def rewriteAll (repository : String) (announcements : List Announcement) (row : RootRow) :
    RootRow :=
  announcements.foldl (fun row announcement => announcement.rewritten repository row) row

/-! ## Visits as rewritings -/

section Visits

variable {plan : Plan} {repository : String} {asset : Asset} {db after : Database}
  {events : Array Event}

/-- A row that agrees with an announcement, or is another's, is left. -/
theorem rewritten_of_agrees {announcement : Announcement}
    (agrees : announcement.Agrees repository db) {row : RootRow} (member : row ∈ db.roots.rows) :
    announcement.rewritten repository row = row := by
  refine rewritten_of_not ?_
  rintro ⟨own, stored, found, differs⟩
  refine differs (agrees stored ?_)
  rw [← own, Database.document?, Storage.Table.find?_of_mem member]
  exact found

/-- A visit that does not fail rewrites the rows. -/
theorem Visit.rows (faithful : ManifestReader.Faithful plan.reader) {changed : Bool}
    (visit : Visit plan repository asset db (.ok changed) after events) :
    after.roots.rows = db.roots.rows.map
      (rewriteAll repository (plan.told? db repository asset).toList) := by
  cases visit with
  | silent announced =>
    rw [Plan.told?, announced]
    exact (List.map_id' _).symm
  | agreeing announced _ agrees =>
    rw [told?_eq_some_iff.mpr announced]
    exact (List.map_congr_left fun row member => rewritten_of_agrees agrees member).trans
      (List.map_id' _) |>.symm
  | @mended announcement stored revision _ announced _ found differs =>
    rw [told?_eq_some_iff.mpr announced]
    obtain ⟨row, present, document⟩ := Option.bind_eq_some_iff.mp found
    have own : row.key = announcement.key repository := Storage.Table.key_of_find? present
    have written : nextRow (announcement.key repository)
        (db.revision? (announcement.key repository))
        (announcement.mended (withRevision revision stored)) =
          announcement.rewritten repository row := by
      have concerns : announcement.Concerns repository row := ⟨own, stored, document, differs⟩
      obtain ⟨_, document_, same⟩ := rewritten_of_concerns concerns
      cases document.symm.trans document_
      rw [same, Database.revision?_of_find? present, own]
      exact nextRow_mended faithful announced (row.storable_document document) ..
    have held : db.roots.find? (announcement.rewritten repository row).key = some row := by
      rw [key_rewritten, own, present]
    rw [Database.written, written]
    refine (Storage.Table.rows_put held).trans (List.map_congr_left fun r member => ?_)
    have single : rewriteAll repository (some announcement).toList r =
        announcement.rewritten repository r := rfl
    rw [single, key_rewritten]
    by_cases same : r.key = row.key
    · have found_ := Storage.Table.find?_of_mem member
      rw [same, own, present] at found_
      rw [if_pos same, Option.some.inj found_]
    · rw [if_neg same, rewritten_of_not fun concerns => same (concerns.1.trans own.symm)]

@[simp] theorem key_rewriteAll (repository : String) (announcements : List Announcement)
    (row : RootRow) : (rewriteAll repository announcements row).key = row.key := by
  induction announcements generalizing row with
  | nil => rfl
  | cons first rest ih => exact (ih _).trans key_rewritten

theorem rewriteAll_append (repository : String) (first second : List Announcement) (row : RootRow) :
    rewriteAll repository (first ++ second) row =
      rewriteAll repository second (rewriteAll repository first row) :=
  List.foldl_append

/-- What assets announce, as far as it can be read. -/
def Plan.announcements (plan : Plan) (db : Database) (repository : String) (assets : List Asset) :
    List Announcement :=
  assets.filterMap (plan.told? db repository)

theorem announcements_cons (plan : Plan) (db : Database) (repository : String) (asset : Asset)
    (rest : List Asset) : plan.announcements db repository (asset :: rest) =
      (plan.told? db repository asset).toList ++ plan.announcements db repository rest := by
  rw [Plan.announcements, Plan.announcements, List.filterMap_cons]
  cases plan.told? db repository asset <;> rfl

theorem announced_of_mem {assets : List Asset} {announcement : Announcement}
    (member : announcement ∈ plan.announcements db repository assets) :
    ∃ asset, plan.announcement? db repository asset = .ok (some announcement) := by
  obtain ⟨asset, -, told⟩ := List.mem_filterMap.mp member
  exact ⟨asset, told?_eq_some_iff.mp told⟩

/-- Visits that do not fail rewrite the rows. -/
theorem Visits.rows (faithful : ManifestReader.Faithful plan.reader) {assets : List Asset}
    {repaired : Nat} (visits : Visits plan repository assets db (.ok repaired) after events) :
    after.roots.rows = db.roots.rows.map
      (rewriteAll repository (plan.announcements db repository assets)) := by
  generalize given : (Except.ok repaired : Except Failure Nat) = result at visits
  induction visits generalizing repaired with
  | nil => exact (List.map_id' _).symm
  | stop first => cases given
  | @next asset rest db middle _ _ inner _ _ first later ih =>
    cases inner with
    | error failure => cases given
    | ok count =>
      have rows := first.visit.rows faithful
      obtain ⟨roots, rfl⟩ := first.visit.frame
      rw [ih rfl, rows, List.map_map, announcements_cons]
      refine List.map_congr_left fun row _ => ?_
      exact (rewriteAll_append ..).symm

end Visits

/-! ## Visits that succeed -/

/-- What an asset announces can be read, and be looked up if it is a release. -/
def Plan.Tells (plan : Plan) (repository : String) (db : Database) (asset : Asset) : Prop :=
  ∃ told, plan.announcement? db repository asset = .ok told ∧
    (told.isSome → db.holds .packageRoots = true)

/-- A row may be replaced by every announcement that concerns it, one after the other. -/
def Allows (repository : String) (db : Database) : List Announcement → RootRow → Prop
  | [], _ => True
  | first :: rest, row => (first.Concerns repository row → db.refusalOf? row = none) ∧
      Allows repository db rest (first.rewritten repository row)

theorem allows_append {repository : String} {db : Database} {first second : List Announcement}
    {row : RootRow} : Allows repository db (first ++ second) row ↔
      Allows repository db first row ∧
        Allows repository db second (rewriteAll repository first row) := by
  induction first generalizing row with
  | nil => exact (iff_of_eq (true_and _)).symm
  | cons announcement rest ih =>
    rw [List.cons_append, Allows, Allows, ih, and_assoc]
    rfl

/-- Databases that refuse the same rows let the same announcements through. -/
theorem allows_congr {repository : String} {db other : Database}
    (same : ∀ row, db.refusalOf? row = other.refusalOf? row) {announcements : List Announcement}
    {row : RootRow} :
    Allows repository db announcements row ↔ Allows repository other announcements row := by
  induction announcements generalizing row with
  | nil => rfl
  | cons first rest ih => rw [Allows, Allows, same, ih]

section Succeeding

variable {plan : Plan} {repository : String} {asset : Asset} {db after : Database}
  {events : Array Event}

/-- A document has another checksum than an announced one if its row is concerned. -/
theorem concerns_iff {announcement : Announcement} {row : RootRow} (member : row ∈ db.roots.rows) :
    announcement.Concerns repository row ↔ db.roots.find? (announcement.key repository) = some row ∧
      ¬announcement.Agrees repository db := by
  have found := Storage.Table.find?_of_mem member
  constructor
  · rintro ⟨own, stored, document, differs⟩
    rw [own] at found
    refine ⟨found, fun agrees => differs (agrees stored ?_)⟩
    rw [Database.document?, found]
    exact document
  · rintro ⟨found_, disagrees⟩
    have own : row.key = announcement.key repository := Storage.Table.key_of_find? found_
    refine ⟨own, ?_⟩
    by_contra spared
    refine disagrees fun stored document => ?_
    rw [Database.document?, found_] at document
    by_contra differs
    exact spared ⟨stored, document, differs⟩

/-- An announcement is let through if the document agrees, or its row may be replaced. -/
theorem allows_singleton_iff {announcement : Announcement} :
    (∀ row ∈ db.roots.rows, Allows repository db [announcement] row) ↔
      ∀ failure, ¬(¬announcement.Agrees repository db ∧
        db.refusal? (announcement.key repository) = some failure) := by
  constructor
  · rintro allowed failure ⟨disagrees, refused⟩
    obtain ⟨row, found, refused⟩ := Option.bind_eq_some_iff.mp refused
    have member := List.mem_of_find?_eq_some found
    rw [(allowed row member).1 ((concerns_iff member).mpr ⟨found, disagrees⟩)] at refused
    cases refused
  · intro unrefused row member
    refine ⟨fun concerns => ?_, trivial⟩
    obtain ⟨found, disagrees⟩ := (concerns_iff member).mp concerns
    cases refused : db.refusalOf? row with
    | none => rfl
    | some failure =>
      refine absurd ⟨disagrees, ?_⟩ (unrefused failure)
      rw [Database.refusal?, found]
      exact refused

/-- A visit succeeds if the asset tells what it announces, and its row may be replaced if need be. -/
theorem Visit.passes_iff {result : Except Failure Bool}
    (visit : Visit plan repository asset db result after events) :
    (∃ changed, result = .ok changed) ↔ plan.Tells repository db asset ∧
      ∀ row ∈ db.roots.rows,
        Allows repository db (plan.told? db repository asset).toList row := by
  cases visit with
  | silent announced =>
    refine iff_of_true ⟨false, rfl⟩ ⟨⟨none, announced, by simp⟩, fun row member => ?_⟩
    rw [Plan.told?, announced]
    trivial
  | unreadable announced =>
    refine iff_of_false (by simp) ?_
    rintro ⟨⟨told, announced_, -⟩, -⟩
    rw [announced] at announced_
    cases announced_
  | agreeing announced usable agrees =>
    refine iff_of_true ⟨false, rfl⟩ ⟨⟨_, announced, fun _ => usable⟩, ?_⟩
    rw [told?_eq_some_iff.mpr announced]
    exact allows_singleton_iff.mpr fun failure refused => refused.1 agrees
  | mended announced usable found differs _ permitted =>
    refine iff_of_true ⟨true, rfl⟩ ⟨⟨_, announced, fun _ => usable⟩, ?_⟩
    rw [told?_eq_some_iff.mpr announced]
    refine allows_singleton_iff.mpr fun failure refused => ?_
    rw [permitted] at refused
    cases refused.2
  | failed announced refused =>
    refine iff_of_false (by simp) ?_
    rintro ⟨⟨told, announced_, usable⟩, allowed⟩
    rw [announced] at announced_
    cases announced_
    rw [told?_eq_some_iff.mpr announced] at allowed
    rcases refused with ⟨unusable, -⟩ | ⟨-, refused⟩
    · rw [usable rfl] at unusable
      cases unusable
    · exact allows_singleton_iff.mp allowed _ refused

/-- Visits succeed if the assets tell what they announce, and every row may be replaced as often as it
is rewritten. -/
theorem Visits.passes_iff (faithful : ManifestReader.Faithful plan.reader) {assets : List Asset}
    {result : Except Failure Nat} (visits : Visits plan repository assets db result after events) :
    (∃ repaired, result = .ok repaired) ↔ (∀ asset ∈ assets, plan.Tells repository db asset) ∧
      ∀ row ∈ db.roots.rows,
        Allows repository db (plan.announcements db repository assets) row := by
  induction visits with
  | nil => exact iff_of_true ⟨0, rfl⟩ ⟨by simp, fun _ _ => trivial⟩
  | stop first =>
    refine iff_of_false (by simp) ?_
    rintro ⟨tells, allows⟩
    have passes := first.visit.passes_iff.mpr ⟨tells _ (List.mem_cons_self ..), fun row member => by
      have allowed := allows row member
      rw [announcements_cons, allows_append] at allowed
      exact allowed.1⟩
    obtain ⟨_, succeeded⟩ := passes
    cases succeeded
  | @next asset rest db middle _ changed inner _ _ first later ih =>
    obtain ⟨tells, allows⟩ := first.visit.passes_iff.mp ⟨changed, rfl⟩
    have rows := first.visit.rows faithful
    obtain ⟨roots, rfl⟩ := first.visit.frame
    have same : (∃ repaired, inner.map ((if changed then 1 else 0) + ·) = .ok repaired) ↔
        ∃ repaired, inner = .ok repaired := by
      cases inner <;> simp [Except.map]
    have still {announcements : List Announcement} {row : RootRow} :
        Allows repository (db.withRoots roots) announcements row ↔
          Allows repository db announcements row := by
      apply allows_congr
      intro row
      rfl
    rw [same, ih, List.forall_mem_cons, rows, List.forall_mem_map, announcements_cons]
    constructor
    · rintro ⟨others, allows_⟩
      exact ⟨⟨tells, others⟩, fun row member =>
        allows_append.mpr ⟨allows row member, still.mp (allows_ row member)⟩⟩
    · rintro ⟨⟨-, others⟩, allows_⟩
      exact ⟨others, fun row member =>
        still.mpr (allows_append.mp (allows_ row member)).2⟩

end Succeeding

/-! ## Orders -/

/-- Two assets do not announce the same version of the same package. -/
def Plan.Differ (plan : Plan) (db : Database) (repository : String) (asset other : Asset) : Prop :=
  ∀ first second, plan.announcement? db repository asset = .ok (some first) →
    plan.announcement? db repository other = .ok (some second) →
      (first.release.id, first.release.version) ≠ (second.release.id, second.release.version)

section Orders

variable {plan : Plan} {repository : String} {db : Database} {asset other : Asset}

/-- The package of an announcement is the one that the manifest names. -/
theorem announcement?_parses {announcement : Announcement}
    (announced : plan.announcement? db repository asset = .ok (some announcement)) :
    ∃ name, Package.Id.parse name = .ok announcement.release.id := by
  obtain ⟨-, manifest, -, -, described⟩ := announcement?_reads announced
  rw [releaseOf] at described
  split at described
  · cases described
  · next id parsed =>
    rw [← Except.ok.inj described]
    exact ⟨_, parsed⟩

/-- Assets that announce the same package announce different versions of it. -/
theorem Plan.Differ.version (differ : plan.Differ db repository asset other)
    {first second : Announcement}
    (announced : plan.announcement? db repository asset = .ok (some first))
    (announced_ : plan.announcement? db repository other = .ok (some second))
    (same : first.key repository = second.key repository) :
    first.release.version ≠ second.release.version := by
  intro version
  obtain ⟨_, parsed⟩ := announcement?_parses announced
  obtain ⟨_, parsed_⟩ := announcement?_parses announced_
  have id : first.release.id = second.release.id :=
    Package.id_eq_of_text parsed parsed_ (Announcement.key_eq_iff.mp same)
  exact differ first second announced announced_ (Prod.ext id version)

/-- Announcements of different versions leave the same row in any order. -/
theorem rewriteAll_perm (faithful : ManifestReader.Faithful plan.reader)
    {announcements others : List Announcement} (perm : announcements.Perm others)
    (announced : ∀ announcement ∈ announcements,
      ∃ asset, plan.announcement? db repository asset = .ok (some announcement))
    (differ : announcements.Pairwise fun first second =>
      first.key repository = second.key repository →
        first.release.version ≠ second.release.version)
    {row : RootRow} (tagged : row.Tagged) :
    rewriteAll repository announcements row = rewriteAll repository others row := by
  induction perm generalizing row with
  | nil => rfl
  | cons first _ ih =>
    obtain ⟨asset, announced_⟩ := announced first (List.mem_cons_self ..)
    exact ih (fun announcement member => announced announcement (List.mem_cons_of_mem _ member))
      (List.pairwise_cons.mp differ).2 (tagged_rewritten faithful announced_ tagged)
  | swap first second rest =>
    obtain ⟨asset, announced_⟩ := announced second (List.mem_cons_self ..)
    obtain ⟨other, announced⟩ := announced first (by simp)
    have apart := (List.pairwise_cons.mp differ).1 first (List.mem_cons_self ..)
    exact congrArg (rewriteAll repository rest)
      (rewritten_comm faithful announced_ announced apart tagged)
  | trans one _ ih ih_ =>
    have symm {first second : Announcement}
        (apart : first.key repository = second.key repository →
          first.release.version ≠ second.release.version)
        (same : second.key repository = first.key repository) :
        second.release.version ≠ first.release.version :=
      (apart same.symm).symm
    rw [ih announced differ tagged]
    exact ih_ (fun announcement member => announced announcement (one.mem_iff.mpr member))
      ((one.pairwise_iff symm).mp differ) tagged

/-- How often a row may still be replaced does not depend on which version was rewritten. -/
theorem refusalOf?_rewritten {first second : Announcement} {row : RootRow}
    (one : first.Concerns repository row) (two : second.Concerns repository row) :
    db.refusalOf? (first.rewritten repository row) =
      db.refusalOf? (second.rewritten repository row) := by
  obtain ⟨_, -, same⟩ := rewritten_of_concerns one
  obtain ⟨_, -, same_⟩ := rewritten_of_concerns two
  rw [same, same_]
  rfl

/-- Announcements of different versions are let through in any order. -/
theorem allows_perm (faithful : ManifestReader.Faithful plan.reader)
    {announcements others : List Announcement} (perm : announcements.Perm others)
    (announced : ∀ announcement ∈ announcements,
      ∃ asset, plan.announcement? db repository asset = .ok (some announcement))
    (differ : announcements.Pairwise fun first second =>
      first.key repository = second.key repository →
        first.release.version ≠ second.release.version)
    {row : RootRow} (tagged : row.Tagged) :
    Allows repository db announcements row ↔ Allows repository db others row := by
  induction perm generalizing row with
  | nil => rfl
  | cons first _ ih =>
    obtain ⟨asset, announced_⟩ := announced first (List.mem_cons_self ..)
    refine and_congr_right fun _ => ?_
    exact ih (fun announcement member => announced announcement (List.mem_cons_of_mem _ member))
      (List.pairwise_cons.mp differ).2 (tagged_rewritten faithful announced_ tagged)
  | swap first second rest =>
    obtain ⟨asset, announced_⟩ := announced second (List.mem_cons_self ..)
    obtain ⟨other, announced⟩ := announced first (by simp)
    have apart := (List.pairwise_cons.mp differ).1 first (List.mem_cons_self ..)
    have behind : first.Concerns repository (second.rewritten repository row) ↔ _ :=
      concerns_rewritten faithful announced_ fun same => Ne.symm (apart same)
    have behind_ : second.Concerns repository (first.rewritten repository row) ↔ _ :=
      concerns_rewritten faithful announced fun same => apart same.symm
    simp only [Allows, behind, behind_, rewritten_comm faithful announced_ announced apart tagged,
      ← and_assoc]
    refine and_congr_left fun _ => ?_
    by_cases one : first.Concerns repository row
    · by_cases two : second.Concerns repository row
      · simp only [one, two, refusalOf?_rewritten one two, true_imp_iff]
      · simp only [one, two, rewritten_of_not two, true_imp_iff, false_imp_iff, true_and, and_true]
    · simp only [one, rewritten_of_not one, false_imp_iff, and_true, true_and]
  | trans one _ ih ih_ =>
    have symm {first second : Announcement}
        (apart : first.key repository = second.key repository →
          first.release.version ≠ second.release.version)
        (same : second.key repository = first.key repository) :
        second.release.version ≠ first.release.version :=
      (apart same.symm).symm
    rw [ih announced differ tagged]
    exact ih_ (fun announcement member => announced announcement (one.mem_iff.mpr member))
      ((one.pairwise_iff symm).mp differ) tagged

theorem pairwise_announcements {assets : List Asset}
    (distinct : assets.Pairwise (plan.Differ db repository)) :
    (plan.announcements db repository assets).Pairwise fun first second =>
      first.key repository = second.key repository →
        first.release.version ≠ second.release.version := by
  refine distinct.filterMap _ fun asset other differ => ?_
  intro first told second told_
  exact differ.version (told?_eq_some_iff.mp told) (told?_eq_some_iff.mp told_)

/-- Visits that succeed leave the same rows in any order. -/
theorem Visits.rows_perm (faithful : ManifestReader.Faithful plan.reader) (tagged : db.Tagged)
    {assets : List Asset} (distinct : assets.Pairwise (plan.Differ db repository))
    {announcements : List Announcement}
    (perm : (plan.announcements db repository assets).Perm announcements) {repaired : Nat}
    {after : Database} {events : Array Event}
    (visits : Visits plan repository assets db (.ok repaired) after events) :
    after.roots.rows = db.roots.rows.map (rewriteAll repository announcements) := by
  have announced : ∀ announcement ∈ plan.announcements db repository assets,
      ∃ asset, plan.announcement? db repository asset = .ok (some announcement) :=
    fun announcement => announced_of_mem
  rw [visits.rows faithful]
  refine List.map_congr_left fun row member => ?_
  exact rewriteAll_perm faithful perm announced (pairwise_announcements distinct) (tagged row member)

/-- Assets that announce different versions can be worked on in any order in a transaction: it
succeeds or not, and leaves the same database. -/
theorem processAssets_perm (faithful : ManifestReader.Faithful plan.reader)
    {assets others : List Asset} (perm : assets.Perm others) {session : Session Database}
    (tagged : session.store.Tagged)
    (distinct : assets.Pairwise (plan.Differ session.store repository)) :
    let run (assets : List Asset) :=
      (runBatch repository (processAssets plan repository assets)).runIn session
    ((∃ repaired, (run assets).1 = .ok repaired) ↔ ∃ repaired, (run others).1 = .ok repaired) ∧
      (run assets).2.store = (run others).2.store := by
  intro run
  obtain ⟨result, after, events, visits⟩ := exists_visits plan repository assets session.store
  obtain ⟨result_, after_, events_, visits_⟩ := exists_visits plan repository others session.store
  obtain ⟨ended, left, -⟩ := ((visits.runs session.store).runBatch repository).seen
  obtain ⟨ended_, left_, -⟩ := ((visits_.runs session.store).runBatch repository).seen
  have alike : (∃ repaired, result = .ok repaired) ↔ ∃ repaired, result_ = .ok repaired := by
    rw [visits.passes_iff faithful, visits_.passes_iff faithful]
    refine and_congr (forall_congr' fun asset => imp_congr_left perm.mem_iff) ?_
    exact forall₂_congr fun row member => allows_perm faithful (perm.filterMap _)
      (fun _ => announced_of_mem) (pairwise_announcements distinct) (tagged row member)
  cases result with
  | error failure =>
    cases result_ with
    | error failure_ =>
      refine ⟨?_, left.trans left_.symm⟩
      rw [ended, ended_]
      simp [Except.mapError]
    | ok repaired =>
      obtain ⟨_, succeeded⟩ := alike.mpr ⟨repaired, rfl⟩
      cases succeeded
  | ok repaired =>
    obtain ⟨repaired_, rfl⟩ := alike.mp ⟨repaired, rfl⟩
    refine ⟨iff_of_true ⟨repaired, ended⟩ ⟨repaired_, ended_⟩, ?_⟩
    have rows := visits.rows_perm faithful tagged distinct (perm.filterMap _)
    have rows_ := visits_.rows faithful
    obtain ⟨roots, rfl⟩ := visits.frame
    obtain ⟨roots_, rfl⟩ := visits_.frame
    have same : roots = roots_ := Storage.Table.ext_rows (rows.trans rows_.symm)
    exact left.trans ((congrArg session.store.withRoots same).trans left_.symm)

end Orders

end RegistryMend.Repair

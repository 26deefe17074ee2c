import RegistryMend.Proofs.Repair.Numbering

/-! # Rows without effect

Some assets leave no trace: those that are no tarballs or have no blob, those whose blob is not
recorded or has no file, and those of a package without a document. Nor do package roots whose text
cannot be read as an object. A repair does without them what it does with them, although it takes
the assets that are left in other batches.
-/

namespace RegistryMend.Storage

/-- The assets whose numbers are selected. -/
def AssetTable.select (keep : Int → Bool) (table : AssetTable) : AssetTable where
  rows := table.rows.filter fun row => keep row.id
  increasing := table.increasing.sublist List.filter_sublist

namespace Database

/-- The database with the assets and the package roots that are selected. -/
def keeping (db : Database) (assets : Int → Bool) (roots : RootKey → Bool) : Database :=
  (db.withAssets (db.assets.select assets)).withRoots (db.roots.select roots)

variable {db : Database} {assets : Int → Bool} {roots : RootKey → Bool}

theorem rootsOf_keeping (db : Database) (assets : Int → Bool) (roots : RootKey → Bool)
    (repository : String) : (db.keeping assets roots).rootsOf repository =
      (db.rootsOf repository).filter fun row => roots row.key :=
  List.filter_comm ..

end Database

/-- Rows that have the same amount in two ways add the same to two sums. -/
theorem sum_filter_add {ρ : Type} (keep : ρ → Bool) (first second : ρ → Int) {rows : List ρ}
    (same : ∀ row ∈ rows, keep row = false → first row = second row) :
    ((rows.filter keep).map first).sum + (rows.map second).sum =
      (rows.map first).sum + ((rows.filter keep).map second).sum := by
  induction rows with
  | nil => rfl
  | cons row rest ih =>
    have later := ih fun other member => same other (List.mem_cons_of_mem _ member)
    cases kept : keep row with
    | true =>
      rw [List.filter_cons_of_pos kept]
      simp only [List.map_cons, List.sum_cons]
      omega
    | false =>
      have alike := same row (List.mem_cons_self ..) kept
      rw [List.filter_cons_of_neg (by simp [kept])]
      simp only [List.map_cons, List.sum_cons]
      omega

end RegistryMend.Storage

namespace RegistryMend.Repair

open RegistryMend.Storage (AssetRow Database RootKey RootRow)

/-- An asset is inert if nothing can come of the work on it. -/
inductive Plan.Inert (plan : Plan) (db : Database) (repository : String) (asset : Asset) : Prop
  /-- It is no tarball. -/
  | otherKind (other : asset.isTarball = false)
  /-- It has no blob. -/
  | withoutBlob (absent : asset.blobRef.getD "" = "")
  /-- Its blob is not recorded. -/
  | unrecorded {ref : String} (given : asset.blobRef = some ref)
      (absent : db.blobs.find? ref = none)
  /-- Its blob has no file. -/
  | withoutFile {ref : String} (given : asset.blobRef = some ref)
      (absent : plan.files.readBlob ref = .ok none)
  /-- The package that its manifest names has no row, or one whose text is not that of an object. -/
  | withoutDocument {announcement : Announcement}
      (announced : plan.announcement? db repository asset = .ok (some announcement))
      (absent : db.document? (announcement.key repository) = none)

section Inert

variable {plan : Plan} {db : Database} {repository : String} {asset : Asset}
  {announcement : Announcement}

/-- A blob that is found is recorded and has a file. -/
theorem present_of_findBlob {files : Storage.Tree} {ref : String} {blob : Storage.Blob}
    (found : findBlob db files ref = .ok (some blob)) :
    db.blobs.find? ref ≠ none ∧ files.readBlob ref ≠ .ok none := by
  rw [findBlob] at found
  split at found
  · cases found
  · cases found
  next row recorded =>
  split at found
  · cases found
  split at found
  · cases found
  · cases found
  next content filed =>
  refine ⟨fun absent => ?_, fun absent => ?_⟩
  · rw [Database.blobRow?, absent] at recorded
    cases usable : db.require .blobs <;> rw [usable] at recorded <;> cases recorded
  · rw [filed] at absent
    cases absent

/-- What is announced is said by a tarball whose blob is found. -/
theorem findBlob_of_announced
    (announced : plan.announcement? db repository asset = .ok (some announcement)) :
    asset.isTarball = true ∧ ∃ ref blob, asset.blobRef = some ref ∧ ref ≠ "" ∧
      findBlob db plan.files ref = .ok (some blob) := by
  rw [Plan.announcement?, Asset.checkedBlob?] at announced
  split at announced
  · cases announced
  · next ref checked =>
    split at checked
    · next tarball =>
      obtain ⟨given, full⟩ := Option.filter_eq_some_iff.mp checked
      split at announced
      · cases announced
      · cases announced
      · next blob found =>
        exact ⟨tarball, ref, blob, given, of_decide_eq_true full, found⟩
    · cases checked

/-- What an inert asset announces is about a package without a document. -/
theorem Plan.Inert.no_document (inert : plan.Inert db repository asset)
    (announced : plan.announcement? db repository asset = .ok (some announcement)) :
    db.document? (announcement.key repository) = none := by
  obtain ⟨tarball, ref, blob, given, full, found⟩ := findBlob_of_announced announced
  obtain ⟨recorded, filed⟩ := present_of_findBlob found
  cases inert with
  | otherKind other =>
    rw [tarball] at other
    cases other
  | withoutBlob absent =>
    rw [given] at absent
    exact absurd absent full
  | unrecorded given_ absent =>
    cases given.symm.trans given_
    exact absurd absent recorded
  | withoutFile given_ absent =>
    cases given.symm.trans given_
    exact absurd absent filed
  | withoutDocument announced_ absent =>
    cases announced.symm.trans announced_
    exact absent

end Inert

/-! ## What is left is worked on alike -/

section Keeping

variable {plan : Plan} {db : Database} {repository : String} {keep : Int → Bool}
  {held : RootKey → Bool}

theorem assetsOfRows_filter (keep : Int → Bool) {rows : List AssetRow} {assets : List Asset}
    (read : assetsOfRows rows = .ok assets) :
    assetsOfRows (rows.filter fun row => keep row.id) =
      .ok (assets.filter fun asset => keep asset.id) := by
  induction rows generalizing assets with
  | nil =>
    cases read
    rfl
  | cons row rest ih =>
    rw [assetsOfRows] at read
    split at read
    · cases read
    · next asset found =>
      obtain ⟨others, later, rfl⟩ := exists_of_map_eq_ok read
      rw [List.filter_cons, List.filter_cons, id_of_ofRow found]
      cases keep row.id with
      | true =>
        rw [if_pos rfl, if_pos rfl, assetsOfRows, found]
        dsimp only
        rw [ih later]
        rfl
      | false => exact ih later

/-- The assets that are left are read as before. -/
theorem assetsBehind_keeping {cursor : Cursor} {assets : List Asset}
    (read : assetsBehind db repository cursor = .ok assets) :
    assetsBehind (db.keeping keep held) repository cursor =
      .ok (assets.filter fun asset => keep asset.id) := by
  have usable := usable_of_assetsBehind read
  have usable_ : (db.keeping keep held).holds .assets = true := usable
  have rows : rowsBehind (db.keeping keep held) repository cursor =
      (rowsBehind db repository cursor).filter fun row => keep row.id := List.filter_comm ..
  rw [assetsBehind_eq usable] at read
  rw [assetsBehind_eq usable_, rows, assetsOfRows_filter keep read]

/-- The rows that are left may be replaced as before. -/
theorem allows_keeping {announcements : List Announcement} {row : RootRow} :
    Allows repository (db.keeping keep held) announcements row ↔
      Allows repository db announcements row := by
  apply allows_congr
  intro row
  rfl

/-- A row without a document is no announcement's concern. -/
theorem not_concerns_of_no_document {row : RootRow} (absent : row.document? = none)
    (announcement : Announcement) : ¬announcement.Concerns repository row := by
  rintro ⟨-, stored, found, -⟩
  rw [absent] at found
  cases found

/-- A row without a document is left by every announcement. -/
theorem rewriteAll_of_no_document {row : RootRow} (absent : row.document? = none)
    (announcements : List Announcement) : rewriteAll repository announcements row = row := by
  induction announcements with
  | nil => rfl
  | cons first rest ih =>
    rw [rewriteAll, List.foldl_cons, rewritten_of_not (not_concerns_of_no_document absent first)]
    exact ih

/-- A row without a document stops no announcement. -/
theorem allows_of_no_document {row : RootRow} (absent : row.document? = none)
    (announcements : List Announcement) : Allows repository db announcements row := by
  induction announcements with
  | nil => trivial
  | cons first rest ih =>
    have spared : ¬first.Concerns repository row := not_concerns_of_no_document absent first
    refine ⟨fun concerns => absurd concerns spared, ?_⟩
    rwa [rewritten_of_not spared]

/-- A row is neither rewritten nor stopped by the announcements of other packages. -/
theorem rewriteAll_filter {chosen : Asset → Bool} {assets : List Asset} {row : RootRow}
    (foreign : ∀ asset ∈ assets, chosen asset = false → ∀ announcement,
      plan.told? db repository asset = some announcement →
        announcement.key repository ≠ row.key) :
    rewriteAll repository (plan.announcements db repository (assets.filter chosen)) row =
        rewriteAll repository (plan.announcements db repository assets) row ∧
      (Allows repository db (plan.announcements db repository (assets.filter chosen)) row ↔
        Allows repository db (plan.announcements db repository assets) row) := by
  induction assets generalizing row with
  | nil => exact ⟨rfl, .rfl⟩
  | cons asset rest ih =>
    rw [announcements_cons, rewriteAll_append, allows_append]
    cases kept : chosen asset with
    | true =>
      rw [List.filter_cons_of_pos kept, announcements_cons, rewriteAll_append, allows_append]
      have later : ∀ other ∈ rest, chosen other = false → ∀ announcement,
          plan.told? db repository other = some announcement → announcement.key repository ≠
            (rewriteAll repository (plan.told? db repository asset).toList row).key := by
        rw [key_rewriteAll]
        exact fun other member => foreign other (List.mem_cons_of_mem _ member)
      obtain ⟨rewrites, allows⟩ := ih later
      exact ⟨rewrites, and_congr_right fun _ => allows⟩
    | false =>
      have spared : rewriteAll repository (plan.told? db repository asset).toList row = row ∧
          Allows repository db (plan.told? db repository asset).toList row := by
        cases told : plan.told? db repository asset with
        | none => exact ⟨rfl, trivial⟩
        | some announcement =>
          have other : ¬announcement.Concerns repository row := fun concerns =>
            foreign asset (List.mem_cons_self ..) kept announcement told concerns.1.symm
          exact ⟨rewritten_of_not other, fun concerns => absurd concerns other, trivial⟩
      rw [List.filter_cons_of_neg (by simp [kept]), spared.1, and_iff_right spared.2]
      exact ih fun other member => foreign other (List.mem_cons_of_mem _ member)

/-- Every row is rewritten, and stopped, alike without inert assets. -/
theorem rewriteAll_without_inert {assets : List Asset}
    (inert : ∀ asset ∈ assets, keep asset.id = false → plan.Inert db repository asset)
    {row : RootRow} (member : row ∈ db.roots.rows) :
    let left := plan.announcements db repository (assets.filter fun asset => keep asset.id)
    let all := plan.announcements db repository assets
    rewriteAll repository left row = rewriteAll repository all row ∧
      (Allows repository db left row ↔ Allows repository db all row) := by
  -- A row without a document is left by all, and one with a document by the inert assets.
  cases document : row.document? with
  | none =>
    simp only [rewriteAll_of_no_document document, allows_of_no_document document, and_self]
  | some stored =>
    refine rewriteAll_filter fun asset given dropped announcement told same => ?_
    have absent := (inert asset given dropped).no_document (told?_eq_some_iff.mp told)
    rw [same, Database.document?, Storage.Table.find?_of_mem member, Option.bind_some,
      document] at absent
    cases absent

/-- The revisions that the rows of the repository get add up to the number of corrected roots. -/
theorem Visits.counted (faithful : ManifestReader.Faithful plan.reader) {assets : List Asset}
    {repaired : Nat} {after : Database} {told : Array Event}
    (visits : Visits plan repository assets db (.ok repaired) after told) :
    ((db.rootsOf repository).map (RootRow.count ∘
      rewriteAll repository (plan.announcements db repository assets))).sum =
        ((db.rootsOf repository).map RootRow.count).sum + repaired := by
  have rows : after.rootsOf repository = (db.rootsOf repository).map
      (rewriteAll repository (plan.announcements db repository assets)) := by
    rw [Database.rootsOf, visits.rows faithful, List.filter_map, Database.rootsOf]
    refine congrArg (List.map _) (List.filter_congr fun row _ => ?_)
    have own := congrArg Prod.fst
      (key_rewriteAll repository (plan.announcements db repository assets) row)
    exact congrArg (fun name : String => decide (name = repository)) own
  rw [← List.map_map, ← rows]
  exact visits.revisions

section Visits

variable {assets : List Asset} {repaired repaired_ : Nat} {after after_ : Database}
  {told told_ : Array Event} (faithful : ManifestReader.Faithful plan.reader)
  (visits : Visits plan repository assets db (.ok repaired) after told)
  (visits_ : Visits plan repository (assets.filter fun asset => keep asset.id)
    (db.keeping keep held) (.ok repaired_) after_ told_)
  (inert : ∀ asset ∈ assets, keep asset.id = false → plan.Inert db repository asset)
include faithful visits visits_ inert

/-- Visits to the assets that are left do to the rows that are left what all visits do. -/
theorem Visits.after_keeping : after_ = after.keeping keep held := by
  let rewrite := rewriteAll repository (plan.announcements db repository assets)
  have rows : after.roots.rows = db.roots.rows.map rewrite := visits.rows faithful
  have rows_ := visits_.rows faithful
  obtain ⟨roots, rfl⟩ := visits.frame
  obtain ⟨roots_, rfl⟩ := visits_.frame
  have same : roots_ = roots.select held := by
    refine Storage.Table.ext_rows ?_
    calc roots_.rows
        = (db.roots.rows.filter fun row => held row.key).map _ := rows_
      _ = (db.roots.rows.filter fun row => held row.key).map rewrite :=
          List.map_congr_left fun row member =>
            (rewriteAll_without_inert inert (List.mem_filter.mp member).1).1
      _ = (db.roots.rows.map rewrite).filter fun row => held row.key := by
          simp only [List.filter_map, Function.comp_def, rewrite, key_rewriteAll]
      _ = (roots.select held).rows := congrArg _ rows.symm
  rw [same]
  rfl

/-- Visits to the assets that are left correct as many roots as all visits. -/
theorem Visits.repaired_keeping
    (unreadable : ∀ row ∈ db.roots.rows, held row.key = false → row.document? = none) :
    repaired_ = repaired := by
  have stored {row : RootRow} (member : row ∈ db.rootsOf repository) : row ∈ db.roots.rows :=
    (List.mem_filter.mp member).1
  have whole := visits.counted faithful
  have part := visits_.counted faithful
  rw [Database.rootsOf_keeping] at part
  have alike : ((db.rootsOf repository).filter fun row => held row.key).map (RootRow.count ∘
      rewriteAll repository (plan.announcements (db.keeping keep held) repository
        (assets.filter fun asset => keep asset.id))) =
      ((db.rootsOf repository).filter fun row => held row.key).map (RootRow.count ∘
        rewriteAll repository (plan.announcements db repository assets)) :=
    List.map_congr_left fun row member => congrArg RootRow.count
      (rewriteAll_without_inert inert (stored (List.mem_filter.mp member).1)).1
  have sums := Storage.sum_filter_add (fun row : RootRow => held row.key) (RootRow.count ∘
      rewriteAll repository (plan.announcements db repository assets)) RootRow.count
    fun row (member : row ∈ db.rootsOf repository) dropped => congrArg RootRow.count
      (rewriteAll_of_no_document (unreadable row (stored member) dropped) _)
  rw [alike] at part
  omega

end Visits

end Keeping

/-- A repair that completes does so, too, if some assets and package roots are left out beforehand,
the assets being inert and the texts of the roots not readable as objects. It corrects as many roots
and leaves the same database, but for the rows that were left out. -/
theorem repairRepository_keeping {plan : Plan} (tarballs : plan.reader = tarballReader)
    (positive : 1 ≤ plan.batchSize) {db : Database} {repository : String} {tally : Tally}
    (completed : (plan.alone db repository).1 = .ok tally) {keep : Int → Bool}
    (inert : ∀ asset, Holds db repository asset → keep asset.id = false →
      plan.Inert db repository asset) {held : RootKey → Bool}
    (unreadable : ∀ row ∈ db.roots.rows, held row.key = false → row.document? = none) :
    ∃ tally_, (plan.alone (db.keeping keep held) repository).1 = .ok tally_ ∧
      tally_.repaired = tally.repaired ∧
      (plan.alone (db.keeping keep held) repository).2.store =
        (plan.alone db repository).2.store.keeping keep held := by
  have faithful : ManifestReader.Faithful plan.reader := tarballs ▸ tarballReader_faithful
  obtain ⟨assets, told, read, visits⟩ := visits_of_completed faithful positive completed
  have read_ : assetsBehind (db.keeping keep held) repository .beginning = _ :=
    assetsBehind_keeping read
  have dropped : ∀ asset ∈ assets, keep asset.id = false → plan.Inert db repository asset :=
    fun asset member => inert asset (holds_of_mem_assetsBehind read member)
  obtain ⟨tally_, completed_⟩ : plan.Succeeds (db.keeping keep held) repository := by
    obtain ⟨result, last, told_, visits_⟩ := exists_visits plan repository
      (assets.filter fun asset => keep asset.id) (db.keeping keep held)
    obtain ⟨tells, allows⟩ := (visits.passes_iff faithful).mp ⟨_, rfl⟩
    obtain ⟨repaired, rfl⟩ := (visits_.passes_iff faithful).mpr
      ⟨fun asset member => tells asset (List.mem_filter.mp member).1, fun row member => by
        have stored : row ∈ db.roots.rows := (List.mem_filter.mp member).1
        refine allows_keeping.mpr ?_
        exact (rewriteAll_without_inert dropped stored).2.mpr (allows row stored)⟩
    exact (completes_iff_behind faithful positive).mpr ⟨_, repaired, last, told_, read_, visits_⟩
  obtain ⟨_, told_, found, visits_⟩ := visits_of_completed faithful positive completed_
  cases found.symm.trans read_
  exact ⟨tally_, completed_, visits.repaired_keeping faithful visits_ dropped unreadable,
    visits.after_keeping faithful visits_ dropped⟩

/-- A stale root among rows without effect: an asset that has no blob, one whose blob is not
recorded, and a package root that is not JSON. -/
def ballastDatabase : Database :=
  { staleDatabase with
    assets := ⟨[⟨1, "r", "a-1.tgz", some "b", "\x7b\"asset_kind\":\"TARBALL\"\x7d"⟩,
      ⟨2, "r", "a", none, ""⟩,
      ⟨3, "r", "c-1.tgz", some "c", "\x7b\"asset_kind\":\"TARBALL\"\x7d"⟩], by decide⟩
    roots := ⟨[⟨"r", "b", .integer 1, "?"⟩, ⟨"r", "a", .integer 1, "\x7b\x7d"⟩], by decide⟩ }

theorem repairRepository_keeping_stale :
    let keep (id : Int) : Bool := id < 2
    let held (key : RootKey) : Bool := key ≠ ("r", "b")
    (stalePlan.alone ballastDatabase "r").1 = .ok ⟨2, 3, 1⟩ ∧
    ∃ tally_, (stalePlan.alone (ballastDatabase.keeping keep held) "r").1 = .ok tally_ ∧
      tally_.repaired = 1 ∧ (stalePlan.alone (ballastDatabase.keeping keep held) "r").2.store =
        (stalePlan.alone ballastDatabase "r").2.store.keeping keep held := by
  have completed : (stalePlan.alone ballastDatabase "r").1 = .ok ⟨2, 3, 1⟩ := by decide +kernel
  refine ⟨completed, repairRepository_keeping rfl (by decide) completed ?_ (by decide +kernel)⟩
  rintro asset ⟨row, member, -, read⟩ dropped
  rw [id_of_ofRow read] at dropped
  rw [Asset.ofRow] at read
  split at read
  · cases read
    obtain _ | ⟨_, _ | ⟨_, _ | ⟨_, ⟨⟩⟩⟩⟩ := member
    · cases dropped
    · exact .withoutBlob rfl
    · exact .unrecorded rfl rfl
  · cases read

end RegistryMend.Repair

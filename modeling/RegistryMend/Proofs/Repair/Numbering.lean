import RegistryMend.Proofs.Repair.Completeness
import RegistryMend.Proofs.Repair.Isolation
import RegistryMend.Proofs.Repair.Orders

/-! # How assets are numbered

Assets are worked on in the order of their numbers. Where the assets of a repository announce
different versions, a repair leaves the same package roots however they are numbered, and it
completes or not alike.
-/

namespace RegistryMend.Storage

/-- An asset as stored, but for its number. -/
def AssetRow.unnumbered (row : AssetRow) : AssetRow :=
  { row with id := 0 }

/-- Two tables hold the same assets, numbered in two ways. -/
def AssetTable.Renumbers (table other : AssetTable) : Prop :=
  (table.rows.map AssetRow.unnumbered).Perm (other.rows.map AssetRow.unnumbered)

instance (table other : AssetTable) : Decidable (table.Renumbers other) :=
  inferInstanceAs (Decidable (List.Perm _ _))

/-- No number is negative. -/
def AssetTable.Numbered (table : AssetTable) : Prop :=
  ∀ row ∈ table.rows, 0 ≤ row.id

instance (table : AssetTable) : Decidable table.Numbered :=
  inferInstanceAs (Decidable (∀ row ∈ table.rows, 0 ≤ row.id))

/-- The database with other assets. -/
def Database.withAssets (db : Database) (assets : AssetTable) : Database :=
  { db with assets }

/-- The revision of a row is a number, and may grow by one for a number of times. -/
def RootRow.GrowsBy (row : RootRow) (times : Nat) : Prop :=
  ∃ revision, row.revision? = some revision ∧ ∀ count : Nat, 0 < count → count ≤ times →
    (Sql.Literal.integer (revision + count)).fits = true

theorem RootRow.GrowsBy.mono {row : RootRow} {times fewer : Nat} (grows : row.GrowsBy times)
    (less : fewer ≤ times) : row.GrowsBy fewer := by
  obtain ⟨revision, number, fits⟩ := grows
  exact ⟨revision, number, fun count some_ least => fits count some_ (least.trans less)⟩

/-- The revisions of a repository's package roots may grow as often as there are assets. -/
def Database.HasRoom (db : Database) (repository : String) : Prop :=
  ∀ row ∈ db.roots.rows, row.repository = repository → row.GrowsBy db.assets.rows.length

theorem Database.HasRoom.renumbered {db : Database} {table : AssetTable} {repository : String}
    (room : db.HasRoom repository) (renumbers : db.assets.Renumbers table) :
    (db.withAssets table).HasRoom repository := by
  have length : table.rows.length = db.assets.rows.length := by
    have same := renumbers.length_eq
    rwa [List.length_map, List.length_map, eq_comm] at same
  intro row member own
  exact (room row member own).mono length.le

end RegistryMend.Storage

namespace RegistryMend.Repair

open RegistryMend.Storage (AssetRow AssetTable Database)

/-- An asset but for its number. -/
def Asset.unnumbered (asset : Asset) : Asset :=
  { asset with id := 0 }

/-! ## Assets in two tables -/

section Tables

variable {plan : Plan} {repository : String} {db : Database} {table : AssetTable}

theorem ofRow_unnumbered (row : AssetRow) :
    Asset.ofRow row.unnumbered = (Asset.ofRow row).map Asset.unnumbered := by
  rw [Asset.ofRow, Asset.ofRow, AssetRow.unnumbered]
  cases readAttributes row.attributes <;> rfl

theorem assetsOfRows_eq_ok_iff {rows : List AssetRow} {assets : List Asset} :
    assetsOfRows rows = .ok assets ↔ rows.map Asset.ofRow = assets.map .ok := by
  induction rows generalizing assets with
  | nil => simp [assetsOfRows, eq_comm]
  | cons row rest ih =>
    rw [assetsOfRows, List.map_cons]
    cases Asset.ofRow row with
    | error failure => cases assets <;> simp
    | ok asset =>
      cases assets with
      | nil => cases assetsOfRows rest <;> simp [Except.map]
      | cons first others =>
        rw [List.map_cons, List.cons.injEq, ← ih]
        cases assetsOfRows rest <;> simp [Except.map]

/-- Rows that can be read one by one can be read together. -/
theorem exists_assetsOfRows {rows : List AssetRow}
    (legible : ∀ row ∈ rows, ∃ asset, Asset.ofRow row = .ok asset) :
    ∃ assets, assetsOfRows rows = .ok assets := by
  induction rows with
  | nil => exact ⟨[], rfl⟩
  | cons row rest ih =>
    obtain ⟨asset, read⟩ := legible row (List.mem_cons_self ..)
    obtain ⟨assets, reads⟩ := ih fun other member => legible other (List.mem_cons_of_mem _ member)
    exact ⟨asset :: assets, by rw [assetsOfRows, read, reads]; rfl⟩

theorem map_ofRow_unnumbered {rows : List AssetRow} {assets : List Asset}
    (read : assetsOfRows rows = .ok assets) :
    (rows.map AssetRow.unnumbered).map Asset.ofRow = (assets.map Asset.unnumbered).map .ok := by
  have mapped := congrArg (List.map (Except.map Asset.unnumbered)) (assetsOfRows_eq_ok_iff.mp read)
  rw [List.map_map, List.map_map] at mapped ⊢
  refine Eq.trans (List.map_congr_left fun row _ => ?_) mapped
  exact ofRow_unnumbered row

/-- Rows that can be read can be read with other numbers and in another order. -/
theorem assetsOfRows_perm {rows others : List AssetRow}
    (perm : (rows.map AssetRow.unnumbered).Perm (others.map AssetRow.unnumbered))
    {assets : List Asset} (read : assetsOfRows rows = .ok assets) :
    ∃ assets_, assetsOfRows others = .ok assets_ ∧
      (assets.map Asset.unnumbered).Perm (assets_.map Asset.unnumbered) := by
  have mapped := perm.map Asset.ofRow
  rw [map_ofRow_unnumbered read] at mapped
  obtain ⟨assets_, read_⟩ : ∃ assets_, assetsOfRows others = .ok assets_ := by
    refine exists_assetsOfRows fun row member => ?_
    have present : Asset.ofRow row.unnumbered ∈ (others.map AssetRow.unnumbered).map Asset.ofRow :=
      List.mem_map_of_mem (List.mem_map_of_mem member)
    obtain ⟨asset, -, same⟩ := List.mem_map.mp (mapped.mem_iff.mpr present)
    rw [ofRow_unnumbered] at same
    obtain ⟨found, read_, -⟩ := exists_of_map_eq_ok same.symm
    exact ⟨found, read_⟩
  rw [map_ofRow_unnumbered read_] at mapped
  refine ⟨assets_, read_, (List.map_perm_map_iff fun first second same => ?_).mp mapped⟩
  exact Except.ok.inj same

/-- The assets of a repository are the same in both tables, but for their numbers. -/
theorem assetsOf_renumbered (renumbers : db.assets.Renumbers table) {assets : List Asset}
    (read : assetsOf db repository = .ok assets) :
    ∃ assets_, assetsOf (db.withAssets table) repository = .ok assets_ ∧
      (assets.map Asset.unnumbered).Perm (assets_.map Asset.unnumbered) := by
  have held (rows : List AssetRow) : (rows.filter (·.repository = repository)).map
      AssetRow.unnumbered = (rows.map AssetRow.unnumbered).filter (·.repository = repository) := by
    rw [List.filter_map]
    rfl
  have perm := renumbers.filter fun row => row.repository = repository
  rw [← held, ← held] at perm
  rw [assetsOf] at read ⊢
  have required : (db.withAssets table).require .assets = db.require .assets := rfl
  rw [required]
  split at read
  · cases read
  · exact assetsOfRows_perm perm read

theorem renumbers_symm (renumbers : db.assets.Renumbers table) :
    (db.withAssets table).assets.Renumbers db.assets :=
  List.Perm.symm renumbers

end Tables

/-! ## The repair of one repository -/

section Repository

variable {plan : Plan} {repository : String} {db : Database} {table : AssetTable}

/-- What is announced does not depend on numbers. -/
theorem announcement?_of_unnumbered {asset other : Asset}
    (same : asset.unnumbered = other.unnumbered) :
    plan.announcement? (db.withAssets table) repository other =
      plan.announcement? db repository asset := by
  have unnumbered (asset : Asset) : plan.announcement? db repository asset =
      plan.announcement? db repository asset.unnumbered := rfl
  rw [unnumbered asset, same]
  rfl

theorem announcements_perm {assets others : List Asset}
    (perm : (assets.map Asset.unnumbered).Perm (others.map Asset.unnumbered)) :
    (plan.announcements db repository assets).Perm
      (plan.announcements (db.withAssets table) repository others) := by
  have told := perm.filterMap (plan.told? db repository)
  rw [List.filterMap_map, List.filterMap_map] at told
  exact told

/-- An asset tells what it announces whatever its number. -/
theorem tells_perm {assets others : List Asset}
    (perm : (assets.map Asset.unnumbered).Perm (others.map Asset.unnumbered))
    (tells : ∀ asset ∈ assets, plan.Tells repository db asset) :
    ∀ asset ∈ others, plan.Tells repository (db.withAssets table) asset := by
  intro other member
  obtain ⟨asset, held, same⟩ :=
    List.mem_map.mp (perm.mem_iff.mpr (List.mem_map_of_mem member))
  obtain ⟨told, announced, usable⟩ := tells asset held
  exact ⟨told, (announcement?_of_unnumbered same).trans announced, usable⟩

/-- A repository can be visited if its assets can be read, tell what they announce, and may all
rewrite their rows. -/
theorem passable_iff (faithful : ManifestReader.Faithful plan.reader) :
    plan.Passable repository db ↔ ∃ assets, assetsOf db repository = .ok assets ∧
      (∀ asset ∈ assets, plan.Tells repository db asset) ∧
        ∀ row ∈ db.roots.rows,
          Allows repository db (plan.announcements db repository assets) row := by
  constructor
  · rintro ⟨assets, repaired, last, told, read, visits⟩
    exact ⟨assets, read, (visits.passes_iff faithful).mp ⟨repaired, rfl⟩⟩
  · rintro ⟨assets, read, passes⟩
    obtain ⟨result, last, told, visits⟩ := exists_visits plan repository assets db
    obtain ⟨repaired, rfl⟩ := (visits.passes_iff faithful).mpr passes
    exact ⟨assets, repaired, last, told, read, visits⟩

theorem succeeds_iff_passable (faithful : ManifestReader.Faithful plan.reader)
    (positive : 1 ≤ plan.batchSize) (numbered : db.assets.Numbered) :
    plan.Succeeds db repository ↔ plan.Passable repository db :=
  @completes_iff plan repository ⟨db, #[], 0⟩ faithful positive fun row member _ =>
    numbered row member

/-- A repair that completes visits the assets behind the first cursor. -/
theorem visits_of_completed (faithful : ManifestReader.Faithful plan.reader)
    (positive : 1 ≤ plan.batchSize) {tally : Tally}
    (completed : (plan.alone db repository).1 = .ok tally) :
    ∃ assets told, assetsBehind db repository .beginning = .ok assets ∧
      Visits plan repository assets db (.ok tally.repaired) (plan.alone db repository).2.store
        told := by
  obtain ⟨events, assets, repaired, told, walk, -⟩ :=
    repairRepository_walk faithful positive completed
  have count : tally.repaired = repaired := walk.mended.trans (Nat.zero_add repaired)
  rw [count]
  exact ⟨assets, told, walk.read, walk.visits⟩

/-- A repair that succeeds visits all assets of the repository. -/
theorem visits_of_succeeds (faithful : ManifestReader.Faithful plan.reader)
    (positive : 1 ≤ plan.batchSize) (numbered : db.assets.Numbered)
    (succeeds : plan.Succeeds db repository) :
    ∃ assets repaired told, assetsOf db repository = .ok assets ∧
      Visits plan repository assets db (.ok repaired) (plan.alone db repository).2.store told := by
  obtain ⟨tally, completed⟩ := succeeds
  obtain ⟨assets, told, read, visits⟩ := visits_of_completed faithful positive completed
  have whole := assetsOf_eq fun row member (_ : row.repository = repository) => numbered row member
  exact ⟨assets, tally.repaired, told, whole.trans read, visits⟩

/-- Different assets of a repository announce different versions. -/
def Plan.Distinct (plan : Plan) (db : Database) (repository : String) : Prop :=
  ∀ asset other, Holds db repository asset → Holds db repository other → asset.id ≠ other.id →
    plan.Differ db repository asset other

theorem Plan.Distinct.pairwise (distinct : plan.Distinct db repository) {assets : List Asset}
    (read : assetsOf db repository = .ok assets) :
    assets.Pairwise (plan.Differ db repository) := by
  refine (List.pairwise_map.mp (ids_assetsOf read)).imp_of_mem fun first second before => ?_
  exact distinct _ _ ((mem_assetsOf read).mp first) ((mem_assetsOf read).mp second) before.ne

/-- Where the assets announce different versions, they can be visited however they are numbered. -/
theorem passable_renumbered (faithful : ManifestReader.Faithful plan.reader)
    (renumbers : db.assets.Renumbers table) (tagged : db.Tagged)
    (distinct : plan.Distinct db repository) :
    plan.Passable repository db ↔ plan.Passable repository (db.withAssets table) := by
  have rows {assets others : List Asset} (read : assetsOf db repository = .ok assets)
      (perm : (assets.map Asset.unnumbered).Perm (others.map Asset.unnumbered)) (row : Storage.RootRow)
      (member : row ∈ db.roots.rows) :
      Allows repository db (plan.announcements db repository assets) row ↔
        Allows repository (db.withAssets table)
          (plan.announcements (db.withAssets table) repository others) row := by
    rw [allows_perm faithful (announcements_perm perm) (fun _ => announced_of_mem)
      (pairwise_announcements (distinct.pairwise read)) (tagged row member)]
    apply allows_congr
    intro row
    rfl
  rw [passable_iff faithful, passable_iff faithful]
  constructor
  · rintro ⟨assets, read, tells, allows⟩
    obtain ⟨others, read_, perm⟩ := assetsOf_renumbered renumbers read
    exact ⟨others, read_, tells_perm perm tells, fun row member =>
      (rows read perm row member).mp (allows row member)⟩
  · rintro ⟨others, read_, tells, allows⟩
    obtain ⟨assets, read, perm⟩ := assetsOf_renumbered (renumbers_symm renumbers) read_
    exact ⟨assets, read, tells_perm perm tells, fun row member =>
      (rows read perm.symm row member).mpr (allows row member)⟩

/-! ### Assets that can be read -/

/-- All assets of a repository can be read, and so can what they announce. -/
def Plan.Legible (plan : Plan) (db : Database) (repository : String) : Prop :=
  ∀ row ∈ db.assets.rows, row.repository = repository → ∃ asset told,
    Asset.ofRow row = .ok asset ∧ plan.announcement? db repository asset = .ok told

theorem legible_renumbered (renumbers : db.assets.Renumbers table)
    (legible : plan.Legible db repository) : plan.Legible (db.withAssets table) repository := by
  intro row member own
  obtain ⟨row_, member_, same⟩ :=
    List.mem_map.mp (renumbers.mem_iff.mpr (List.mem_map_of_mem member))
  have own_ : row_.repository = repository := by
    have repositories := congrArg AssetRow.repository same
    exact repositories.trans own
  obtain ⟨asset, told, read, announced⟩ := legible row_ member_ own_
  have read_ : (Asset.ofRow row).map Asset.unnumbered = .ok asset.unnumbered := by
    rw [← ofRow_unnumbered, ← same, ofRow_unnumbered, read]
    rfl
  obtain ⟨other, found, unnumbered⟩ := exists_of_map_eq_ok read_
  exact ⟨other, told, found, (announcement?_of_unnumbered unnumbered.symm).trans announced⟩

/-- The revisions of a repository's package roots may grow as often as it has assets: a row of it is
let through by any announcements that are not more. -/
theorem allows_of_growsBy (permitted : db.Permits repository) {announcements : List Announcement}
    {row : Storage.RootRow}
    (room : row.repository = repository → row.GrowsBy announcements.length) :
    Allows repository db announcements row := by
  induction announcements generalizing row with
  | nil => trivial
  | cons first rest ih =>
    by_cases concerns : first.Concerns repository row
    · have own : row.repository = repository := congrArg Prod.fst concerns.1
      obtain ⟨revision, number, fits⟩ := room own
      refine ⟨fun _ => Database.refusalOf?_eq_none_iff.mpr ⟨own ▸ permitted, ?_⟩, ih fun _ => ?_⟩
      · exact row.isRevisable_iff.mpr ⟨revision, number, fits 1 (by simp) (by simp)⟩
      · obtain ⟨stored, -, same⟩ := rewritten_of_concerns concerns
        rw [same, number]
        refine ⟨revision + 1, rfl, fun count some_ least => ?_⟩
        have later := fits (count + 1) (by simp) (by simpa using least)
        rwa [Int.natCast_succ, Int.add_comm count, ← Int.add_assoc] at later
    · refine ⟨fun concerned => absurd concerned concerns, ?_⟩
      rw [rewritten_of_not concerns]
      exact ih fun own => (room own).mono (by simp)

theorem length_assetsOfRows {rows : List AssetRow} {assets : List Asset}
    (read : assetsOfRows rows = .ok assets) : assets.length = rows.length := by
  have lengths := congrArg List.length (assetsOfRows_eq_ok_iff.mp read)
  rw [List.length_map, List.length_map] at lengths
  exact lengths.symm

/-- Assets that can be read can be visited in a database that permits it and has room. -/
theorem passable_of_legible (faithful : ManifestReader.Faithful plan.reader)
    (legible : plan.Legible db repository) (room : db.HasRoom repository)
    (held : db.holds .assets = true) (usable : db.holds .packageRoots = true)
    (permitted : db.Permits repository) : plan.Passable repository db := by
  obtain ⟨assets, reads⟩ : ∃ assets, assetsOf db repository = .ok assets := by
    rw [assetsOf, Database.require, if_pos held]
    refine exists_assetsOfRows fun row member => ?_
    rw [List.mem_filter, decide_eq_true_eq] at member
    obtain ⟨asset, -, read, -⟩ := legible row member.1 member.2
    exact ⟨asset, read⟩
  have few : (plan.announcements db repository assets).length ≤ db.assets.rows.length := by
    refine (List.length_filterMap_le ..).trans ?_
    rw [assetsOf, Database.require, if_pos held] at reads
    rw [length_assetsOfRows reads]
    exact List.length_filter_le ..
  refine (passable_iff faithful).mpr ⟨assets, reads, fun asset member => ?_, fun row member => ?_⟩
  · obtain ⟨row, present, own, read⟩ := (mem_assetsOf reads).mp member
    obtain ⟨_, told, read_, announced⟩ := legible row present own
    cases read.symm.trans read_
    exact ⟨told, announced, fun _ => usable⟩
  · exact allows_of_growsBy permitted fun own => (room row member own).mono few

/-- A visit changes nothing unless the database permits it. -/
theorem unchanged_kept (plan : Plan) (repository : String) :
    plan.Kept [repository] fun db after =>
      db.holds .packageRoots = true ∧ db.Permits repository ∨ after = db where
  refl db := .inr rfl
  trans := by
    rintro first second third (allowed | rfl) later
    · exact .inl allowed
    · exact later
  visit chosen _ visit := by
    cases List.mem_singleton.mp chosen
    cases visit with
    | mended _ usable found _ _ permitted =>
      obtain ⟨row, present, -⟩ := Option.bind_eq_some_iff.mp found
      rw [Database.refusal?, present] at permitted
      have own : row.repository = repository :=
        congrArg Prod.fst (Storage.Table.key_of_find? present)
      exact .inl ⟨usable, own ▸ (Database.refusalOf?_eq_none_iff.mp permitted).1⟩
    | _ => exact .inr rfl

/-- A repair changes nothing if it fails although all assets can be read and the revisions have
room. -/
theorem unchanged_of_legible (faithful : ManifestReader.Faithful plan.reader)
    (positive : 1 ≤ plan.batchSize) (numbered : db.assets.Numbered)
    (legible : plan.Legible db repository) (room : db.HasRoom repository)
    (fails : ¬plan.Succeeds db repository) :
    (plan.alone db repository).2.store = db := by
  obtain ⟨final, after, events, batches⟩ :=
    exists_batchRuns plan repository (batchBound db) .beginning {} db
  obtain ⟨result, store⟩ := batches.alone
  rw [store]
  cases final with
  | ok tally => exact absurd ⟨tally, result⟩ fails
  | error failure =>
    rcases batches.keeps (unchanged_kept plan repository) (List.mem_singleton_self repository) with
      ⟨usable, permitted⟩ | same
    · by_cases held : db.holds .assets = true
      · have passable := passable_of_legible faithful legible room held usable permitted
        exact absurd ((succeeds_iff_passable faithful positive numbered).mpr passable) fails
      · cases batches with
        | failed first => exact first.eq_of_error
        | next first =>
          cases first with
          | completed read => exact absurd (usable_of_page read) held
    · exact same

/-- A repair that succeeds leaves the same roots however the assets are numbered. So does one of
assets that can be read, where the revisions have room. -/
theorem alone_renumbered (faithful : ManifestReader.Faithful plan.reader)
    (positive : 1 ≤ plan.batchSize) (renumbers : db.assets.Renumbers table)
    (numbered : db.assets.Numbered) (numbered_ : table.Numbered) (tagged : db.Tagged)
    (distinct : plan.Distinct db repository) :
    (plan.Succeeds db repository ↔ plan.Succeeds (db.withAssets table) repository) ∧
      (plan.Succeeds db repository ∨ plan.Legible db repository ∧ db.HasRoom repository →
        (plan.alone (db.withAssets table) repository).2.store.roots =
          (plan.alone db repository).2.store.roots) := by
  have alike : plan.Succeeds db repository ↔ plan.Succeeds (db.withAssets table) repository := by
    rw [succeeds_iff_passable faithful positive numbered,
      succeeds_iff_passable faithful positive numbered_]
    exact passable_renumbered faithful renumbers tagged distinct
  refine ⟨alike, fun reason => ?_⟩
  by_cases succeeds : plan.Succeeds db repository
  · obtain ⟨assets, _, _, read, visits⟩ :=
      visits_of_succeeds faithful positive numbered succeeds
    obtain ⟨others, _, _, read_, visits_⟩ :=
      visits_of_succeeds faithful positive numbered_ (alike.mp succeeds)
    obtain ⟨_, found, perm⟩ := assetsOf_renumbered renumbers read
    cases read_.symm.trans found
    have told : (plan.announcements db repository assets).Perm
        (plan.announcements (db.withAssets table) repository others) := announcements_perm perm
    have rows := visits.rows_perm faithful tagged (distinct.pairwise read) told
    exact Storage.Table.ext_rows ((visits_.rows faithful).trans rows.symm)
  · obtain ⟨legible, room⟩ := reason.resolve_left succeeds
    rw [unchanged_of_legible faithful positive numbered legible room succeeds,
      unchanged_of_legible faithful positive numbered_ (legible_renumbered renumbers legible)
        (room.renumbered renumbers) (mt alike.mpr succeeds)]
    rfl

end Repository

end RegistryMend.Repair

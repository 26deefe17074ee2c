import RegistryMend.Proofs.Repair.Pages

/-! # Pages against one transaction

The batches of a repository visit its assets in the order of their ids, each of them once. A repair
in pages of any size therefore does what a single transaction over all assets does.
-/

namespace RegistryMend.Repair

open RegistryMend.Archive (asciiBytes)
open RegistryMend.Storage (Database RootRow Table UnitOfWork)

/-! ## What the batches visit -/

/-- The cursor of the batch that an event tells of. -/
def Event.cursor? : Event → Option Cursor
  | batchBegun _ cursor _ => some ⟨cursor⟩
  | _ => none

/-- The cursors of the batches that events tell of. -/
def cursors (events : Array Event) : List Cursor :=
  events.toList.filterMap Event.cursor?

/-- What events tell about single assets. -/
def assetEvents (events : Array Event) : Array Event :=
  events.filter Event.concernsAsset

/-- The assets on the pages behind some cursors. -/
def pagesAt (db : Database) (repository : String) (size : Nat) :
    List Cursor → Except Failure (List Asset)
  | [] => .ok []
  | cursor :: rest =>
    match page db repository cursor size with
    | .error failure => .error failure
    | .ok assets => (pagesAt db repository size rest).map (assets ++ ·)

theorem pagesAt_withRoots (db : Database) (roots : Table RootRow RootRow.key) (repository : String)
    (size : Nat) (cursors : List Cursor) :
    pagesAt (db.withRoots roots) repository size cursors = pagesAt db repository size cursors := by
  induction cursors with
  | nil => rfl
  | cons cursor rest ih =>
    rw [pagesAt, pagesAt, ih]
    rfl

theorem cursors_append (first second : Array Event) :
    cursors (first ++ second) = cursors first ++ cursors second := by
  rw [cursors, Array.toList_append, List.filterMap_append]
  rfl

theorem assetEvents_append (first second : Array Event) :
    assetEvents (first ++ second) = assetEvents first ++ assetEvents second := by
  simp [assetEvents]

section Told

variable {told : Array Event} (concerns : ∀ event ∈ told, event.concernsAsset = true)
include concerns

theorem assetEvents_told : assetEvents told = told :=
  Array.filter_eq_self.mpr concerns

theorem cursors_told : cursors told = [] := by
  refine List.filterMap_eq_nil_iff.mpr fun event member => ?_
  have concerned := concerns event (Array.mem_def.mpr member)
  cases event <;> first | rfl | cases concerned

/-- A batch tells its cursor, and about assets what the visits to them tell. -/
theorem assetEvents_batch (plan : Plan) (cursor : Cursor) :
    assetEvents (#[plan.opening cursor] ++ told) = told := by
  rw [assetEvents_append, assetEvents_told concerns]
  exact Array.empty_append

theorem cursors_batch (plan : Plan) (cursor : Cursor) :
    cursors (#[plan.opening cursor] ++ told) = [cursor] := by
  rw [cursors_append, cursors_told concerns]
  rfl

end Told

/-- A walk over the assets behind a cursor: they are visited in their order, counted in the tally,
and reported on. -/
structure Walk (plan : Plan) (repository : String) (cursor : Cursor) (tally final : Tally)
    (db after : Database) (events : Array Event) (assets : List Asset) (repaired : Nat)
    (told : Array Event) : Prop where
  read : assetsBehind db repository cursor = .ok assets
  visits : Visits plan repository assets db (.ok repaired) after told
  scanned : final.scanned = tally.scanned + assets.length
  mended : final.repaired = tally.repaired + repaired
  paged : pagesAt db repository plan.batchSize (cursors events) = .ok assets
  told : assetEvents events = told

section

variable {plan : Plan} {repository : String} {fuel : Nat} {cursor : Cursor} {tally : Tally}
  {db after : Database} {events : Array Event}

/-- Batches that run to an end walk over the assets behind their cursor. -/
theorem BatchRuns.walk (faithful : ManifestReader.Faithful plan.reader)
    (positive : 1 ≤ plan.batchSize) {final : Tally}
    (batches : BatchRuns plan repository fuel cursor tally db (.ok final) after events)
    (enough : (rowsBehind db repository cursor).length < fuel) :
    ∃ assets repaired told,
      Walk plan repository cursor tally final db after events assets repaired told := by
  generalize given : (Except.ok final : Except Failure Tally) = end_ at batches
  -- The fuel is never spent, since every page leaves fewer rows.
  induction batches with
  | spent => exact absurd enough (Nat.not_lt_zero _)
  | failed first => cases given
  | last first ends =>
    cases given
    cases first with
    | @completed assets repaired _ told read visits =>
      have concerns := visits.concerns faithful
      refine ⟨assets, repaired, told, assetsBehind_of_last positive read ends, visits, rfl, rfl, ?_,
        assetEvents_batch concerns plan _⟩
      rw [cursors_batch concerns, pagesAt, read]
      exact congrArg Except.ok (List.append_nil assets)
  | @next fuel cursor follow tally db middle after result end_ events others first goes later ih =>
    subst given
    cases first with
    | @completed assets repaired _ told read visits =>
      have concerns := visits.concerns faithful
      have fewer := length_rowsBehind_next read goes
      obtain ⟨roots, rfl⟩ := visits.frame
      obtain ⟨rest, more, told_, walk⟩ :=
        ih (Nat.lt_of_lt_of_le fewer (Nat.le_of_lt_succ enough)) rfl
      have behind : assetsBehind db repository follow = .ok rest := walk.read
      have paged := walk.paged
      rw [pagesAt_withRoots] at paged
      refine ⟨assets ++ rest, repaired + more, told ++ told_, ?_, visits.append walk.visits, ?_, ?_,
        ?_, ?_⟩
      · rw [assetsBehind_of_next read goes, behind]
        rfl
      · rw [walk.scanned, List.length_append, ← Nat.add_assoc]
        rfl
      · rw [walk.mended, ← Nat.add_assoc]
        rfl
      · rw [cursors_append, cursors_batch concerns, List.singleton_append, pagesAt, read]
        dsimp only
        rw [paged]
        rfl
      · rw [assetEvents_append, assetEvents_batch concerns, walk.told]

/-- Batches that fail leave assets that cannot be read or visited. -/
theorem BatchRuns.no_visits {failure : Failure}
    (batches : BatchRuns plan repository fuel cursor tally db (.error failure) after events)
    {assets : List Asset} (read : assetsBehind db repository cursor = .ok assets)
    {repaired : Nat} {last : Database} {told : Array Event} :
    ¬ Visits plan repository assets db (.ok repaired) last told := by
  intro whole
  generalize given : (Except.error failure : Except Failure Tally) = end_ at batches
  induction batches generalizing assets repaired told with
  | spent => cases given
  | last first ends => cases given
  | failed first =>
    obtain ⟨page_, rest, found, rfl⟩ := exists_page read plan.batchSize
    cases first with
    | unread failed =>
      rw [found] at failed
      cases failed
    | stopped found_ visits =>
      rw [found] at found_
      cases found_
      obtain ⟨same, -⟩ := (visits.append_error rest).unique whole
      cases same
  | @next _ _ follow _ _ _ _ _ _ _ _ first goes later ih =>
    cases first with
    | completed found visits =>
      obtain ⟨roots, rfl⟩ := visits.frame
      rw [assetsBehind_of_next found goes] at read
      obtain ⟨rest, left, rfl⟩ := exists_of_map_eq_ok read
      obtain ⟨more, others, behind⟩ := visits.behind whole
      exact ih left behind given

end

/-! ## One transaction -/

/-- The assets of a repository in the order of their ids. -/
def assetsOf (db : Database) (repository : String) : Except Failure (List Asset) :=
  match db.require .assets with
  | .error fault => .error (.database fault)
  | .ok _ => assetsOfRows (db.assets.rows.filter fun row => row.repository = repository)

/-- Works on one more asset and counts the corrected roots. -/
def countAsset (plan : Plan) (repository : String) (repaired : Nat) (asset : Asset) :
    Work UnitOfWork Nat := do
  let changed ← processAsset plan repository asset
  return repaired + if changed then 1 else 0

section

variable {plan : Plan} {repository : String} {db after : Database} {assets : List Asset}

/-- The assets of a repository lie behind the first cursor. -/
theorem assetsOf_eq
    (numbered : ∀ row ∈ db.assets.rows, row.repository = repository → 0 ≤ row.id) :
    assetsOf db repository = assetsBehind db repository .beginning := by
  rw [assetsOf, Database.require]
  cases usable : db.holds .assets with
  | true =>
    rw [if_pos rfl, assetsBehind_eq usable, rowsBehind_beginning numbered]
  | false =>
    rw [if_neg (by decide), assetsBehind_of_not_holds usable]

theorem ids_assetsOf (read : assetsOf db repository = .ok assets) :
    (assets.map Asset.id).Pairwise (· < ·) := by
  rw [assetsOf] at read
  split at read
  · cases read
  · rw [ids_of_assetsOfRows read, List.pairwise_map]
    exact db.assets.increasing.sublist List.filter_sublist

/-- The fold over assets makes the same visits. -/
theorem Visits.foldlM {result : Except Failure Nat} {told : Array Event}
    (visits : Visits plan repository assets db result after told) (repaired : Nat)
    (committed : Database) : Work.Runs (assets.foldlM (countAsset plan repository) repaired)
      ⟨committed, some db⟩ (result.map (repaired + ·)) ⟨committed, some after⟩ told := by
  induction visits generalizing repaired with
  | nil => exact Work.runs_pure repaired _
  | stop first => exact .bind_error (.bind_error (first.runs committed))
  | @next asset rest _ _ _ changed result events others first later ih =>
    have step : Work.Runs (countAsset plan repository repaired asset) _
        (.ok (repaired + if changed then 1 else 0)) _ events :=
      .bind_silent (first.runs committed) (Work.runs_pure _ _)
    have same : (result.map ((if changed then 1 else 0) + ·)).map (repaired + ·) =
        result.map (repaired + (if changed then 1 else 0) + ·) := by
      cases result with
      | error failure => rfl
      | ok more => exact congrArg Except.ok (Nat.add_assoc ..).symm
    rw [same]
    exact .bind step (ih (repaired + if changed then 1 else 0))

/-- The fold that counts from zero on gives the number of corrected roots. -/
theorem Visits.foldlM_zero {repaired : Nat} {told : Array Event}
    (visits : Visits plan repository assets db (.ok repaired) after told) (committed : Database) :
    Work.Runs (assets.foldlM (countAsset plan repository) 0) ⟨committed, some db⟩ (.ok repaired)
      ⟨committed, some after⟩ told := by
  have fold := visits.foldlM 0 committed
  have same : (Except.ok repaired : Except Failure Nat).map (0 + ·) = .ok repaired :=
    congrArg Except.ok (Nat.zero_add repaired)
  rwa [same] at fold

end

/-! ## Pages of any size -/

/-- All assets of a repository can be read, and visited without a failure. -/
def Plan.Passable (plan : Plan) (repository : String) (db : Database) : Prop :=
  ∃ assets repaired last told, assetsOf db repository = .ok assets ∧
    Visits plan repository assets db (.ok repaired) last told

/-- The plan with another number of assets in a batch. -/
def Plan.sized (plan : Plan) (size : Nat) : Plan :=
  { plan with batchSize := size }

section

variable {plan : Plan} {repository : String} {session : Session Database}

/-- A repair completes if all assets can be visited, and does what the visits do. -/
theorem repairRepository_walk (faithful : ManifestReader.Faithful plan.reader)
    (positive : 1 ≤ plan.batchSize) {tally : Tally}
    (completed : ((repairRepository plan repository).runIn session).1 = .ok tally) :
    ∃ events assets repaired told,
      Walk plan repository .beginning {} tally session.store
        ((repairRepository plan repository).runIn session).2.store events assets repaired told ∧
      ((repairRepository plan repository).runIn session).2.events =
        session.events ++ (events ++ plan.closing repository (.ok tally)) := by
  obtain ⟨final, last, events, batches⟩ :=
    exists_batchRuns plan repository (batchBound session.store) .beginning {} session.store
  obtain ⟨result, store, reported⟩ := batches.runs_repair.seen
  obtain rfl := result.symm.trans completed
  obtain ⟨assets, repaired, told, walk⟩ :=
    batches.walk faithful positive (length_rowsBehind_lt ..)
  rw [store]
  exact ⟨events, assets, repaired, told, walk, reported⟩

/-- A repair completes if all assets behind the first cursor can be visited. -/
theorem completes_iff_behind (faithful : ManifestReader.Faithful plan.reader)
    (positive : 1 ≤ plan.batchSize) :
    (∃ tally, ((repairRepository plan repository).runIn session).1 = .ok tally) ↔
      ∃ assets repaired last told, assetsBehind session.store repository .beginning = .ok assets ∧
        Visits plan repository assets session.store (.ok repaired) last told := by
  constructor
  · rintro ⟨tally, completed⟩
    obtain ⟨events, assets, repaired, told, walk, -⟩ :=
      repairRepository_walk faithful positive completed
    exact ⟨assets, repaired, _, told, walk.read, walk.visits⟩
  · rintro ⟨assets, repaired, last, told, read, visits⟩
    obtain ⟨final, after, events, batches⟩ :=
      exists_batchRuns plan repository (batchBound session.store) .beginning {} session.store
    rw [batches.runs_repair.seen.1]
    cases final with
    | ok tally => exact ⟨tally, rfl⟩
    | error failure => exact absurd visits (batches.no_visits read)

/-- Whether a repair completes does not depend on its pages. -/
theorem completes_iff (faithful : ManifestReader.Faithful plan.reader)
    (positive : 1 ≤ plan.batchSize)
    (numbered : ∀ row ∈ session.store.assets.rows, row.repository = repository → 0 ≤ row.id) :
    (∃ tally, ((repairRepository plan repository).runIn session).1 = .ok tally) ↔
      plan.Passable repository session.store := by
  rw [Plan.Passable, assetsOf_eq numbered]
  exact completes_iff_behind faithful positive

end

/-- A tarball with the manifest of version 1 of a package. -/
def staleTarball : Storage.Bytes :=
  [31, 139, 8, 0, 0, 0, 0, 0, 0, 255, 1, 26, 2, 229, 253] ++
    asciiBytes "p/package.json" ++ List.replicate 110 0 ++
    asciiBytes "00000000032" ++ List.replicate 13 0 ++
    asciiBytes "004230" ++ [0, 32] ++ asciiBytes "0" ++ List.replicate 355 0 ++
    asciiBytes "\x7b\"name\":\"a\",\"version\":\"1\"\x7d"

/-- The tarball among the files. -/
def staleFiles : Storage.Tree :=
  ⟨[(["data"], .directory), (["data", "blobs"], .directory),
    (["data", "blobs", "b"], .directory), (["data", "blobs", "b", "b"], .file staleTarball)]⟩

/-- A database whose root for the package lacks the version. Between the tarball and another asset
of the repository there is one of another repository. -/
def staleDatabase : Database :=
  { Database.fresh with
    repositories := ⟨[⟨"r", "npm", "hosted"⟩, ⟨"s", "npm", "hosted"⟩], by decide⟩
    blobs := ⟨[⟨"b", "new", .integer 553⟩], by decide⟩
    assets := ⟨[⟨1, "r", "a-1.tgz", some "b", "\x7b\"asset_kind\":\"TARBALL\"\x7d"⟩,
      ⟨2, "s", "a", none, ""⟩, ⟨3, "r", "a", none, ""⟩], by decide⟩
    roots := ⟨[⟨"r", "a", .integer 1, "\x7b\x7d"⟩], by decide⟩ }

/-- A repair of the root. -/
def stalePlan : Plan := ⟨"npm", 2, false, staleFiles, tarballReader⟩

/-- The state before the repair. -/
def staleSession : Session Database := ⟨staleDatabase, #[], 0⟩

end RegistryMend.Repair

import RegistryMend.Proofs.Repair.AuditTrail

/-! # What a failed repair leaves behind

A repair that fails has run some batches to their ends, each of them on a full page, and then one
that was rolled back. What remains is what one transaction over the assets of the former would have
left, and no batch is begun behind the one that failed.
-/

namespace RegistryMend.Repair

open RegistryMend.Storage (AssetRow Database)

/-! ## Full batches -/

/-- Full batches from one cursor to another: their assets are the first ones behind it, and were
visited in their order. -/
structure Advance (plan : Plan) (repository : String) (count : Nat) (cursor : Cursor)
    (tally reached : Tally) (db after : Database) (events : Array Event) (assets : List Asset)
    (repaired : Nat) (told : Array Event) : Prop where
  batches : BatchRuns plan repository count cursor tally db (.ok reached) after events
  read : assetsOfRows ((rowsBehind db repository cursor).take (count * plan.batchSize)) = .ok assets
  full : assets.length = count * plan.batchSize
  visits : Visits plan repository assets db (.ok repaired) after told
  counted : reached.batches = tally.batches + count
  scanned : reached.scanned = tally.scanned + assets.length
  mended : reached.repaired = tally.repaired + repaired
  begun : (cursors events).length = count

section

variable {plan : Plan} {repository : String} {fuel count : Nat} {cursor follow : Cursor}
  {tally reached : Tally} {db middle after : Database} {events others : Array Event}

/-- A page that is followed by another one is full. -/
theorem length_of_next {assets : List Asset} {size : Nat}
    (read : page db repository cursor size = .ok assets)
    (goes : Cursor.next (assets.map Asset.id) (some size) = some follow) :
    assets.length = size := by
  have most : assets.length ≤ size := by
    rw [page_eq (usable_of_page read)] at read
    rw [length_of_assetsOfRows read]
    exact List.length_take_le ..
  have least : size ≤ assets.length := by
    by_contra short
    rw [Cursor.next_eq_none_of_short (by rw [List.length_map]; omega)] at goes
    cases goes
  exact Nat.le_antisymm most least

/-- Before the first batch nothing was done. -/
theorem advance_none (plan : Plan) (repository : String) (cursor : Cursor) (tally : Tally)
    (db : Database) : Advance plan repository 0 cursor tally tally db db #[] [] 0 #[] where
  batches := .spent
  read := by rw [Nat.zero_mul, List.take_zero, assetsOfRows]
  full := (Nat.zero_mul _).symm
  visits := .nil
  counted := rfl
  scanned := rfl
  mended := rfl
  begun := rfl

/-- A batch that is followed by full batches is one of them. -/
theorem Advance.cons (faithful : ManifestReader.Faithful plan.reader) {page_ assets : List Asset}
    {repaired more : Nat} {told told_ : Array Event}
    (read : page db repository cursor plan.batchSize = .ok page_)
    (visits : Visits plan repository page_ db (.ok repaired) middle told)
    (goes : (plan.batchResult page_ repaired).next = some follow)
    (rest : Advance plan repository count follow (tally.add (plan.batchResult page_ repaired))
      reached middle after others assets more told_) :
    Advance plan repository (count + 1) cursor tally reached db after
      (#[plan.opening cursor] ++ told ++ others) (page_ ++ assets) (repaired + more)
      (told ++ told_) := by
  have usable := usable_of_page read
  have length := length_of_next read goes
  have concerns := visits.concerns faithful
  obtain ⟨last, ends, rfl⟩ := last_of_next read goes
  have behind := rowsBehind_next ends
  obtain ⟨roots, rfl⟩ := visits.frame
  have left : assetsOfRows ((rowsBehind db repository ⟨last.id⟩).take (count * plan.batchSize)) =
      .ok assets := rest.read
  have first := read
  rw [page_eq usable] at read
  constructor
  · exact .next (.completed first visits) goes rest.batches
  · rw [Nat.succ_mul, Nat.add_comm, List.take_add, assetsOfRows_append, read, ← behind]
    dsimp only
    rw [left]
    rfl
  · rw [List.length_append, length, rest.full, Nat.succ_mul, Nat.add_comm]
  · exact visits.append rest.visits
  · rw [rest.counted, Nat.add_comm count, ← Nat.add_assoc]
    rfl
  · rw [rest.scanned, List.length_append, ← Nat.add_assoc]
    rfl
  · rw [rest.mended, ← Nat.add_assoc]
    rfl
  · rw [cursors_append, cursors_batch concerns, List.length_append, rest.begun, Nat.add_comm]
    rfl

/-- A batch that fails tells its own cursor alone. -/
theorem BatchRun.cursors_of_error (faithful : ManifestReader.Faithful plan.reader)
    {failure : Failure} (batch : BatchRun plan repository cursor db (.error failure) after events) :
    cursors events = [cursor] := by
  cases batch with
  | unread => rfl
  | stopped _ visits => exact cursors_batch (visits.concerns faithful) plan cursor

/-- Batches that fail are full batches and then one that fails and leaves what those left. -/
theorem BatchRuns.advance (faithful : ManifestReader.Faithful plan.reader) {failure : Failure}
    (batches : BatchRuns plan repository fuel cursor tally db (.error failure) after events) :
    ∃ count follow reached before behind assets repaired told,
      Advance plan repository count cursor tally reached db after before assets repaired told ∧
      BatchRun plan repository follow after (.error failure) after behind ∧
      events = before ++ behind := by
  generalize given : (Except.error failure : Except Failure Tally) = final at batches
  induction batches with
  | spent => cases given
  | last first ends => cases given
  | @failed fuel cursor tally db after failure events first =>
    cases given
    obtain rfl := first.eq_of_error
    exact ⟨0, cursor, tally, #[], events, [], 0, #[], advance_none .., first,
      Array.empty_append.symm⟩
  | next first goes later ih =>
    obtain ⟨count, follow, reached, before, behind, assets, more, told_, rest, last, rfl⟩ := ih given
    cases first with
    | completed read visits =>
      exact ⟨count + 1, follow, reached, _, behind, _, _, _, .cons faithful read visits goes rest,
        last, (Array.append_assoc ..).symm⟩

end

/-! ## Failed repairs -/

/-- The assets of a repository whose ids were assigned, as stored. -/
def assignedRows (db : Database) (repository : String) : List AssetRow :=
  db.assets.rows.filter fun row => row.repository = repository ∧ 0 ≤ row.id

/-- Works on the assets in rows in a single transaction and counts the corrected roots. -/
def repairRows (plan : Plan) (repository : String) (rows : List AssetRow) : Work Database Nat :=
  runBatch repository do
    let assets ← Work.ofExcept (assetsOfRows rows)
    assets.foldlM (countAsset plan repository) 0

/-- A repair that ended with a failure behind a number of batches. -/
structure Plan.FailsBehind (plan : Plan) (repository : String) (session : Session Database)
    (count : Nat) (failure : Failure) (after : Session Database) : Prop where
  /-- So many batches ended, and the next one is the last that began. -/
  begun : ∃ events, after.events = session.events ++ events ∧ (cursors events).length = count + 1
  /-- The last batch fails, and leaves what the batches before it left. -/
  stopped : ∃ tally cursor,
    let before := (runBatches plan repository count .beginning {}).runIn session
    let last := (processBatch plan repository cursor).runIn before.2
    before.1 = .ok tally ∧ tally.batches = count ∧ tally.scanned = count * plan.batchSize ∧
      last.1 = .error failure ∧ last.2.events = after.events ∧ after.store = before.2.store
  /-- This is what a single transaction over their assets leaves. -/
  folded : ∃ repaired last,
    (repairRows plan repository ((assignedRows session.store repository).take
      (count * plan.batchSize))).runIn session = (.ok repaired, last) ∧ last.store = after.store
  /-- Nothing but package roots was written. -/
  frame : ∃ roots, after.store = session.store.withRoots roots

theorem rowsBehind_beginning_eq (db : Database) (repository : String) :
    rowsBehind db repository .beginning = assignedRows db repository := by
  refine List.filter_congr fun row _ => ?_
  have assigned : Cursor.beginning.value < row.id ↔ 0 ≤ row.id := Int.add_one_le_iff.symm
  simp [assigned, Bool.and_comm]

theorem repairRows_runs {plan : Plan} {repository : String} {db after : Database}
    {rows : List AssetRow} {assets : List Asset} {repaired : Nat} {told : Array Event}
    (read : assetsOfRows rows = .ok assets)
    (visits : Visits plan repository assets db (.ok repaired) after told) :
    Work.Runs (repairRows plan repository rows) db (.ok repaired) after told :=
  Work.Runs.runBatch repository
    (.silent_bind (Work.runs_ofExcept read _) (visits.foldlM_zero db))

/-- A repair that fails keeps what its completed batches wrote, and nothing else. -/
theorem repairRepository_keeps_batches {plan : Plan} (tarballs : plan.reader = tarballReader)
    {repository : String} {session : Session Database} {failure : Failure}
    (failed : ((repairRepository plan repository).runIn session).1 = .error failure) :
    ∃ count, plan.FailsBehind repository session count failure
      ((repairRepository plan repository).runIn session).2 := by
  have faithful : ManifestReader.Faithful plan.reader := tarballs ▸ tarballReader_faithful
  obtain ⟨final, after, events, batches⟩ :=
    exists_batchRuns plan repository (batchBound session.store) .beginning {} session.store
  obtain ⟨result, store, reported⟩ := batches.runs_repair.seen
  obtain rfl := result.symm.trans failed
  obtain ⟨count, cursor, tally, before, behind, assets, repaired, told, advance, last, rfl⟩ :=
    batches.advance faithful
  rw [Plan.closing, Array.append_empty] at reported
  refine ⟨count, ?begun, ?stopped, ?folded, ?frame⟩
  case begun =>
    refine ⟨before ++ behind, reported, ?_⟩
    rw [cursors_append, List.length_append, advance.begun, last.cursors_of_error faithful]
    rfl
  case stopped =>
    obtain ⟨ended, left, said⟩ := advance.batches.runs.seen
    have failing := last.runs
    rw [← left] at failing
    obtain ⟨failed_, -, said_⟩ := failing.seen
    refine ⟨tally, cursor, ended, ?_, ?_, failed_, ?_, store.trans left.symm⟩
    · exact advance.counted.trans (Nat.zero_add count)
    · rw [advance.scanned, advance.full]
      exact Nat.zero_add _
    · rw [said_, said, reported, Array.append_assoc]
  case folded =>
    rw [← rowsBehind_beginning_eq]
    obtain ⟨later, run⟩ :=
      repairRows_runs advance.read advance.visits session.events session.openings
    exact ⟨repaired, _, run, store.symm⟩
  case frame =>
    rw [store]
    exact batches.frame

/-- The first batch corrects the root, and the second one fails at an empty tarball. -/
theorem repairRepository_keeps_batches_spoilt :
    let plan := spoiltPlan.sized 1
    let session : Session Database := ⟨spoiltDatabase, #[], 0⟩
    let run := (repairRepository plan "r").runIn session
    run.1 = .error (.manifest (.unreadable (.archive .unreadable)) none) ∧
      plan.FailsBehind "r" session 1 (.manifest (.unreadable (.archive .unreadable)) none) run.2 ∧
      run.2.store.revision ("r", "a") = 2 := by
  have observed :
      let run := (repairRepository (spoiltPlan.sized 1) "r").runIn ⟨spoiltDatabase, #[], 0⟩
      run.1 = .error (.manifest (.unreadable (.archive .unreadable)) none) ∧
        (cursors run.2.events).length = 2 ∧ run.2.store.revision ("r", "a") = 2 := by
    decide +kernel
  obtain ⟨failed, begun, corrected⟩ := observed
  obtain ⟨count, fails⟩ := repairRepository_keeps_batches rfl failed
  obtain ⟨events, all, length⟩ := fails.begun
  rw [all, Array.empty_append, length] at begun
  obtain rfl : count = 1 := Nat.succ.inj begun
  exact ⟨failed, fails, corrected⟩

/-- The stale root, with a tarball whose id was never assigned. The last asset has attributes that
cannot be read. -/
def unassignedDatabase : Database :=
  { staleDatabase with
    assets := ⟨[⟨-5, "r", "a-1.tgz", some "b", "\x7b\"asset_kind\":\"TARBALL\"\x7d"⟩,
      ⟨1, "r", "a", none, ""⟩, ⟨2, "r", "a", none, "\x7b"⟩], by decide⟩ }

/-- An asset whose id was never assigned is not among those that the completed batches visited,
though it comes first in the order of ids. -/
theorem repairRepository_skips_unassigned :
    let plan := stalePlan.sized 1
    let session : Session Database := ⟨unassignedDatabase, #[], 0⟩
    let run := (repairRepository plan "r").runIn session
    let rows := unassignedDatabase.assets.rows.filter (·.repository = "r")
    let fold := (repairRows plan "r" (rows.take 1)).runIn session
    run.1 = .error (.document .malformed) ∧ (cursors run.2.events).length = 1 + 1 ∧
      fold.1 = .ok 1 ∧ run.2.store.roots.rows ≠ fold.2.store.roots.rows := by
  decide +kernel

end RegistryMend.Repair

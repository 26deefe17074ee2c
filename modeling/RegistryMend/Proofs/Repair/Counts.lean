import RegistryMend.Proofs.Repair.Rollback

/-! # How many batches a repository takes

The loop over the batches of a repository has no bound of its own. It ends because every batch that
is followed by another one starts behind fewer rows, and it takes one batch more than there are full
pages. What it counts are the rows, and the revisions that the package roots get.
-/

namespace RegistryMend.Repair

open RegistryMend.Storage (AssetRow Database RootRow)

/-! ## The loop -/

/-- The loop over batches in a session, from a cursor and a tally on: the cursors at which its
batches start, how it ends, and the session after it. -/
inductive BatchLoop (plan : Plan) (repository : String) : Cursor → Tally → Session Database →
    List Cursor → Except Failure Tally → Session Database → Prop
  | failed {cursor : Cursor} {tally : Tally} {session ended : Session Database} {failure : Failure}
      (ran : (processBatch plan repository cursor).runIn session = (.error failure, ended)) :
      BatchLoop plan repository cursor tally session [cursor] (.error failure) ended
  | last {cursor : Cursor} {tally : Tally} {session ended : Session Database} {result : BatchResult}
      (ran : (processBatch plan repository cursor).runIn session = (.ok result, ended))
      (ends : result.next = none) :
      BatchLoop plan repository cursor tally session [cursor] (.ok (tally.add result)) ended
  | next {cursor follow : Cursor} {tally : Tally} {session middle ended : Session Database}
      {result : BatchResult} {starts : List Cursor} {final : Except Failure Tally}
      (ran : (processBatch plan repository cursor).runIn session = (.ok result, middle))
      (goes : result.next = some follow)
      (later : BatchLoop plan repository follow (tally.add result) middle starts final ended) :
      BatchLoop plan repository cursor tally session (cursor :: starts) final ended

section

variable {plan : Plan} {repository : String} {cursor : Cursor} {tally : Tally}
  {session after ended : Session Database} {starts : List Cursor} {final : Except Failure Tally}
  {result : BatchResult}

/-- A batch that succeeds visits the assets on its page. -/
theorem visits_of_batch
    (ran : (processBatch plan repository cursor).runIn session = (.ok result, after)) :
    ∃ assets repaired events,
      page session.store repository cursor plan.batchSize = .ok assets ∧
      Visits plan repository assets session.store (.ok repaired) after.store events ∧
      result = plan.batchResult assets repaired := by
  obtain ⟨outcome, last, events, batch⟩ :=
    exists_batchRun plan repository cursor session.store
  obtain ⟨ends, leaves, -⟩ := batch.runs.seen
  rw [ran] at ends leaves
  subst ends leaves
  cases batch with
  | completed read visits => exact ⟨_, _, _, read, visits, rfl⟩

/-- Behind the next batch fewer rows are left. -/
theorem length_rowsBehind_of_batch {follow : Cursor}
    (ran : (processBatch plan repository cursor).runIn session = (.ok result, after))
    (goes : result.next = some follow) :
    (rowsBehind after.store repository follow).length <
      (rowsBehind session.store repository cursor).length := by
  obtain ⟨assets, repaired, events, read, visits, rfl⟩ := visits_of_batch ran
  obtain ⟨roots, same⟩ := visits.frame
  rw [same]
  exact length_rowsBehind_next read goes

/-- The loop ends. -/
theorem exists_batchLoop (plan : Plan) (repository : String) (cursor : Cursor) (tally : Tally)
    (session : Session Database) : ∃ starts final ended,
      BatchLoop plan repository cursor tally session starts final ended := by
  induction left : (rowsBehind session.store repository cursor).length
    using Nat.strong_induction_on generalizing cursor tally session with
  | _ left_ ih =>
    subst left
    cases ran : (processBatch plan repository cursor).runIn session with
    | mk outcome after =>
      cases outcome with
      | error failure => exact ⟨_, _, _, .failed ran⟩
      | ok result =>
        cases goes : result.next with
        | none => exact ⟨_, _, _, .last ran goes⟩
        | some follow =>
          obtain ⟨starts, final, ended, later⟩ :=
            ih _ (length_rowsBehind_of_batch ran goes) follow (tally.add result) after rfl
          exact ⟨_, _, _, .next ran goes later⟩

/-- The loop does what a bounded number of batches does, if there is one for every row and one
more. -/
theorem BatchLoop.runBatches {fuel : Nat}
    (loop : BatchLoop plan repository cursor tally session starts final ended)
    (enough : (rowsBehind session.store repository cursor).length < fuel) :
    (Repair.runBatches plan repository fuel cursor tally).runIn session = (final, ended) := by
  induction loop generalizing fuel with
  | failed ran =>
    obtain ⟨fuel, rfl⟩ := Nat.exists_eq_succ_of_ne_zero (Nat.ne_zero_of_lt enough)
    rw [Repair.runBatches, Work.runIn_bind, ran]
  | last ran ends =>
    obtain ⟨fuel, rfl⟩ := Nat.exists_eq_succ_of_ne_zero (Nat.ne_zero_of_lt enough)
    rw [Repair.runBatches, Work.runIn_bind, ran]
    dsimp only
    rw [ends]
    rfl
  | next ran goes later ih =>
    obtain ⟨fuel, rfl⟩ := Nat.exists_eq_succ_of_ne_zero (Nat.ne_zero_of_lt enough)
    rw [Repair.runBatches, Work.runIn_bind, ran]
    dsimp only
    rw [goes]
    have fewer := length_rowsBehind_of_batch ran goes
    exact ih (by omega)

/-- The repair of a repository is the loop from the first cursor on, and a report if it ran to its
end. -/
theorem BatchLoop.runIn_repairRepository
    (loop : BatchLoop plan repository .beginning {} session starts final ended) :
    (repairRepository plan repository).runIn session =
      (final, { ended with events := ended.events ++ plan.closing repository final }) := by
  have bounded := loop.runBatches (length_rowsBehind_lt session.store repository .beginning)
  rw [batchBound] at bounded
  rw [repairRepository, Work.runIn_bind, Work.runIn_store]
  dsimp only
  rw [Work.runIn_bind, bounded]
  cases final with
  | ok tally =>
    dsimp only
    rw [Work.runIn_bind, Work.runIn_report, Plan.closing, Array.push_eq_append]
    rfl
  | error failure =>
    rw [Plan.closing, Array.append_empty]

/-- The loop goes on in one way. -/
theorem BatchLoop.unique {starts_ : List Cursor} {final_ : Except Failure Tally}
    {ended_ : Session Database}
    (loop : BatchLoop plan repository cursor tally session starts final ended)
    (other : BatchLoop plan repository cursor tally session starts_ final_ ended_) :
    starts_ = starts ∧ final_ = final ∧ ended_ = ended := by
  induction loop generalizing starts_ with
  | failed ran =>
    cases other with
    | failed ran_ =>
      cases ran.symm.trans ran_
      exact ⟨rfl, rfl, rfl⟩
    | last ran_ => cases ran.symm.trans ran_
    | next ran_ => cases ran.symm.trans ran_
  | last ran ends =>
    cases other with
    | failed ran_ => cases ran.symm.trans ran_
    | last ran_ =>
      cases ran.symm.trans ran_
      exact ⟨rfl, rfl, rfl⟩
    | next ran_ goes_ =>
      cases ran.symm.trans ran_
      cases ends.symm.trans goes_
  | next ran goes later ih =>
    cases other with
    | failed ran_ => cases ran.symm.trans ran_
    | last ran_ ends_ =>
      cases ran.symm.trans ran_
      cases goes.symm.trans ends_
    | next ran_ goes_ later_ =>
      cases ran.symm.trans ran_
      cases goes.symm.trans goes_
      obtain ⟨rfl, rfl, rfl⟩ := ih later_
      exact ⟨rfl, rfl, rfl⟩

end

/-! ## Package roots by key -/

section Keys

variable {plan : Plan} {repository : String} {db after : Database} {events : Array Event}

/-- A visit adds no package root. -/
theorem Visit.keys {asset : Asset} {result : Except Failure Bool}
    (visit : Visit plan repository asset db result after events) :
    after.roots.rows.map RootRow.key = db.roots.rows.map RootRow.key := by
  cases visit with
  | mended announced usable found =>
    obtain ⟨row, present, -⟩ := Option.bind_eq_some_iff.mp found
    have own := Storage.Table.key_of_find? present
    have member : row.key ∈ db.roots.rows.map RootRow.key :=
      List.mem_map_of_mem (List.mem_of_find?_eq_some present)
    rw [own] at member
    exact (Storage.map_putRow RootRow.key _ db.roots.rows).trans (if_pos member)
  | _ => rfl

theorem Visits.keys {assets : List Asset} {result : Except Failure Nat}
    (visits : Visits plan repository assets db result after events) :
    after.roots.rows.map RootRow.key = db.roots.rows.map RootRow.key := by
  induction visits with
  | nil => rfl
  | stop first => exact first.visit.keys
  | next first later ih => exact ih.trans first.visit.keys

/-- The revisions of a repository are those of its package roots, found by their keys. -/
theorem revisions_eq (db : Database) (repository : String) : db.revisions repository =
    (((db.rootsOf repository).map RootRow.key).map db.revision).sum := by
  rw [Database.revisions, List.map_map]
  refine congrArg List.sum (List.map_congr_left fun row member => ?_)
  have found := Storage.Table.find?_of_mem (List.mem_filter.mp member).1
  rw [Function.comp_apply, Database.revision, Database.revision?_of_find? found]
  rfl

theorem keys_rootsOf (db : Database) (repository : String) :
    (db.rootsOf repository).map RootRow.key =
      (db.roots.rows.map RootRow.key).filter fun key => key.1 = repository := by
  rw [List.filter_map]
  rfl

theorem sum_map_sub {ρ : Type} (first second : ρ → Int) (rows : List ρ) :
    (rows.map fun row => first row - second row).sum =
      (rows.map first).sum - (rows.map second).sum := by
  induction rows with
  | nil => rfl
  | cons row rest ih =>
    simp only [List.map_cons, List.sum_cons, ih]
    omega

/-- Where no package root is added, the revisions grow by what each of them grows by. -/
theorem sum_growth (same : after.roots.rows.map RootRow.key = db.roots.rows.map RootRow.key) :
    ((db.rootsOf repository).map fun row => after.revision row.key - row.count).sum =
      after.revisions repository - db.revisions repository := by
  rw [revisions_eq after, keys_rootsOf, same, ← keys_rootsOf, List.map_map, sum_map_sub]
  rfl

end Keys

/-! ## Counting -/

/-- The cursor behind rows; without rows it stays where it is. -/
def Cursor.behind (cursor : Cursor) (rows : List AssetRow) : Cursor :=
  (rows.getLast?.map fun row => ⟨row.id⟩).getD cursor

@[simp] theorem Cursor.behind_nil (cursor : Cursor) : cursor.behind [] = cursor := rfl

theorem Cursor.behind_of_getLast? (cursor : Cursor) {rows : List AssetRow} {row : AssetRow}
    (ends : rows.getLast? = some row) : cursor.behind rows = ⟨row.id⟩ := by
  rw [behind, ends]
  rfl

theorem Cursor.behind_append (cursor : Cursor) (first second : List AssetRow) :
    cursor.behind (first ++ second) = (cursor.behind first).behind second := by
  cases ends : second.getLast? with
  | none =>
    rw [List.getLast?_eq_none_iff.mp ends, List.append_nil, behind_nil]
  | some row =>
    rw [behind_of_getLast? _ ends, behind_of_getLast? _ (by rw [List.getLast?_append, ends]; rfl)]

/-- Behind the cursor behind some of the rows stand the rows that are left. -/
theorem rowsBehind_behind (db : Database) (repository : String) (cursor : Cursor) (count : Nat) :
    rowsBehind db repository (cursor.behind ((rowsBehind db repository cursor).take count)) =
      (rowsBehind db repository cursor).drop count := by
  cases ends : ((rowsBehind db repository cursor).take count).getLast? with
  | some last => rw [Cursor.behind_of_getLast? _ ends, rowsBehind_next ends]
  | none =>
    have nothing := List.getLast?_eq_none_iff.mp ends
    have whole := List.take_append_drop count (rowsBehind db repository cursor)
    rw [nothing, List.nil_append] at whole
    rw [nothing, Cursor.behind_nil, whole]

/-- How many pages are taken of so many rows: the full ones, and one that is not full. -/
def pageCount (rows size : Nat) : Nat :=
  rows / size + 1

theorem pageCount_of_lt {rows size : Nat} (short : rows < size) : pageCount rows size = 1 := by
  rw [pageCount, Nat.div_eq_of_lt short]

theorem pageCount_of_le {rows size : Nat} (positive : 1 ≤ size) (full : size ≤ rows) :
    pageCount rows size = pageCount (rows - size) size + 1 := by
  rw [pageCount, pageCount, Nat.div_eq_sub_div positive full]

theorem add_batchResult (tally : Tally) (plan : Plan) (assets : List Asset) (repaired : Nat) :
    tally.add (plan.batchResult assets repaired) =
      ⟨tally.batches + 1, tally.scanned + assets.length, tally.repaired + repaired⟩ := rfl

/-- What a loop counts that runs to its end. -/
structure Counts (plan : Plan) (repository : String) (cursor : Cursor) (tally final : Tally)
    (db after : Database) (starts : List Cursor) : Prop where
  usable : db.holds .assets = true
  starts : starts = (List.range (pageCount (rowsBehind db repository cursor).length
    plan.batchSize)).map fun count =>
      cursor.behind ((rowsBehind db repository cursor).take (count * plan.batchSize))
  batches : final.batches =
    tally.batches + pageCount (rowsBehind db repository cursor).length plan.batchSize
  scanned : final.scanned = tally.scanned + (rowsBehind db repository cursor).length
  keys : after.roots.rows.map RootRow.key = db.roots.rows.map RootRow.key
  mended : after.revisions repository + tally.repaired = db.revisions repository + final.repaired

section

variable {plan : Plan} {repository : String} {cursor : Cursor} {tally : Tally}
  {session ended : Session Database} {starts : List Cursor}

/-- The last page has all the rows that are left, and is not full. -/
theorem length_of_last {db : Database} {assets : List Asset} {size : Nat} (positive : 1 ≤ size)
    (read : page db repository cursor size = .ok assets)
    (ends : Cursor.next (assets.map Asset.id) (some size) = none) :
    (rowsBehind db repository cursor).length = assets.length ∧ assets.length < size := by
  have whole := assetsBehind_of_last positive read ends
  rw [assetsBehind_eq (usable_of_page read)] at whole
  exact ⟨(length_of_assetsOfRows whole).symm, length_lt_of_last positive ends⟩

/-- A loop that runs to its end counts its batches, the rows behind its cursor, and the growth of the
revisions. -/
theorem BatchLoop.counts (positive : 1 ≤ plan.batchSize) {final : Tally}
    (loop : BatchLoop plan repository cursor tally session starts (.ok final) ended) :
    Counts plan repository cursor tally final session.store ended.store starts := by
  generalize given : (Except.ok final : Except Failure Tally) = result at loop
  induction loop with
  | failed ran => cases given
  | @last cursor tally session ended result ran ends =>
    cases given
    obtain ⟨assets, repaired, events, read, visits, rfl⟩ := visits_of_batch ran
    obtain ⟨all, short⟩ := length_of_last positive read ends
    have single := pageCount_of_lt short
    constructor
    case usable => exact usable_of_page read
    case starts => rw [all, single]; simp
    case batches => rw [all, single]; rfl
    case scanned => rw [all]; rfl
    case keys => exact visits.keys
    case mended =>
      rw [visits.revisions, add_batchResult]
      push_cast
      omega
  | @next cursor follow tally session middle ended result starts final_ ran goes later ih =>
    obtain ⟨assets, repaired, events, read, visits, rfl⟩ := visits_of_batch ran
    obtain ⟨roots, same⟩ := visits.frame
    have usable := usable_of_page read
    have length := length_of_next read goes
    obtain ⟨last, isLast, rfl⟩ := last_of_next read goes
    have rest := ih given
    have left : rowsBehind middle.store repository ⟨last.id⟩ =
        (rowsBehind session.store repository cursor).drop plan.batchSize := by
      rw [same]
      exact rowsBehind_next isLast
    have full : plan.batchSize ≤ (rowsBehind session.store repository cursor).length := by
      rw [page_eq usable] at read
      have taken := length_of_assetsOfRows read
      rw [List.length_take] at taken
      omega
    have count := pageCount_of_le positive full
    obtain ⟨-, starts, batches, scanned, keys, mended⟩ := rest
    rw [left, List.length_drop] at starts batches scanned
    rw [add_batchResult] at batches scanned mended
    dsimp only at batches scanned mended
    constructor
    case usable => exact usable
    case starts =>
      rw [count, List.range_succ_eq_map, List.map_cons, List.map_map, starts]
      refine congrArg₂ List.cons (by simp) (List.map_congr_left fun index _ => ?_)
      -- the rows before a later batch are the first page and those before it in the rest
      rw [Function.comp_apply, Nat.succ_eq_add_one, Nat.succ_mul, Nat.add_comm, List.take_add,
        Cursor.behind_append, Cursor.behind_of_getLast? _ isLast]
    case batches =>
      rw [batches, count]
      omega
    case scanned =>
      rw [scanned, length]
      omega
    case keys => exact keys.trans visits.keys
    case mended =>
      rw [visits.revisions] at mended
      push_cast at mended
      omega

end

/-! ## What a repair counts -/

/-- The rows on a page, when rows are taken in pages of a size. -/
def pageRows (rows : List AssetRow) (size index : Nat) : List AssetRow :=
  (rows.drop (index * size)).take size

/-- A repair that ended with a tally, and whose batches started at cursors. -/
structure Plan.Tallied (plan : Plan) (repository : String) (db after : Database)
    (starts : List Cursor) (tally : Tally) : Prop where
  batches : tally.batches = (assignedRows db repository).length / plan.batchSize + 1
  begun : starts.length = tally.batches
  first : starts[0]? = some ⟨-1⟩
  /-- Every other batch starts behind the last id on the page before it. -/
  follows : ∀ index, index + 1 < tally.batches → ∃ row,
    (pageRows (assignedRows db repository) plan.batchSize index).getLast? = some row ∧
      starts[index + 1]? = some ⟨row.id⟩
  /-- A batch takes its page of the rows, with larger ids than its cursor. -/
  pages : ∀ index start, starts[index]? = some start →
    page db repository start plan.batchSize =
        assetsOfRows (pageRows (assignedRows db repository) plan.batchSize index) ∧
      ∀ row ∈ pageRows (assignedRows db repository) plan.batchSize index, start.value < row.id
  scanned : tally.scanned = (assignedRows db repository).length
  keys : (after.rootsOf repository).map RootRow.key = (db.rootsOf repository).map RootRow.key
  mended : ((db.rootsOf repository).map fun row => after.revision row.key - row.count).sum =
    tally.repaired

/-- A page that the rows fill has a last row. -/
theorem exists_last_pageRows {rows : List AssetRow} {size index : Nat} (positive : 1 ≤ size)
    (full : (index + 1) * size ≤ rows.length) :
    ∃ row, (pageRows rows size index).getLast? = some row := by
  rw [Nat.succ_mul] at full
  cases ends : (pageRows rows size index).getLast? with
  | some row => exact ⟨row, rfl⟩
  | none =>
    have length := congrArg List.length (List.getLast?_eq_none_iff.mp ends)
    rw [pageRows, List.length_take, List.length_drop, List.length_nil] at length
    omega

theorem Counts.tallied {plan : Plan} (positive : 1 ≤ plan.batchSize) {repository : String}
    {tally : Tally} {db after : Database} {starts : List Cursor}
    (counts : Counts plan repository .beginning {} tally db after starts) :
    plan.Tallied repository db after starts tally := by
  have batches := counts.batches
  have scanned := counts.scanned
  have started := counts.starts
  rw [Nat.zero_add] at batches scanned
  have cursorAt {index : Nat} (inside : index < tally.batches) : starts[index]? = some
      (Cursor.beginning.behind
        ((rowsBehind db repository .beginning).take (index * plan.batchSize))) := by
    rw [batches] at inside
    rw [started, List.getElem?_map, List.getElem?_range inside, Option.map_some]
  have begun : starts.length = tally.batches := by
    rw [started, List.length_map, List.length_range, batches]
  constructor
  case begun => exact begun
  case batches => rw [batches, rowsBehind_beginning_eq, pageCount]
  case first =>
    rw [cursorAt (by rw [batches]; exact Nat.succ_pos _), Nat.zero_mul, List.take_zero]
    rfl
  case follows =>
    intro index inside
    rw [← rowsBehind_beginning_eq]
    generalize all : rowsBehind db repository .beginning = rows at *
    have full : (index + 1) * plan.batchSize ≤ rows.length := by
      rw [batches, pageCount, Nat.add_lt_add_iff_right] at inside
      exact (Nat.le_div_iff_mul_le positive).mp inside
    obtain ⟨row, ends⟩ := exists_last_pageRows positive full
    refine ⟨row, ends, ?_⟩
    rw [cursorAt inside, Nat.succ_mul, List.take_add, Cursor.behind_append]
    exact congrArg some (Cursor.behind_of_getLast? _ ends)
  case pages =>
    intro index start given
    have inside : index < tally.batches := begun ▸ (List.getElem?_eq_some_iff.mp given).1
    obtain rfl := Option.some.inj ((cursorAt inside).symm.trans given)
    have behind := rowsBehind_behind db repository .beginning (index * plan.batchSize)
    rw [page_eq counts.usable, behind, ← rowsBehind_beginning_eq]
    constructor
    · rfl
    · intro row member
      have left := List.mem_of_mem_take member
      rw [← behind] at left
      exact id_of_mem_rowsBehind left
  case scanned => rw [scanned, rowsBehind_beginning_eq]
  case keys => rw [keys_rootsOf, keys_rootsOf, counts.keys]
  case mended =>
    have mended := counts.mended
    rw [sum_growth counts.keys]
    push_cast at mended
    omega

/-- The repair of a repository ends. If none of its batches fails, the first of them starts behind
the id -1 and the others behind the last id before them, there is one more than there are full
pages, and the assets and the growth of the revisions are counted. -/
theorem repairRepository_counts {plan : Plan} (positive : 1 ≤ plan.batchSize) (repository : String)
    (session : Session Database) :
    let run := (repairRepository plan repository).runIn session
    ∃ starts ended,
      (∀ starts_ final ended_,
        BatchLoop plan repository .beginning {} session starts_ final ended_ ↔
          starts_ = starts ∧ final = run.1 ∧ ended_ = ended) ∧
      run.2 = { ended with events := ended.events ++ plan.closing repository run.1 } ∧
      ∀ tally, run.1 = .ok tally →
        plan.Tallied repository session.store run.2.store starts tally := by
  intro run
  obtain ⟨starts, final, ended, loop⟩ :=
    exists_batchLoop plan repository .beginning {} session
  have whole : run =
      (final, { ended with events := ended.events ++ plan.closing repository final }) :=
    loop.runIn_repairRepository
  rw [whole]
  refine ⟨starts, ended, fun starts_ final_ ended_ => ⟨loop.unique, ?_⟩, rfl, ?_⟩
  · rintro ⟨rfl, rfl, rfl⟩
    exact loop
  · rintro tally rfl
    exact (loop.counts positive).tallied positive

/-- Two assets are taken in two full batches and an empty one, and one root is corrected. -/
theorem repairRepository_counts_stale :
    let plan := stalePlan.sized 1
    let run := (repairRepository plan "r").runIn staleSession
    1 ≤ plan.batchSize ∧ run.1 = .ok ⟨3, 2, 1⟩ ∧
      ∃ starts, plan.Tallied "r" staleDatabase run.2.store starts ⟨3, 2, 1⟩ := by
  have completed : ((repairRepository (stalePlan.sized 1) "r").runIn staleSession).1 =
      .ok ⟨3, 2, 1⟩ := by decide +kernel
  have positive : 1 ≤ (stalePlan.sized 1).batchSize := Nat.le_refl 1
  obtain ⟨starts, ended, -, -, counts⟩ := repairRepository_counts positive "r" staleSession
  exact ⟨positive, completed, starts, counts _ completed⟩

end RegistryMend.Repair

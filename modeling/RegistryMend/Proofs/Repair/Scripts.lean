import Mathlib.Data.List.Induction
import RegistryMend.Proofs.Repair.Batches
import RegistryMend.Proofs.Repair.GuardedWrites

/-! # Transactions of many requests

The work within a transaction reads and writes package roots as often as it likes. It chooses every
request by what it heard before, goes on behind failures or gives up, and in the end returns or
raises. Each request is answered by the rows as the successful writes before it left them, and these
writes are kept all together or not at all.
-/

namespace RegistryMend.Storage

open RegistryMend.Json (Members)
open RegistryMend.Package (Root)

/-- The document that is written for a package. -/
abbrev RootPut := RootKey × Root

/-- The documents that are written for one of the packages. -/
def putsTo (key : RootKey) (puts : List RootPut) : List Root :=
  puts.filterMap fun put => if put.1 = key then some put.2 else none

theorem putsTo_append (key : RootKey) (first second : List RootPut) :
    putsTo key (first ++ second) = putsTo key first ++ putsTo key second := by
  simp [putsTo]

theorem putsTo_self (put : RootPut) : putsTo put.1 [put] = [put.2] := by
  simp [putsTo]

theorem putsTo_of_ne {key : RootKey} {put : RootPut} (differ : key ≠ put.1) :
    putsTo key [put] = [] := by
  simp [putsTo, Ne.symm differ]

namespace Database

/-- The database after documents were written in their order. -/
def afterPuts (db : Database) (puts : List RootPut) : Database :=
  puts.foldl (fun db put => db.written put.1 put.2) db

variable (db : Database)

@[simp] theorem afterPuts_nil : db.afterPuts [] = db := rfl

theorem afterPuts_append (first second : List RootPut) :
    db.afterPuts (first ++ second) = (db.afterPuts first).afterPuts second :=
  List.foldl_append

theorem afterPuts_singleton (put : RootPut) : db.afterPuts [put] = db.written put.1 put.2 := rfl

/-- Nothing but package roots is written. -/
theorem frame_afterPuts (puts : List RootPut) :
    ∃ roots, db.afterPuts puts = db.withRoots roots := by
  induction puts using List.reverseRecOn with
  | nil => exact ⟨db.roots, rfl⟩
  | append_singleton puts put ih =>
    obtain ⟨roots, same⟩ := ih
    rw [afterPuts_append, same]
    exact ⟨_, rfl⟩

theorem holds_afterPuts (puts : List RootPut) (table : TableName) :
    (db.afterPuts puts).holds table = db.holds table := by
  obtain ⟨roots, same⟩ := db.frame_afterPuts puts
  rw [same]
  rfl

/-- The revision of a package grows with every document that is written for it. -/
theorem revision_afterPuts (puts : List RootPut) (key : RootKey) :
    (db.afterPuts puts).revision key = db.revision key + (putsTo key puts).length := by
  induction puts using List.reverseRecOn with
  | nil => simp [putsTo]
  | append_singleton puts put ih =>
    rw [afterPuts_append, afterPuts_singleton, putsTo_append, List.length_append]
    by_cases same : key = put.1
    · subst same
      rw [revision_written_self, ih, putsTo_self]
      push_cast
      simp only [List.length_singleton]
      omega
    · rw [revision_written_of_ne _ _ _ same, ih, putsTo_of_ne same]
      simp

/-- The row of a package holds the document that was written for it last, or is what it was. -/
theorem find?_afterPuts (puts : List RootPut) (key : RootKey) :
    (db.afterPuts puts).roots.find? key =
      match (putsTo key puts).getLast? with
      | none => db.roots.find? key
      | some root => some (nextRow key
          (some (db.revision key + (putsTo key puts).length - 1)) root) := by
  induction puts using List.reverseRecOn with
  | nil => rfl
  | append_singleton puts put ih =>
    rw [afterPuts_append, afterPuts_singleton, putsTo_append]
    by_cases same : key = put.1
    · subst same
      have next : ∀ revision? : Option Int, nextRow put.1 revision? put.2 =
          nextRow put.1 (some (revision?.getD 0)) put.2 := fun _ => rfl
      have revision := db.revision_afterPuts puts put.1
      rw [Database.revision] at revision
      rw [find?_written_self, putsTo_self, List.getLast?_concat, next, revision,
        List.length_append, List.length_singleton]
      push_cast
      rw [← Int.add_assoc, Int.add_sub_cancel]
    · rw [find?_written_of_ne _ _ _ same, ih, putsTo_of_ne same, List.append_nil]

theorem keyFor_afterPuts (puts : List RootPut) (repository : String) (id : Package.Id) :
    (db.afterPuts puts).keyFor repository id = db.keyFor repository id := by
  rw [keyFor, keyFor, require, require, holds_afterPuts]

theorem getRoot_congr {first second : Database} {key : RootKey}
    (usable : first.holds .packageRoots = second.holds .packageRoots)
    (same : first.roots.find? key = second.roots.find? key) :
    first.getRoot key = second.getRoot key := by
  cases held : second.holds .packageRoots with
  | true =>
    rw [getRoot, getRoot, rootRow?_of_holds (usable.trans held), rootRow?_of_holds held, same]
  | false =>
    rw [getRoot, getRoot, rootRow?_of_not_holds (usable.trans held), rootRow?_of_not_holds held]

/-- A package for which nothing was written is read as before. -/
theorem getRoot_afterPuts_of_none {puts : List RootPut} {key : RootKey}
    (spared : (putsTo key puts).getLast? = none) :
    (db.afterPuts puts).getRoot key = db.getRoot key := by
  apply getRoot_congr (db.holds_afterPuts puts .packageRoots)
  rw [find?_afterPuts, spared]

/-- What is read is the document that was written last, with its revision. -/
theorem getRoot_afterPuts (usable : db.holds .packageRoots = true) {puts : List RootPut}
    {key : RootKey} {root : Root} (last : (putsTo key puts).getLast? = some root)
    (storable : Members.Storable root) :
    (db.afterPuts puts).getRoot key = .ok (some (Members.sorted
      (withRevision (Decimal.integerText (db.revision key + (putsTo key puts).length)) root))) := by
  induction puts using List.reverseRecOn with
  | nil => cases last
  | append_singleton puts put ih =>
    have usable_ := (db.holds_afterPuts puts .packageRoots).trans usable
    rw [putsTo_append] at last ⊢
    rw [afterPuts_append, afterPuts_singleton]
    by_cases same : key = put.1
    · subst same
      rw [putsTo_self, List.getLast?_concat] at last
      obtain rfl := Option.some.inj last
      rw [getRoot_written usable_ storable, revision_afterPuts, putsTo_self, List.length_append,
        List.length_singleton]
      push_cast
      rw [Int.add_assoc]
    · rw [putsTo_of_ne same, List.append_nil] at last ⊢
      rw [← ih last]
      apply getRoot_congr
      · rfl
      · exact find?_written_of_ne _ _ _ same

end Database

end RegistryMend.Storage

namespace RegistryMend.Repair

open RegistryMend.Json (Members)
open RegistryMend.Package (Id Root)
open RegistryMend.Storage (Database RootKey RootPut UnitOfWork putsTo withRevision)

/-! ## Scripts -/

/-- Work that makes requests, each of them chosen by how those before it ended, and that returns or
raises behind them. -/
inductive Script (α : Type) where
  | done (result : Except Failure α)
  | ask (request : Request) (next : Except Failure (Option Root) → Script α)

/-- A request and how it ended. -/
structure Reply where
  request : Request
  result : Except Failure (Option Root)

/-- The document that was written, if the request was a write and succeeded. -/
def Reply.put? : Reply → Option RootPut
  | ⟨.write repository id _ root, .ok _⟩ =>
    id.text.plain?.map fun packageId => ((repository, packageId), root)
  | _ => none

/-- The documents that were written. -/
def putsOf (replies : List Reply) : List RootPut :=
  replies.filterMap Reply.put?

theorem putsOf_cons (reply : Reply) (rest : List Reply) :
    putsOf (reply :: rest) = putsOf [reply] ++ putsOf rest := by
  rw [← List.singleton_append, putsOf, List.filterMap_append]
  rfl

/-- A write is refused, or it leaves its document. -/
theorem Request.write_cases (repository : String) (id : Id) (expected : Option String) (root : Root)
    (db : Database) :
    let request := write repository id expected root
    (∃ failure, request.answer db = .error failure ∧ request.after db = db) ∨
      ∃ packageId : String, id.text = ↑packageId ∧ db.holds .packageRoots = true ∧
        request.answer db = .ok none ∧ request.after db = db.written (repository, packageId) root := by
  dsimp only [answer, after]
  cases put : db.keyFor repository id >>= fun key => db.putRoot key expected root with
  | error failure => exact .inl ⟨failure, rfl, rfl⟩
  | ok after =>
    obtain ⟨key, keyed, stored⟩ := bind_eq_ok_iff.mp put
    obtain ⟨rfl, named⟩ := Database.keyFor_eq_ok_iff.mp keyed
    obtain ⟨passes, rfl⟩ := Database.putRoot_eq_ok stored
    exact .inr ⟨key.2, named, passes.usable, rfl, rfl⟩

/-- A request writes its document, if it succeeds, and changes nothing else. -/
theorem Request.after_eq (request : Request) (db : Database) :
    request.after db = db.afterPuts (putsOf [⟨request, request.answer db⟩]) := by
  cases request with
  | read repository id => rfl
  | write repository id expected root =>
    rcases write_cases repository id expected root db with
      ⟨failure, refused, same⟩ | ⟨packageId, named, -, written, same⟩
    · rw [refused, same]
      rfl
    · have put : Reply.put? ⟨.write repository id expected root, .ok none⟩ =
          some ((repository, packageId), root) := by
        rw [Reply.put?, named, WideText.plain?_ofString]
        rfl
      rw [written, same, putsOf, List.filterMap_cons_some put]
      rfl

/-- Where a document was written, the table of package roots can be used. -/
theorem holds_of_put? {request : Request} {db : Database} {put : RootPut}
    (written : Reply.put? ⟨request, request.answer db⟩ = some put) :
    db.holds .packageRoots = true := by
  cases request with
  | read repository id => cases written
  | write repository id expected root =>
    rcases Request.write_cases repository id expected root db with
      ⟨failure, refused, -⟩ | ⟨_, -, usable, -⟩
    · rw [refused] at written
      cases written
    · exact usable

namespace Script

variable {α : Type}

/-- The work of a script. It goes on behind a request however that ended. -/
def work : Script α → Work UnitOfWork α
  | done result => Work.ofExcept result
  | ask request next => do
    let result ← Work.attempt request.work
    (next result).work

/-- On a database a script gets replies and ends. Every request is answered by the database that
the one before it left. -/
inductive Plays : Script α → Database → List Reply → Except Failure α → Prop
  | done {result : Except Failure α} {db : Database} : Plays (done result) db [] result
  | ask {request : Request} {next : Except Failure (Option Root) → Script α} {db : Database}
      {replies : List Reply} {result : Except Failure α}
      (later : Plays (next (request.answer db)) (request.after db) replies result) :
      Plays (ask request next) db (⟨request, request.answer db⟩ :: replies) result

theorem exists_plays (script : Script α) (db : Database) :
    ∃ replies result, script.Plays db replies result := by
  induction script generalizing db with
  | done result => exact ⟨[], result, .done⟩
  | ask request next ih =>
    obtain ⟨replies, result, later⟩ := ih (request.answer db) (request.after db)
    exact ⟨_, result, .ask later⟩

section Plays

variable {script : Script α} {db : Database} {replies : List Reply} {result : Except Failure α}

/-- The work of a script leaves the documents that it wrote. -/
theorem Plays.runs (plays : script.Plays db replies result) (committed : Database) :
    Work.Runs script.work ⟨committed, some db⟩ result
      ⟨committed, some (db.afterPuts (putsOf replies))⟩ #[] := by
  induction plays with
  | done => exact Work.runs_ofExcept rfl _
  | @ask request next db replies result later ih =>
    rw [putsOf_cons, Database.afterPuts_append, ← Request.after_eq]
    exact .silent_bind (request.work_runs committed db).attempt ih

/-- Every request is answered by the database that the successful writes before it left. -/
theorem Plays.answered (plays : script.Plays db replies result) {before rest : List Reply}
    {reply : Reply} (split : replies = before ++ reply :: rest) :
    reply.result = reply.request.answer (db.afterPuts (putsOf before)) := by
  induction plays generalizing before with
  | done => simp at split
  | @ask request next db replies result later ih =>
    cases before with
    | nil =>
      obtain ⟨rfl, -⟩ := List.cons.inj split
      rfl
    | cons first before =>
      rw [List.cons_append] at split
      obtain ⟨rfl, later_⟩ := List.cons.inj split
      rw [putsOf_cons, Database.afterPuts_append, ← Request.after_eq]
      exact ih later_

theorem Plays.usable (plays : script.Plays db replies result) {put : RootPut}
    (written : put ∈ putsOf replies) : db.holds .packageRoots = true := by
  obtain ⟨reply, member, given⟩ := List.mem_filterMap.mp written
  obtain ⟨before, rest, split⟩ := List.append_of_mem member
  have answered := plays.answered split
  rw [← db.holds_afterPuts (putsOf before)]
  obtain ⟨request, result⟩ := reply
  dsimp only at answered
  subst answered
  exact holds_of_put? given

end Plays

/-! ## Transactions -/

/-- What a transaction for a repository makes of a script that got replies and ended: how the
transaction ends, and the database after it. -/
structure Transacts (script : Script α) (repository : String) (db : Database)
    (replies : List Reply) (result outcome : Except Failure α) (after : Database) : Prop where
  plays : script.Plays db replies result
  /-- Every request is answered by the rows as the successful writes before it left them. -/
  answered : ∀ before reply rest, replies = before ++ reply :: rest →
    reply.result = reply.request.answer (db.afterPuts (putsOf before))
  /-- A package is read as before until a document is written for it. -/
  reads : ∀ before name (id : Id) read rest, replies = before ++ ⟨.read name id, read⟩ :: rest →
    (∀ packageId : String, id.text = ↑packageId →
      (putsTo (name, packageId) (putsOf before)).getLast? = none) →
        read = Request.answer db (.read name id)
  /-- From then on the document that was written last is read, with its revision. -/
  readsOwn : ∀ before name (id : Id) read rest, replies = before ++ ⟨.read name id, read⟩ :: rest →
    ∀ packageId : String, id.text = ↑packageId →
      ∀ root, (putsTo (name, packageId) (putsOf before)).getLast? = some root →
        Members.Storable root → read = .ok (some (Members.sorted (withRevision
          (Decimal.integerText (db.revision (name, packageId) +
            (putsTo (name, packageId) (putsOf before)).length)) root)))
  /-- Work that returns has its writes kept, and no others. -/
  returned : ∀ a, result = .ok a →
    outcome = .ok a ∧ after = db.afterPuts (putsOf replies) ∧
      ∀ key, after.roots.find? key = match (putsTo key (putsOf replies)).getLast? with
        | none => db.roots.find? key
        | some root => some (Storage.nextRow key
            (some (db.revision key + (putsTo key (putsOf replies)).length - 1)) root)
  /-- Work that raises has nothing kept. A fault of the database is told as one of the
  transaction. -/
  raised : ∀ failure, result = .error failure → after = db ∧
    (∀ fault, failure = .database fault → outcome = .error (.transaction repository fault)) ∧
    ((∀ fault, failure ≠ .database fault) → outcome = .error failure)

theorem Plays.transacts {script : Script α} {db : Database} {replies : List Reply}
    {result : Except Failure α} (plays : script.Plays db replies result) (repository : String) :
    script.Transacts repository db replies result
      (result.mapError (transactionFailure repository))
      (closeTransaction result ⟨db, some (db.afterPuts (putsOf replies))⟩) where
  plays := plays
  answered := fun _ _ _ split => plays.answered split
  reads := by
    intro before name id read rest split spared
    refine (plays.answered split).trans ?_
    rw [Request.answer, Request.answer, db.keyFor_afterPuts]
    cases keyed : db.keyFor name id with
    | error failure => rfl
    | ok key =>
      obtain ⟨rfl, named⟩ := Database.keyFor_eq_ok_iff.mp keyed
      exact db.getRoot_afterPuts_of_none (spared key.2 named)
  readsOwn := by
    intro before name id read rest split packageId named root last storable
    have written : ∃ put, put ∈ putsOf before := by
      cases puts : putsOf before with
      | nil =>
        rw [puts] at last
        cases last
      | cons put rest => exact ⟨put, List.mem_cons_self ..⟩
    obtain ⟨put, member⟩ := written
    have usable : db.holds .packageRoots = true := by
      apply plays.usable
      rw [split, putsOf, List.filterMap_append]
      exact List.mem_append_left _ member
    refine (plays.answered split).trans ?_
    rw [Request.answer, Database.keyFor_of_named named]
    exact db.getRoot_afterPuts usable last storable
  returned := by
    rintro a rfl
    exact ⟨rfl, rfl, db.find?_afterPuts (putsOf replies)⟩
  raised := by
    rintro failure rfl
    refine ⟨rfl, ?_, fun other => ?_⟩
    · rintro fault rfl
      rfl
    · cases failure with
      | database fault => exact absurd rfl (other fault)
      | _ => rfl

end Script

/-- Whatever requests the work within a transaction makes, and however it goes on when one of them
fails: it sees its own writes, they are kept if it returns, and nothing is kept if it raises. -/
theorem runBatch_script {α : Type} (repository : String) (script : Script α)
    (session : Session Database) :
    let run := (runBatch repository script.work).runIn session
    run.2.events = session.events ∧
      ∃ replies result, script.Transacts repository session.store replies result run.1
        run.2.store := by
  intro run
  obtain ⟨replies, result, plays⟩ := script.exists_plays session.store
  have whole : Work.Runs script.work (.begin session.store) result
      ⟨session.store, some (session.store.afterPuts (putsOf replies))⟩ #[] :=
    plays.runs session.store
  obtain ⟨ends, leaves, told⟩ := (whole.runBatch repository).seen
  refine ⟨told.trans Array.append_empty, replies, result, ?_⟩
  rw [ends, leaves]
  exact plays.transacts repository

-- The second write belongs to no repository. Its failure is caught and leaves no trace.
example :
    let script : Script Bool :=
      .ask (.write "r" Storage.plainId none []) fun _ =>
        .ask (.write "s" Storage.plainId none []) fun _ =>
          .ask (.read "r" Storage.plainId) fun root? => .done (root?.map Option.isSome)
    let run := (runBatch "r" script.work).runIn ⟨Storage.seededDatabase, #[], 0⟩
    run.1 = .ok true ∧
      run.2.store.roots.rows = [⟨"r", "a", .integer 5, "\x7b\"_rev\": \"5\"\x7d"⟩] := by
  decide +kernel

/-- Work that commits the transaction itself once it has succeeded. -/
def committing {α : Type} (work : Work UnitOfWork α) : Work UnitOfWork α := do
  let a ← work
  Work.setStore (← Work.store).commit
  return a

/-- A commit before the transaction is closed makes no difference. -/
theorem runBatch_committing {α : Type} (repository : String) (work : Work UnitOfWork α)
    (session : Session Database) :
    (runBatch repository (committing work)).runIn session =
      (runBatch repository work).runIn session := by
  have adapted (inner : Work UnitOfWork α) : (runBatch repository inner).runIn session =
      (((inTransaction inner).runIn session).1.mapError (transactionFailure repository),
        ((inTransaction inner).runIn session).2) := rfl
  rw [adapted, adapted, inTransaction, inTransaction, Work.runIn_within, Work.runIn_within,
    committing, Work.runIn_bind]
  cases work.runIn { session with store := UnitOfWork.begin session.store } with
  | mk result after =>
    cases result with
    | error failure => rfl
    | ok a => rfl

end RegistryMend.Repair

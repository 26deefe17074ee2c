import RegistryMend.Proofs.Decimal.Digits
import RegistryMend.Proofs.Repair.Runs
import RegistryMend.Proofs.Storage.RoundTrip

/-! # Guarded writes

A client reads or writes the root of a package in a transaction of its own. A write that expects a
revision is done exactly if the row has it; the text `None` is expected of a package without a row.
Otherwise nothing is written.
-/

namespace RegistryMend.Repair

open RegistryMend.Json (Members)
open RegistryMend.Package (Id Root)
open RegistryMend.Storage (Database Leaves RootKey RootRow UnitOfWork databaseRoots guardAccepts
  revisionText)

/-! ## Revisions as texts -/

/-- The text for a missing row is no revision. -/
theorem integerText_ne_none (n : Int) : Decimal.integerText n ≠ "None" := by
  intro same
  have chars : Decimal.integerChars n = ['N', 'o', 'n', 'e'] := String.ofList_injective same
  have first := Decimal.eq_minus_or_digit (n := n) (c := 'N') (by rw [chars]; decide)
  revert first
  decide

/-- The revision with a text is that of a row, or it is missing. -/
theorem revisionText_eq_iff {revision? : Option Int} {text : String} :
    revisionText revision? = text ↔
      (∃ revision, revision? = some revision ∧ Decimal.integerText revision = text) ∨
        revision? = none ∧ text = "None" := by
  cases revision? with
  | none =>
    constructor
    · intro same
      exact .inr ⟨rfl, same.symm⟩
    · rintro (⟨_, missing, -⟩ | ⟨-, same⟩)
      · cases missing
      · exact same.symm
  | some revision =>
    constructor
    · intro same
      exact .inl ⟨revision, rfl, same⟩
    · rintro (⟨_, found, same⟩ | ⟨missing, -⟩)
      · cases found
        exact same
      · cases missing

/-! ## Requests -/

/-- What a client asks of the store of package roots. -/
inductive Request where
  | read (repository : String) (id : Id)
  | write (repository : String) (id : Id) (expected : Option String) (root : Root)

namespace Request

/-- The work on a request. Reading gives the document, if there is one. -/
def work : Request → Work UnitOfWork (Option Root)
  | read repository id => do
    Work.ofExcept (databaseRoots.get repository id (← Work.store))
  | write repository id expected root => do
    let store ← Work.ofExcept (databaseRoots.put repository id expected root (← Work.store))
    Work.setStore store
    return none

/-- A request in a transaction of its own. -/
def transaction (request : Request) : Work Database (Option Root) :=
  inTransaction request.work

/-- What a database answers to a request. -/
def answer (db : Database) : Request → Except Failure (Option Root)
  | read repository id => db.keyFor repository id >>= db.getRoot
  | write repository id expected root =>
    (db.keyFor repository id >>= fun key => db.putRoot key expected root).map fun _ => none

/-- The database after a request. A write that fails changes nothing. -/
def after (db : Database) : Request → Database
  | read _ _ => db
  | write repository id expected root =>
    (db.keyFor repository id >>= fun key => db.putRoot key expected root).toOption.getD db

/-- Within a transaction a request is answered by the database with its changes. -/
theorem work_runs (request : Request) (committed db : Database) :
    Work.Runs request.work ⟨committed, some db⟩ (request.answer db)
      ⟨committed, some (request.after db)⟩ #[] := by
  cases request with
  | read repository id => exact .silent_bind (Work.runs_store _) (Work.runs_ofExcept rfl _)
  | write repository id expected root =>
    refine .silent_bind (Work.runs_store _) ?_
    have put : databaseRoots.put repository id expected root ⟨committed, some db⟩ =
        (db.keyFor repository id >>= fun key => db.putRoot key expected root).map fun changed =>
          ⟨committed, some changed⟩ := by
      change (db.keyFor repository id >>= fun key => db.putRoot key expected root >>= fun changed =>
        Except.ok (UnitOfWork.write changed ⟨committed, some db⟩)) = _
      cases db.keyFor repository id with
      | error failure => rfl
      | ok key => exact bind_pure_comp _ (db.putRoot key expected root)
    rw [answer, after]
    cases changed : db.keyFor repository id >>= fun key => db.putRoot key expected root with
    | error failure =>
      rw [changed] at put
      exact .bind_error (Work.runs_ofExcept put _)
    | ok db_ =>
      rw [changed] at put
      exact .silent_bind (Work.runs_ofExcept put _)
        (.silent_bind (Work.runs_setStore _ _) (Work.runs_pure none _))

theorem transaction_runs (request : Request) (db : Database) :
    Work.Runs request.transaction db (request.answer db) (request.after db) #[] := by
  have run : Work.Runs request.work (.begin db) (request.answer db)
      ⟨db, some (request.after db)⟩ #[] := request.work_runs db db
  have whole := run.within (fun _ => closeTransaction)
  have closed : closeTransaction (request.answer db) ⟨db, some (request.after db)⟩ =
      request.after db := by
    cases request with
    | read repository id =>
      rw [answer]
      cases db.keyFor repository id >>= db.getRoot <;> rfl
    | write repository id expected root =>
      rw [answer, after]
      cases db.keyFor repository id >>= fun key => db.putRoot key expected root <;> rfl
  rwa [closed] at whole

section Runs

variable {repository : String} {id : Id} {packageId : String} {expected : Option String}
  {root : Root} {db : Database}

theorem read_runs (named : id.text = ↑packageId) :
    Work.Runs (read repository id).transaction db (db.getRoot (repository, packageId)) db #[] := by
  have run := transaction_runs (read repository id) db
  rwa [answer, Database.keyFor_of_named named] at run

/-- A write that succeeds is kept. -/
theorem write_runs (named : id.text = ↑packageId) {after : Database}
    (put : db.putRoot (repository, packageId) expected root = .ok after) :
    Work.Runs (write repository id expected root).transaction db (.ok none) after #[] := by
  have run := transaction_runs (write repository id expected root) db
  rw [answer, Request.after, Database.keyFor_of_named named] at run
  change Work.Runs _ _ ((db.putRoot (repository, packageId) expected root).map _)
    ((db.putRoot (repository, packageId) expected root).toOption.getD db) _ at run
  rwa [put] at run

/-- A write that fails changes nothing. -/
theorem write_runs_error (named : id.text = ↑packageId) {failure : Failure}
    (put : db.putRoot (repository, packageId) expected root = .error failure) :
    Work.Runs (write repository id expected root).transaction db (.error failure) db #[] := by
  have run := transaction_runs (write repository id expected root) db
  rw [answer, Request.after, Database.keyFor_of_named named] at run
  change Work.Runs _ _ ((db.putRoot (repository, packageId) expected root).map _)
    ((db.putRoot (repository, packageId) expected root).toOption.getD db) _ at run
  rwa [put] at run

end Runs

end Request

/-! ## Compare and swap -/

/-- Where a database accepts writes, a guarded write is done exactly if the row has the expected
revision, or if there is no row and the text `None` is expected. It then leaves the document with the
next revision. Otherwise it is a conflict, and the database is as before. -/
theorem guarded_write (session : Session Database) (repository : String) (id : Id)
    {packageId : String} (named : id.text = ↑packageId) (expected : String) {root : Root}
    (storable : Members.Storable root)
    (accepts : session.store.Accepts (repository, packageId)) :
    let key : RootKey := (repository, packageId)
    let run := (Request.write repository id (some expected) root).transaction.runIn session
    (run.1 = .ok none ↔
        (∃ row revision, session.store.roots.find? key = some row ∧
          row.revision? = some revision ∧ Decimal.integerText revision = expected) ∨
        session.store.roots.find? key = none ∧ expected = "None") ∧
      (run.1 = .ok none →
        Leaves repository id (some expected) root (.begin session.store)
          ⟨session.store, some run.2.store⟩ key) ∧
      (run.1 ≠ .ok none →
        run.1 = .error (.conflict packageId expected
          ((session.store.revision? key).map Decimal.integerText)) ∧
        run.2.store = session.store) := by
  intro key run
  have put := accepts.putRoot (some expected) root
  have guard : guardAccepts (some expected) (session.store.revision? key) = true ↔
      (∃ row revision, session.store.roots.find? key = some row ∧
        row.revision? = some revision ∧ Decimal.integerText revision = expected) ∨
      session.store.roots.find? key = none ∧ expected = "None" := by
    rw [Storage.guardAccepts_some, revisionText_eq_iff, Database.revision?]
    cases found : session.store.roots.find? key with
    | none => simp
    | some row =>
      -- the row has a number, since there is a next one
      obtain ⟨revision, number, -⟩ := row.isRevisable_iff.mp (accepts.revisable row found)
      simp [number]
  rw [← guard]
  by_cases met : guardAccepts (some expected) (session.store.revision? key) = true
  · rw [if_pos met] at put
    obtain ⟨ended, left, -⟩ := (Request.write_runs named put).seen
    refine ⟨⟨fun _ => met, fun _ => ended⟩, fun _ => ?_, fun failed => absurd ended failed⟩
    have put_ : databaseRoots.put repository id (some expected) root (.begin session.store) =
        .ok ⟨session.store, some run.2.store⟩ :=
      Storage.put_eq_ok.mpr ⟨packageId, named, _, put, by rw [left]; rfl⟩
    obtain ⟨packageId_, leaves⟩ := Storage.leaves_of_put storable put_
    obtain rfl : packageId = packageId_ :=
      WideText.ofString_injective (named.symm.trans leaves.named)
    exact leaves
  · rw [if_neg met] at put
    obtain ⟨ended, left, -⟩ := (Request.write_runs_error named put).seen
    have failed : run.1 ≠ .ok none := fun succeeded => by
      rw [succeeded] at ended
      cases ended
    exact ⟨⟨fun succeeded => absurd succeeded failed, fun met_ => absurd met_ met⟩,
      fun succeeded => absurd succeeded failed, fun _ => ⟨ended, left⟩⟩

/-- A package that has no row. -/
def absentId : Id :=
  { Storage.plainId with name := "b", name_isPart := by decide }

/-- Where there is no row, a write that expects the text `None` makes one. -/
theorem guarded_write_absent :
    let session : Session Database := ⟨Storage.seededDatabase, #[], 0⟩
    let run := (Request.write "r" absentId (some "None") []).transaction.runIn session
    absentId.text = ("b" : String) ∧ Members.Storable [] ∧ session.store.Accepts ("r", "b") ∧
      session.store.roots.find? ("r", "b") = none ∧ run.1 = .ok none ∧
      Leaves "r" absentId (some "None") [] (.begin session.store)
        ⟨session.store, some run.2.store⟩ ("r", "b") := by
  intro session run
  have named : absentId.text = ("b" : String) := rfl
  have accepts : session.store.Accepts ("r", "b") := by decide +kernel
  have absent : session.store.roots.find? ("r", "b") = none := by decide +kernel
  obtain ⟨ends, leaves, -⟩ :=
    guarded_write session "r" absentId named "None" Members.storable_nil accepts
  have ended := ends.mpr (.inr ⟨absent, rfl⟩)
  exact ⟨named, Members.storable_nil, accepts, absent, ended, leaves ended⟩

end RegistryMend.Repair

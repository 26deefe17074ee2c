import RegistryMend.Repair.Batch

/-! # Repair passes

A repository is repaired batch by batch until a batch comes back short or empty. A pass repairs all
hosted repositories of the wanted format in the order of their names, while it holds the run lock.
-/

namespace RegistryMend.Repair

open RegistryMend.Storage (Database)

/-- The counts of a repaired repository. -/
structure Tally where
  batches : Nat := 0
  scanned : Nat := 0
  repaired : Nat := 0
deriving DecidableEq, Repr

/-- Counts a batch. -/
def Tally.add (tally : Tally) (result : BatchResult) : Tally :=
  ⟨tally.batches + 1, tally.scanned + result.scanned, tally.repaired + result.repaired⟩

/-- Runs batches from a cursor on; the fuel bounds their number. -/
def runBatches (plan : Plan) (repository : String) : Nat → Cursor → Tally → Work Database Tally
  | 0, _, tally => return tally
  | fuel + 1, cursor, tally => do
    let result ← processBatch plan repository cursor
    match result.next with
    | none => return tally.add result
    | some next => runBatches plan repository fuel next (tally.add result)

/-- Repairs a repository. Every batch but the last takes at least one asset, which bounds their
number. -/
def repairRepository (plan : Plan) (repository : String) : Work Database Tally := do
  let bound := (← Work.store).assets.rows.length + 1
  let tally ← runBatches plan repository bound Cursor.beginning {}
  Work.report (.repositoryFinished plan.format repository tally.batches tally.scanned
    tally.repaired)
  return tally

/-- The run lock of a repair. -/
inductive Lock where
  | free
  /-- The lock is held by this pass. -/
  | held
  /-- Another pass holds the lock. -/
  | taken
deriving DecidableEq, Repr

/-- What a pass works on: the database, if its file exists, and the run lock. -/
structure Premises where
  database : Option Database := none
  lock : Lock := .free
deriving Repr

namespace Premises

/-- The database; opening it creates it. -/
def opened (premises : Premises) : Database :=
  premises.database.getD .blank

/-- Work on the database. -/
def work {α : Type} (work : Work Database α) : Work Premises α :=
  work.within opened fun premises _ db => { premises with database := some db }

end Premises

/-- The repositories of a database in the order of their names, without those of unknown type.
Without a database there are none. -/
def browse : Option Database → Except Failure (List Repository)
  | none => .ok []
  | some db =>
    match db.repositoryRows with
    | .error fault => .error (.database fault)
    | .ok rows => .ok (rows.filterMap Repository.ofRow?)

/-- Repairs a repository; a failure is reported and left behind if failures are isolated. -/
def repairGuarded (plan : Plan) (repository : String) : Work Premises Unit := do
  let repair := Premises.work (repairRepository plan repository)
  if plan.isolateFailures then
    match ← Work.attempt repair with
    | .ok _ => return ()
    | .error failure => Work.report (.repositoryFailed repository failure)
  else
    let _ ← repair
    return ()

/-- Repairs repositories one after the other. -/
def repairEach (plan : Plan) : List Repository → Work Premises Unit
  | [] => return ()
  | repository :: rest => do
    repairGuarded plan repository.name
    repairEach plan rest

/-- Repairs all repositories of the wanted format. -/
def repairAll (plan : Plan) : Work Premises Unit := do
  Work.report (.passBegun plan.format)
  let repositories ← Work.ofExcept (browse (← Work.store).database)
  let selected := repositories.filter (·.matchesFormat plan.format)
  repairEach plan selected
  Work.report (.passCompleted selected.length)

/-- Takes the lock before work and gives it back after it, however the work ends. -/
def holdingLock {α : Type} (work : Work Premises α) : Work Premises α :=
  work.within (fun premises => { premises with lock := .held })
    fun _ _ premises => { premises with lock := .free }

/-- A repair pass. It is skipped while another one holds the lock. -/
def repair (plan : Plan) : Work Premises Unit := do
  if (← Work.store).lock = .free then holdingLock (repairAll plan)
  else Work.report .passSkipped

end RegistryMend.Repair

import RegistryMend.Proofs.Repair.Visits

/-! # Batches as transactions

A batch reads a page and visits its assets. What they wrote is kept if none of the visits failed;
otherwise the database is what it was, and only the reports remain.
-/

namespace RegistryMend.Repair

open RegistryMend.Storage (Database RootKey UnitOfWork)

/-! ## Transactions -/

section Transaction

variable {α : Type} {work : Work UnitOfWork α} {db after : Database} {events : Array Event}

/-- Work in a transaction leaves its changes if it succeeds, and else only its reports. -/
theorem Work.Runs.inTransaction {result : Except Failure α}
    (run : Work.Runs work (.begin db) result ⟨db, some after⟩ events) :
    Work.Runs (Repair.inTransaction work) db result (closeTransaction result ⟨db, some after⟩)
      events :=
  Work.Runs.within (fun _ => closeTransaction) run

theorem Work.Runs.runBatch {result : Except Failure α} (repository : String)
    (run : Work.Runs work (.begin db) result ⟨db, some after⟩ events) :
    Work.Runs (Repair.runBatch repository work) db
      (result.mapError (transactionFailure repository)) (closeTransaction result ⟨db, some after⟩)
      events :=
  run.inTransaction.adapt (transactionFailure repository)

end Transaction

/-! ## Batches -/

/-- What is reported when a batch begins. -/
def Plan.opening (plan : Plan) (cursor : Cursor) : Event :=
  .batchBegun plan.format cursor.value plan.batchSize

/-- What a batch gives that visited assets. -/
def Plan.batchResult (plan : Plan) (assets : List Asset) (repaired : Nat) : BatchResult :=
  ⟨Cursor.next (assets.map Asset.id) (some plan.batchSize), assets.length, repaired⟩

/-- How a batch ends, the database after it, and what it reports. -/
inductive BatchRun (plan : Plan) (repository : String) (cursor : Cursor) (db : Database) :
    Except Failure BatchResult → Database → Array Event → Prop
  /-- All visits succeed. -/
  | completed {assets : List Asset} {repaired : Nat} {after : Database} {events : Array Event}
      (read : page db repository cursor plan.batchSize = .ok assets)
      (visits : Visits plan repository assets db (.ok repaired) after events) :
      BatchRun plan repository cursor db (.ok (plan.batchResult assets repaired)) after
        (#[plan.opening cursor] ++ events)
  /-- The page cannot be read. -/
  | unread {failure : Failure} (read : page db repository cursor plan.batchSize = .error failure) :
      BatchRun plan repository cursor db (.error (transactionFailure repository failure)) db
        #[plan.opening cursor]
  /-- One of the visits fails. -/
  | stopped {assets : List Asset} {failure : Failure} {last : Database} {events : Array Event}
      (read : page db repository cursor plan.batchSize = .ok assets)
      (visits : Visits plan repository assets db (.error failure) last events) :
      BatchRun plan repository cursor db (.error (transactionFailure repository failure)) db
        (#[plan.opening cursor] ++ events)

section Batch

variable {plan : Plan} {repository : String} {cursor : Cursor} {db after : Database}
  {result : Except Failure BatchResult} {events : Array Event}

/-- The work on a batch does what its transaction does. -/
theorem BatchRun.runs (batch : BatchRun plan repository cursor db result after events) :
    Work.Runs (processBatch plan repository cursor) db result after events := by
  have fetch {result : Except Failure (List Asset)}
      (read : page db repository cursor plan.batchSize = result) :
      Work.Runs (Work.ofExcept (page (UnitOfWork.current ⟨db, some db⟩) repository cursor
        plan.batchSize)) (⟨db, some db⟩ : UnitOfWork) result ⟨db, some db⟩ #[] :=
    Work.runs_ofExcept read _
  cases batch with
  | @completed assets repaired after events read visits =>
    have run : Work.Runs (batchWork plan repository cursor) (.begin db)
        (.ok (plan.batchResult assets repaired)) ⟨db, some after⟩ events :=
      .silent_bind (Work.runs_store _) (.silent_bind (fetch read)
        (.bind_silent (visits.runs db) (Work.runs_pure _ _)))
    exact .bind (Work.runs_report _ db) (run.runBatch repository)
  | @unread failure read =>
    have run : Work.Runs (batchWork plan repository cursor) (.begin db) (.error failure)
        ⟨db, some db⟩ #[] :=
      .silent_bind (Work.runs_store _) (.bind_error (fetch read))
    exact .bind_silent (Work.runs_report _ db) (run.runBatch repository)
  | @stopped assets failure last events read visits =>
    have run : Work.Runs (batchWork plan repository cursor) (.begin db) (.error failure)
        ⟨db, some last⟩ events :=
      .silent_bind (Work.runs_store _) (.silent_bind (fetch read) (.bind_error (visits.runs db)))
    exact .bind (Work.runs_report _ db) (run.runBatch repository)

theorem exists_batchRun (plan : Plan) (repository : String) (cursor : Cursor) (db : Database) :
    ∃ result after events, BatchRun plan repository cursor db result after events := by
  cases read : page db repository cursor plan.batchSize with
  | error failure => exact ⟨_, _, _, .unread read⟩
  | ok assets =>
    obtain ⟨result, after, events, visits⟩ := exists_visits plan repository assets db
    cases result with
    | error failure => exact ⟨_, _, _, .stopped read visits⟩
    | ok repaired => exact ⟨_, _, _, .completed read visits⟩

/-- A batch changes nothing but package roots. -/
theorem BatchRun.frame (batch : BatchRun plan repository cursor db result after events) :
    ∃ roots, after = db.withRoots roots := by
  cases batch with
  | completed _ visits => exact visits.frame
  | _ => exact ⟨db.roots, rfl⟩

/-- A batch that fails changes nothing. -/
theorem BatchRun.eq_of_error {failure : Failure}
    (batch : BatchRun plan repository cursor db (.error failure) after events) : after = db := by
  cases batch <;> rfl

end Batch

end RegistryMend.Repair

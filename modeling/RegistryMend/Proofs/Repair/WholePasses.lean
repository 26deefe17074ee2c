import RegistryMend.Proofs.Repair.Passes

/-! # Whole passes

A pass repairs the selected repositories one after the other, each on the database that the one
before it left. A failure ends the pass, unless failures are isolated. The lock is given back however
the pass ends.
-/

namespace RegistryMend.Repair

open RegistryMend.Storage (Database)

/-! ## Repository after repository -/

/-- How the repair of repositories ends, the database after it, and what it reports. -/
inductive RepositoryRuns (plan : Plan) :
    List String → Database → Except Failure Unit → Database → Array Event → Prop
  | nil {db : Database} : RepositoryRuns plan [] db (.ok ()) db #[]
  /-- A failure ends the pass. -/
  | stop {repository : String} {rest : List String} {db after : Database} {failure : Failure}
      {events : Array Event} (strict : plan.isolateFailures = false)
      (first : BatchRuns plan repository (batchBound db) .beginning {} db (.error failure) after
        events) :
      RepositoryRuns plan (repository :: rest) db (.error failure) after events
  /-- A failure is reported and left behind. -/
  | skip {repository : String} {rest : List String} {db middle after : Database}
      {failure : Failure} {result : Except Failure Unit} {events others : Array Event}
      (isolates : plan.isolateFailures = true)
      (first : BatchRuns plan repository (batchBound db) .beginning {} db (.error failure) middle
        events)
      (later : RepositoryRuns plan rest middle result after others) :
      RepositoryRuns plan (repository :: rest) db result after
        (events ++ #[.repositoryFailed repository failure] ++ others)
  | next {repository : String} {rest : List String} {db middle after : Database} {tally : Tally}
      {result : Except Failure Unit} {events others : Array Event}
      (first : BatchRuns plan repository (batchBound db) .beginning {} db (.ok tally) middle events)
      (later : RepositoryRuns plan rest middle result after others) :
      RepositoryRuns plan (repository :: rest) db result after
        (events ++ plan.closing repository (.ok tally) ++ others)

/-- Work on the database does the same among the premises. -/
theorem Work.Runs.premises {α : Type} {work : Work Database α} {premises : Premises}
    {result : Except Failure α} {after : Database} {events : Array Event}
    (run : Work.Runs work premises.opened result after events) :
    Work.Runs (Premises.work work) premises result { premises with database := some after } events :=
  run.within fun (premises : Premises) _ db => { premises with database := some db }

/-- Repositories are repaired one after the other, while the lock stays as it is. -/
theorem exists_repositoryRuns (plan : Plan) (repositories : List Repository)
    (premises : Premises) : ∃ result after events,
      Work.Runs (repairEach plan repositories) premises result after events ∧
        after.lock = premises.lock ∧ RepositoryRuns plan (repositories.map (·.name))
          premises.opened result after.opened events := by
  induction repositories generalizing premises with
  | nil => exact ⟨_, _, _, Work.runs_pure () premises, rfl, .nil⟩
  | cons repository rest ih =>
    obtain ⟨final, middle, told, batches⟩ := exists_batchRuns plan repository.name
      (batchBound premises.opened) .beginning {} premises.opened
    have run := batches.runs_repair.premises
    obtain ⟨result, after, others, runs, lock, later⟩ :=
      ih { premises with database := some middle }
    cases final with
    | ok tally =>
      have guarded : Work.Runs (repairGuarded plan repository.name) premises (.ok ())
          { premises with database := some middle }
          (told ++ plan.closing repository.name (.ok tally)) := by
        rw [repairGuarded]
        by_cases isolates : plan.isolateFailures = true
        · rw [if_pos isolates]
          exact run.attempt.bind_silent (Work.runs_pure () _)
        · rw [if_neg isolates]
          exact run.bind_silent (Work.runs_pure () _)
      exact ⟨result, after, _, guarded.bind runs, lock, .next batches later⟩
    | error failure =>
      rw [Plan.closing, Array.append_empty] at run
      by_cases isolates : plan.isolateFailures = true
      · have guarded : Work.Runs (repairGuarded plan repository.name) premises (.ok ())
            { premises with database := some middle }
            (told ++ #[.repositoryFailed repository.name failure]) := by
          rw [repairGuarded, if_pos isolates]
          exact run.attempt.bind (Work.runs_report _ _)
        exact ⟨result, after, _, guarded.bind runs, lock, .skip isolates batches later⟩
      · have guarded : Work.Runs (repairGuarded plan repository.name) premises (.error failure)
            { premises with database := some middle } told := by
          rw [repairGuarded, if_neg isolates]
          exact run.bind_error
        exact ⟨_, _, _, guarded.bind_error, rfl, .stop (Bool.eq_false_iff.mpr isolates) batches⟩

/-! ## Passes -/

/-- The names of the repositories that are selected from some. -/
def Plan.select (plan : Plan) (repositories : List Repository) : List String :=
  (repositories.filter (·.matchesFormat plan.format)).map (·.name)

/-- What is reported behind the repositories, if the pass ran to its end. -/
def completion (repositories : Nat) : Except Failure Unit → Array Event
  | .ok _ => #[.passCompleted repositories]
  | .error _ => #[]

/-- How a pass ends, the premises after it, and what it reports. -/
inductive PassRun (plan : Plan) (premises : Premises) :
    Except Failure Unit → Premises → Array Event → Prop
  /-- Another pass holds the lock. -/
  | skipped (taken : premises.lock ≠ .free) :
      PassRun plan premises (.ok ()) premises #[.passSkipped]
  /-- The repositories cannot be read. -/
  | unread {failure : Failure} (free : premises.lock = .free)
      (found : browse premises.database = .error failure) :
      PassRun plan premises (.error failure) { premises with lock := .free }
        #[.passBegun plan.format]
  | repaired {repositories : List Repository} {result : Except Failure Unit} {after : Premises}
      {events : Array Event} (free : premises.lock = .free)
      (found : browse premises.database = .ok repositories)
      (released : after.lock = .free)
      (runs : RepositoryRuns plan (plan.select repositories) premises.opened result after.opened
        events) :
      PassRun plan premises result after (#[.passBegun plan.format] ++
        (events ++ completion (plan.select repositories).length result))

/-- While the lock is held, all selected repositories are repaired if they can be read. -/
theorem exists_passRun (plan : Plan) (premises : Premises) : ∃ result after events,
    Work.Runs (repair plan) premises result after events ∧
      PassRun plan premises result after events := by
  have store := Work.runs_store premises
  by_cases free : premises.lock = .free
  · let locked : Premises := { premises with lock := .held }
    have begun := Work.runs_report (.passBegun plan.format) locked
    have enter {result : Except Failure Unit} {after : Premises} {events : Array Event}
        (run : Work.Runs (repairAll plan) locked result after events) :
        Work.Runs (repair plan) premises result { after with lock := .free } events := by
      refine store.silent_bind ?_
      rw [if_pos free]
      exact run.within fun (_ : Premises) _ (premises : Premises) =>
        { premises with lock := .free }
    cases found : browse premises.database with
    | error failure =>
      have run : Work.Runs (repairAll plan) locked (.error failure) locked
          #[.passBegun plan.format] :=
        begun.bind_silent ((Work.runs_store locked).silent_bind
          (Work.runs_ofExcept found locked).bind_error)
      exact ⟨_, _, _, enter run, .unread free found⟩
    | ok repositories =>
      obtain ⟨result, after, events, runs, -, each⟩ := exists_repositoryRuns plan
        (repositories.filter (·.matchesFormat plan.format)) locked
      have rest : Work.Runs (do
          repairEach plan (repositories.filter (·.matchesFormat plan.format))
          Work.report (.passCompleted
            (repositories.filter (·.matchesFormat plan.format)).length)) locked result after
          (events ++ completion (plan.select repositories).length result) := by
        cases result with
        | ok _ =>
          rw [Plan.select, List.length_map]
          exact runs.bind (Work.runs_report _ after)
        | error failure =>
          rw [completion, Array.append_empty]
          exact runs.bind_error
      have run : Work.Runs (repairAll plan) locked result after _ :=
        begun.bind ((Work.runs_store locked).silent_bind
          ((Work.runs_ofExcept found locked).silent_bind rest))
      exact ⟨_, _, _, enter run, .repaired free found rfl each⟩
  · refine ⟨_, _, _, store.silent_bind ?_, .skipped free⟩
    rw [if_neg free]
    exact Work.runs_report .passSkipped premises

end RegistryMend.Repair

import RegistryMend.Proofs.Repair.Batches
import RegistryMend.Repair.Pass

/-! # Batch by batch through a repository

The batches of a repository run one after the other, each on the database that the one before it
left, until one of them fails or is the last.
-/

namespace RegistryMend.Repair

open RegistryMend.Storage (Database RootKey)

/-- How batches from a cursor on end, the database after them, and what they report. At most so
many batches run as there is fuel. -/
inductive BatchRuns (plan : Plan) (repository : String) :
    Nat → Cursor → Tally → Database → Except Failure Tally → Database → Array Event → Prop
  | spent {cursor : Cursor} {tally : Tally} {db : Database} :
      BatchRuns plan repository 0 cursor tally db (.ok tally) db #[]
  | failed {fuel : Nat} {cursor : Cursor} {tally : Tally} {db after : Database} {failure : Failure}
      {events : Array Event}
      (first : BatchRun plan repository cursor db (.error failure) after events) :
      BatchRuns plan repository (fuel + 1) cursor tally db (.error failure) after events
  | last {fuel : Nat} {cursor : Cursor} {tally : Tally} {db after : Database}
      {result : BatchResult} {events : Array Event}
      (first : BatchRun plan repository cursor db (.ok result) after events)
      (ends : result.next = none) :
      BatchRuns plan repository (fuel + 1) cursor tally db (.ok (tally.add result)) after events
  | next {fuel : Nat} {cursor follow : Cursor} {tally : Tally} {db middle after : Database}
      {result : BatchResult} {final : Except Failure Tally} {events others : Array Event}
      (first : BatchRun plan repository cursor db (.ok result) middle events)
      (goes : result.next = some follow)
      (later : BatchRuns plan repository fuel follow (tally.add result) middle final after others) :
      BatchRuns plan repository (fuel + 1) cursor tally db final after (events ++ others)

section

variable {plan : Plan} {repository : String} {fuel : Nat} {cursor : Cursor} {tally : Tally}
  {db after : Database} {final : Except Failure Tally} {events : Array Event}

/-- The batches do what their transactions do. -/
theorem BatchRuns.runs (batches : BatchRuns plan repository fuel cursor tally db final after events) :
    Work.Runs (runBatches plan repository fuel cursor tally) db final after events := by
  induction batches with
  | spent => exact Work.runs_pure _ _
  | failed first => exact .bind_error first.runs
  | @last _ _ tally _ after result events first ends =>
    refine .bind_silent first.runs ?_
    rw [ends]
    exact Work.runs_pure _ _
  | next first goes later ih =>
    refine .bind first.runs ?_
    rw [goes]
    exact ih

theorem exists_batchRuns (plan : Plan) (repository : String) (fuel : Nat) (cursor : Cursor)
    (tally : Tally) (db : Database) : ∃ final after events,
      BatchRuns plan repository fuel cursor tally db final after events := by
  induction fuel generalizing cursor tally db with
  | zero => exact ⟨_, _, _, .spent⟩
  | succ fuel ih =>
    obtain ⟨result, middle, events, first⟩ := exists_batchRun plan repository cursor db
    cases result with
    | error failure => exact ⟨_, _, _, .failed first⟩
    | ok result =>
      cases goes : result.next with
      | none => exact ⟨_, _, _, .last first goes⟩
      | some follow =>
        obtain ⟨final, after, others, later⟩ := ih follow (tally.add result) middle
        exact ⟨_, _, _, .next first goes later⟩

/-- Batches change nothing but package roots. -/
theorem BatchRuns.frame
    (batches : BatchRuns plan repository fuel cursor tally db final after events) :
    ∃ roots, after = db.withRoots roots := by
  induction batches with
  | @spent _ _ db => exact ⟨db.roots, rfl⟩
  | failed first => exact first.frame
  | last first _ => exact first.frame
  | next first _ later ih =>
    obtain ⟨roots, rfl⟩ := first.frame
    obtain ⟨roots_, same⟩ := ih
    exact ⟨roots_, same⟩

end

/-! ## Whole repositories -/

/-- How many batches a repository may take. -/
def batchBound (db : Database) : Nat :=
  db.assets.rows.length + 1

/-- What is reported behind the batches of a repository, if they ran to an end. -/
def Plan.closing (plan : Plan) (repository : String) : Except Failure Tally → Array Event
  | .ok tally => #[.repositoryFinished plan.format repository tally.batches tally.scanned
      tally.repaired]
  | .error _ => #[]

/-- A repository is repaired if its batches run to an end. -/
theorem BatchRuns.runs_repair {plan : Plan} {repository : String} {db after : Database}
    {final : Except Failure Tally} {events : Array Event}
    (batches : BatchRuns plan repository (batchBound db) .beginning {} db final after events) :
    Work.Runs (repairRepository plan repository) db final after
      (events ++ plan.closing repository final) := by
  cases final with
  | ok tally =>
    exact .silent_bind (Work.runs_store db) (.bind batches.runs
      (.bind_silent (Work.runs_report _ after) (Work.runs_pure tally after)))
  | error failure =>
    rw [Plan.closing, Array.append_empty]
    exact .silent_bind (Work.runs_store db) (.bind_error batches.runs)

/-- After the batches a repository may take as many as before. -/
theorem BatchRuns.batchBound_eq {plan : Plan} {repository : String} {fuel : Nat} {cursor : Cursor}
    {tally : Tally} {db after : Database} {final : Except Failure Tally} {events : Array Event}
    (batches : BatchRuns plan repository fuel cursor tally db final after events) :
    batchBound after = batchBound db := by
  obtain ⟨roots, rfl⟩ := batches.frame
  rfl

end RegistryMend.Repair

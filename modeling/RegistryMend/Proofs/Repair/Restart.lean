import RegistryMend.Proofs.Repair.Completeness

/-! # Repairs that are cut off or repeated

Assets that were visited are quiet, and stay so while assets are visited that do not contradict
them. Batches that ran once therefore write nothing when they run again, and a repair that goes on
from where another one was cut off ends as if it had never been.
-/

namespace RegistryMend.Repair

open RegistryMend.Storage (AssetRow Database)

/-- No two assets of a repository contradict each other. -/
def Plan.Coherent (plan : Plan) (db : Database) (repository : String) : Prop :=
  ∀ first second, Holds db repository first → Holds db repository second →
    plan.Consistent db repository first second

/-- How far batches came, whatever they repaired. -/
def Tally.reach (tally : Tally) : Nat × Nat :=
  (tally.batches, tally.scanned)

theorem reach_add {tally tally_ : Tally} (same : tally_.reach = tally.reach) (plan : Plan)
    (assets : List Asset) (repaired repaired_ : Nat) :
    (tally_.add (plan.batchResult assets repaired_)).reach =
      (tally.add (plan.batchResult assets repaired)).reach := by
  obtain ⟨batches, scanned⟩ := Prod.mk.inj same
  exact Prod.ext (congrArg (· + 1) batches) (congrArg (· + assets.length) scanned)

section

variable {plan : Plan} {repository : String} {fuel : Nat} {cursor : Cursor}
  {tally tally_ : Tally} {db after : Database} {events : Array Event}

/-! ## Batches -/

/-- A batch runs in one way only. -/
theorem BatchRun.unique {result result_ : Except Failure BatchResult} {last : Database}
    {others : Array Event} (first : BatchRun plan repository cursor db result after events)
    (second : BatchRun plan repository cursor db result_ last others) :
    result = result_ ∧ after = last ∧ events = others :=
  first.runs.unique second.runs

/-- A quiet asset stays quiet during a batch. -/
theorem BatchRun.keeps_quiet (faithful : ManifestReader.Faithful plan.reader)
    (coherent : plan.Coherent db repository) {result : Except Failure BatchResult}
    (batch : BatchRun plan repository cursor db result after events) {asset : Asset}
    (held : Holds db repository asset) (quiet : plan.Quiet repository db asset) :
    plan.Quiet repository after asset := by
  cases batch with
  | completed read visits =>
    apply quiet.stays_over faithful visits
    intro other member
    exact coherent other asset (holds_of_mem_page read member) held
  | unread => exact quiet
  | stopped => exact quiet

/-- A batch of quiet assets writes nothing. -/
theorem exists_quietRun {assets : List Asset}
    (read : page db repository cursor plan.batchSize = .ok assets)
    (quiet : ∀ asset ∈ assets, plan.Quiet repository db asset) :
    ∃ told, BatchRun plan repository cursor db (.ok (plan.batchResult assets 0)) db told := by
  obtain ⟨result, last, told, visits⟩ := exists_visits plan repository assets db
  obtain ⟨rfl, rfl⟩ := visits.unchanged quiet
  exact ⟨_, .completed read visits⟩

/-! ## Batch by batch -/

/-- A quiet asset stays quiet during batches. -/
theorem BatchRuns.keeps_quiet (faithful : ManifestReader.Faithful plan.reader)
    (coherent : plan.Coherent db repository) {final : Except Failure Tally}
    (batches : BatchRuns plan repository fuel cursor tally db final after events) {asset : Asset}
    (held : Holds db repository asset) (quiet : plan.Quiet repository db asset) :
    plan.Quiet repository after asset := by
  induction batches with
  | spent => exact quiet
  | failed first => exact first.keeps_quiet faithful coherent held quiet
  | last first ends => exact first.keeps_quiet faithful coherent held quiet
  | next first goes later ih =>
    have quiet_ := first.keeps_quiet faithful coherent held quiet
    obtain ⟨roots, rfl⟩ := first.frame
    exact ih coherent held quiet_

/-- A batch writes nothing when it runs again after the batches behind it. -/
theorem BatchRuns.first_again (faithful : ManifestReader.Faithful plan.reader)
    (coherent : plan.Coherent db repository) {final : Except Failure Tally} {middle : Database}
    {assets : List Asset} {repaired : Nat} {told : Array Event}
    (read : page db repository cursor plan.batchSize = .ok assets)
    (visits : Visits plan repository assets db (.ok repaired) middle told) {follow : Cursor}
    (later : BatchRuns plan repository fuel follow tally middle final after events) :
    ∃ told_, BatchRun plan repository cursor after (.ok (plan.batchResult assets 0)) after
      told_ := by
  have held (asset : Asset) (member : asset ∈ assets) : Holds db repository asset :=
    holds_of_mem_page read member
  have quiet := visits.quiet_after faithful fun first member second member_ =>
    coherent first second (held first member) (held second member_)
  obtain ⟨roots, rfl⟩ := visits.frame
  have coherent_ : plan.Coherent (db.withRoots roots) repository := coherent
  have quiet_ (asset : Asset) (member : asset ∈ assets) : plan.Quiet repository after asset :=
    later.keeps_quiet faithful coherent_ (held asset member) (quiet asset member)
  obtain ⟨roots_, rfl⟩ := later.frame
  have read_ : page (db.withRoots roots_) repository cursor plan.batchSize = .ok assets := read
  exact exists_quietRun read_ quiet_

/-- Batches that run again where they ended write nothing, and end in the same way. -/
theorem BatchRuns.again (faithful : ManifestReader.Faithful plan.reader)
    (coherent : plan.Coherent db repository) {final : Except Failure Tally}
    (batches : BatchRuns plan repository fuel cursor tally db final after events)
    (same : tally_.reach = tally.reach) :
    ∃ final_ told, BatchRuns plan repository fuel cursor tally_ after final_ after told ∧
      final_.map Tally.reach = final.map Tally.reach ∧
      ∀ end_, final_ = .ok end_ → end_.repaired = tally_.repaired := by
  -- Each batch runs again on what the last one left, where its assets are still quiet.
  induction batches generalizing tally_ with
  | spent =>
    refine ⟨_, _, .spent, congrArg Except.ok same, ?_⟩
    rintro _ ⟨⟩
    rfl
  | failed first =>
    obtain rfl := first.eq_of_error
    exact ⟨_, _, .failed first, rfl, fun end_ given => by cases given⟩
  | @last fuel cursor tally db after result events first ends =>
    cases first with
    | @completed assets repaired _ told read visits =>
      have none_ : BatchRuns plan repository 0 cursor tally after (.ok tally) after #[] := .spent
      obtain ⟨told_, silent⟩ := none_.first_again faithful coherent read visits
      refine ⟨_, _, .last silent ends, congrArg Except.ok (reach_add same ..), ?_⟩
      rintro _ ⟨⟩
      rfl
  | @next fuel cursor follow tally db middle after result final events others first goes later ih =>
    cases first with
    | @completed assets repaired _ told read visits =>
      obtain ⟨told_, silent⟩ := later.first_again faithful coherent read visits
      obtain ⟨roots, rfl⟩ := visits.frame
      obtain ⟨final_, others_, again, reach, counted⟩ :=
        ih coherent (reach_add same plan assets repaired 0)
      refine ⟨_, _, .next silent goes again, reach, fun end_ given => ?_⟩
      rw [counted end_ given]
      rfl

/-! ## Going on -/

/-- Batches end alike whatever was counted before. -/
theorem BatchRuns.recount {final : Except Failure Tally}
    (batches : BatchRuns plan repository fuel cursor tally db final after events)
    (same : tally_.reach = tally.reach) :
    ∃ final_, BatchRuns plan repository fuel cursor tally_ db final_ after events ∧
      final_.map Tally.reach = final.map Tally.reach := by
  induction batches generalizing tally_ with
  | spent => exact ⟨_, .spent, congrArg Except.ok same⟩
  | failed first => exact ⟨_, .failed first, rfl⟩
  | last first ends =>
    cases first with
    | completed read visits =>
      exact ⟨_, .last (.completed read visits) ends, congrArg Except.ok (reach_add same ..)⟩
  | next first goes later ih =>
    cases first with
    | completed read visits =>
      obtain ⟨final_, again, reach⟩ := ih (reach_add same ..)
      exact ⟨final_, .next (.completed read visits) goes again, reach⟩

/-- Batches whose first one is the last end with it. -/
theorem BatchRuns.eq_of_last {final : Except Failure Tally} {result : BatchResult}
    {middle : Database} {told : Array Event}
    (batches : BatchRuns plan repository (fuel + 1) cursor tally db final after events)
    (first : BatchRun plan repository cursor db (.ok result) middle told)
    (ends : result.next = none) : final = .ok (tally.add result) ∧ after = middle := by
  cases batches with
  | failed first_ =>
    obtain ⟨same, -⟩ := first.unique first_
    cases same
  | last first_ ends_ =>
    obtain ⟨same, rfl, -⟩ := first.unique first_
    cases same
    exact ⟨rfl, rfl⟩
  | next first_ goes later =>
    obtain ⟨same, -⟩ := first.unique first_
    cases same
    rw [ends] at goes
    cases goes

/-- Behind a first batch that is not the last one run the others. -/
theorem BatchRuns.behind {final : Except Failure Tally} {result : BatchResult}
    {middle : Database} {told : Array Event} {follow : Cursor}
    (batches : BatchRuns plan repository (fuel + 1) cursor tally db final after events)
    (first : BatchRun plan repository cursor db (.ok result) middle told)
    (goes : result.next = some follow) :
    ∃ others, BatchRuns plan repository fuel follow (tally.add result) middle final after others := by
  cases batches with
  | failed first_ =>
    obtain ⟨same, -⟩ := first.unique first_
    cases same
  | last first_ ends =>
    obtain ⟨same, -⟩ := first.unique first_
    cases same
    rw [goes] at ends
    cases ends
  | next first_ goes_ later =>
    obtain ⟨same, rfl, -⟩ := first.unique first_
    cases same
    rw [goes] at goes_
    cases goes_
    exact ⟨_, later⟩

/-- Batches from where some of them ended lead to where all of them lead from the start. -/
theorem BatchRuns.resume (faithful : ManifestReader.Faithful plan.reader)
    (coherent : plan.Coherent db repository) {cut : Except Failure Tally} {middle : Database}
    {start : Tally} {told : Array Event} {bound : Nat}
    (part : BatchRuns plan repository fuel cursor start db cut middle told)
    (enough : (rowsBehind db repository cursor).length < bound)
    {final : Except Failure Tally}
    (all : BatchRuns plan repository bound cursor tally db final after events)
    (same : tally_.reach = tally.reach) :
    ∃ final_ others, BatchRuns plan repository bound cursor tally_ middle final_ after others ∧
      final_.map Tally.reach = final.map Tally.reach := by
  -- The part may have another bound than the whole; only the rows that are left keep them in step.
  induction part generalizing bound tally tally_ events with
  | spent =>
    obtain ⟨final_, again, reach⟩ := all.recount same
    exact ⟨final_, _, again, reach⟩
  | failed first =>
    obtain rfl := first.eq_of_error
    obtain ⟨final_, again, reach⟩ := all.recount same
    exact ⟨final_, _, again, reach⟩
  | @last fuel cursor start db middle result _ first ends =>
    obtain ⟨bound, rfl⟩ := Nat.exists_eq_succ_of_ne_zero (Nat.ne_zero_of_lt enough)
    obtain ⟨rfl, rfl⟩ := all.eq_of_last first ends
    cases first with
    | @completed assets repaired _ told read visits =>
      have none_ : BatchRuns plan repository 0 cursor tally after (.ok tally) after #[] := .spent
      obtain ⟨told_, silent⟩ := none_.first_again faithful coherent read visits
      exact ⟨_, _, .last silent ends, congrArg Except.ok (reach_add same ..)⟩
  | @next fuel cursor follow start db next_ middle result _ _ _ first goes later ih =>
    obtain ⟨bound, rfl⟩ := Nat.exists_eq_succ_of_ne_zero (Nat.ne_zero_of_lt enough)
    obtain ⟨others, rest⟩ := all.behind first goes
    cases first with
    | @completed assets repaired _ told read visits =>
      obtain ⟨told_, silent⟩ := later.first_again faithful coherent read visits
      have fewer := length_rowsBehind_next read goes
      obtain ⟨roots, rfl⟩ := visits.frame
      obtain ⟨final_, others_, again, reach⟩ := ih coherent
        (Nat.lt_of_lt_of_le fewer (Nat.le_of_lt_succ enough)) rest
        (reach_add same plan assets repaired 0)
      exact ⟨final_, _, .next silent goes again, reach⟩

end

/-! ## Whole repositories -/

/-- A repair that goes on where some batches ended leads to what a repair without a cut leads to,
and writes nothing in these batches. A repair that is repeated writes nothing and ends as before,
also if it fails. -/
theorem repairRepository_resumes {plan : Plan} (tarballs : plan.reader = tarballReader)
    {repository : String} {session : Session Database}
    (coherent : plan.Coherent session.store repository) :
    let run := (repairRepository plan repository).runIn
    let batches (count : Nat) := (runBatches plan repository count .beginning {}).runIn
    (∀ count told openings,
      let again : Session Database := ⟨(batches count session).2.store, told, openings⟩
      ((run again).2.store = (run session).2.store ∧
        (run again).1.map Tally.reach = (run session).1.map Tally.reach) ∧
      (batches count again).2.store = again.store ∧
        (batches count again).1.map Tally.reach = (batches count session).1.map Tally.reach ∧
        ∀ tally, (batches count again).1 = .ok tally → tally.repaired = 0) ∧
    ∀ told openings,
      let again : Session Database := ⟨(run session).2.store, told, openings⟩
      (run again).2.store = again.store ∧
        (run again).1.map Tally.reach = (run session).1.map Tally.reach ∧
        ∀ tally, (run again).1 = .ok tally → tally.repaired = 0 := by
  intro run batches
  have faithful : ManifestReader.Faithful plan.reader := tarballs ▸ tarballReader_faithful
  obtain ⟨final, after, events, all⟩ :=
    exists_batchRuns plan repository (batchBound session.store) .beginning {} session.store
  obtain ⟨result, store, -⟩ := all.runs_repair.seen
  constructor
  · intro count told openings again
    obtain ⟨cut, middle, events_, part⟩ :=
      exists_batchRuns plan repository count .beginning {} session.store
    obtain ⟨result_, store_, -⟩ := part.runs.seen
    obtain rfl : middle = again.store := store_.symm
    obtain ⟨final_, others, rest, reach⟩ :=
      part.resume faithful coherent (length_rowsBehind_lt ..) all rfl
    obtain ⟨cut_, told_, silent, reach_, counted⟩ := part.again faithful coherent rfl
    rw [← part.batchBound_eq] at rest
    obtain ⟨ended, stored, -⟩ : (run again).1 = final_ ∧ (run again).2.store = after ∧ _ :=
      rest.runs_repair.seen
    obtain ⟨ended_, stored_, -⟩ : (batches count again).1 = cut_ ∧
        (batches count again).2.store = again.store ∧ _ := silent.runs.seen
    refine ⟨⟨stored.trans store.symm, ?_⟩, stored_, ?_, fun tally given => ?_⟩
    · rw [ended, result, reach]
    · rw [ended_, result_, reach_]
    · exact counted tally (ended_.symm.trans given)
  · intro told openings again
    obtain rfl : after = again.store := store.symm
    obtain ⟨final_, told, silent, reach, counted⟩ := all.again faithful coherent rfl
    rw [← all.batchBound_eq] at silent
    obtain ⟨ended, stored, -⟩ : (run again).1 = final_ ∧
        (run again).2.store = again.store ∧ _ := silent.runs_repair.seen
    refine ⟨stored, ?_, fun tally given => ?_⟩
    · rw [ended, result, reach]
    · exact counted tally (ended.symm.trans given)

/-- A repair with batches of one asset is cut off behind the first of them. -/
theorem repairRepository_resumes_stale :
    let plan := stalePlan.sized 1
    let run := (repairRepository plan "r").runIn
    let cut : Session Database :=
      ⟨((runBatches plan "r" 1 .beginning {}).runIn staleSession).2.store, #[], 0⟩
    plan.Coherent staleDatabase "r" ∧ (run staleSession).1 = .ok ⟨3, 2, 1⟩ ∧
      (run cut).2.store = (run staleSession).2.store ∧
      (run cut).1.map Tally.reach = (run staleSession).1.map Tally.reach := by
  have completed : ((repairRepository (stalePlan.sized 1) "r").runIn staleSession).1 =
      .ok ⟨3, 2, 1⟩ := by decide +kernel
  have announced : ∀ row ∈ staleDatabase.assets.rows, row.repository = "r" →
      ∀ told ∈ (stalePlan.sized 1).announced? staleDatabase "r" row, told.2.2 = "new" := by
    decide +kernel
  have recorded {packageId version : WideText} {sha1 : String} {asset : Asset}
      (announces : (stalePlan.sized 1).Announces staleDatabase "r" packageId version sha1 asset) :
      sha1 = "new" := by
    obtain ⟨row, member, same, -, told⟩ := announces_iff.mp announces
    exact announced row member same _ told
  have coherent : (stalePlan.sized 1).Coherent staleSession.store "r" := by
    intro first second held held_ one other announced₁ announced₂ _ _
    rw [recorded ⟨held, one, announced₁, rfl, rfl, rfl⟩,
      recorded ⟨held_, other, announced₂, rfl, rfl, rfl⟩]
  obtain ⟨resumes, -⟩ := repairRepository_resumes rfl coherent
  beta_reduce at resumes
  obtain ⟨⟨store, reach⟩, -⟩ := resumes 1 #[] 0
  exact ⟨coherent, completed, store, reach⟩

end RegistryMend.Repair

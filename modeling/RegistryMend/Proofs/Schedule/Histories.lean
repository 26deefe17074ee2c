import RegistryMend.Proofs.Schedule.Libraries
import RegistryMend.Proofs.Sequencing

/-! # Histories of a scheduler

A scheduler is asked to schedule jobs, to start and to shut down, in any order, and it refuses what
does not fit. Its history is what it was asked and how each request ended. The history alone tells
whether the scheduler is running and which jobs it has: one for every id that was scheduled since
the last shutdown, due as it was asked for last. Requests that were refused play no part. Of the library
it is relied on that a job replaces others with its id and that no job is left at shutdown.
-/

namespace RegistryMend.Schedule

/-! ## Requests -/

/-- What is asked of a scheduler. -/
inductive Request where
  | schedule (id expression : String)
  | start
  | shutdown
deriving DecidableEq, Repr

namespace Request

/-- What a scheduler makes of a request. -/
def result (library : Library) : Request → Scheduler → Except SchedulerProblem Scheduler
  | schedule id expression => Scheduler.schedule library id expression
  | start => Scheduler.start
  | shutdown => Scheduler.shutdown library

/-- A request carried out in place, effect by effect. What is changed before a problem comes up
stays changed. -/
def inPlace (library : Library) : Request → ExceptT SchedulerProblem (StateM Scheduler) Unit
  | schedule id expression => do
    -- The expression is read before the jobs are touched.
    let due ← ofExcept ((library.trigger expression).mapError .cron)
    let job : Job := { due, graceSeconds := (← get).graceSeconds }
    let jobs ← ofExcept (library.addJob true id job (← get).jobs)
    modify fun scheduler => { scheduler with jobs }
  | start => do
    if (← get).running then throw .alreadyRunning
    modify fun scheduler => { scheduler with running := true }
  | shutdown => do
    if !(← get).running then throw .notRunning
    modify fun scheduler => { scheduler with running := false }
    modify fun scheduler => { scheduler with jobs := library.atShutdown scheduler.jobs }

/-- The requests that a scheduler does not refuse, by whether it is running. -/
def Fits (library : Library) (running : Bool) : Request → Prop
  | schedule _ expression => ∃ due, library.trigger expression = .ok due
  | start => running = false
  | shutdown => running = true

end Request

variable {library : Library}

/-- Where the expression is read, the job is added. -/
theorem schedule_of_trigger {id expression : String} {scheduler : Scheduler} {due : Cron}
    (read : library.trigger expression = .ok due) :
    Scheduler.schedule library id expression scheduler =
      (library.addJob true id { due, graceSeconds := scheduler.graceSeconds } scheduler.jobs).map
        fun jobs => { scheduler with jobs } := by
  rw [Scheduler.schedule, read]

/-- A request succeeds exactly if it fits. -/
theorem exists_result_iff (replaces : library.Replaces) {request : Request} {scheduler : Scheduler} :
    (∃ after, request.result library scheduler = .ok after) ↔
      request.Fits library scheduler.running := by
  cases request with
  | schedule id expression =>
    rw [Request.Fits, Request.result]
    cases read : library.trigger expression with
    | error problem => simp [Scheduler.schedule, read]
    | ok due =>
      obtain ⟨jobs, added, -⟩ := replaces id { due, graceSeconds := scheduler.graceSeconds } scheduler.jobs
      rw [schedule_of_trigger read, added]
      exact iff_of_true ⟨_, rfl⟩ ⟨due, rfl⟩
  | start =>
    rw [Request.Fits, Request.result, Scheduler.start]
    cases scheduler.running <;> simp
  | shutdown =>
    rw [Request.Fits, Request.result, Scheduler.shutdown]
    cases scheduler.running <;> simp

/-- In place a request that fails has changed nothing. -/
theorem inPlace_eq (request : Request) (scheduler : Scheduler) :
    (request.inPlace library).run scheduler =
      match request.result library scheduler with
      | .ok after => (.ok (), after)
      | .error problem => (.error problem, scheduler) := by
  obtain ⟨grace, running, jobs⟩ := scheduler
  cases request with
  | schedule id expression =>
    rw [Request.inPlace, Request.result, Scheduler.schedule]
    cases library.trigger expression with
    | error problem => rfl
    | ok due =>
      -- What is left is to add the job.
      change ((ofExcept (library.addJob true id { due, graceSeconds := grace } jobs) >>= fun jobs =>
        modify fun scheduler => { scheduler with jobs } :
          ExceptT SchedulerProblem (StateM Scheduler) Unit)).run ⟨grace, running, jobs⟩ = _
      dsimp only
      cases library.addJob true id { due, graceSeconds := grace } jobs <;> rfl
  | start => cases running <;> rfl
  | shutdown => cases running <;> rfl

/-! ## Answers -/

/-- A request and why it was refused, if it was. -/
structure Answered where
  request : Request
  problem : Option SchedulerProblem
deriving DecidableEq, Repr

/-- A request that was carried out. -/
abbrev Request.done (request : Request) : Answered := ⟨request, none⟩

namespace Scheduler

/-- Answers a request. A scheduler that refuses it goes on as it is. -/
def answer (library : Library) (request : Request) (scheduler : Scheduler) : Answered × Scheduler :=
  match request.result library scheduler with
  | .ok after => (request.done, after)
  | .error problem => (⟨request, some problem⟩, scheduler)

/-- Answers requests one after the other. -/
def serve (library : Library) : List Request → Scheduler → List Answered × Scheduler
  | [], scheduler => ([], scheduler)
  | request :: rest, scheduler =>
    let (answered, after) := scheduler.answer library request
    let (others, last) := serve library rest after
    (answered :: others, last)

end Scheduler

/-- A step of a scheduler, by how it answers. -/
inductive Step (library : Library) : Scheduler → Answered → Scheduler → Prop where
  | schedule {scheduler : Scheduler} {id expression : String} {due : Cron} {jobs : Jobs}
      (read : library.trigger expression = .ok due)
      (only : jobs.filter (·.1 = id) = [(id, { due, graceSeconds := scheduler.graceSeconds })])
      (others : ∀ other, other ≠ id →
        jobs.filter (·.1 = other) = scheduler.jobs.filter (·.1 = other)) :
      Step library scheduler (Request.schedule id expression).done { scheduler with jobs }
  | start {scheduler : Scheduler} :
      Step library scheduler Request.start.done { scheduler with running := true }
  | shutdown {scheduler : Scheduler} :
      Step library scheduler Request.shutdown.done { scheduler with running := false, jobs := [] }
  | refused {scheduler : Scheduler} {request : Request} {problem : SchedulerProblem} :
      Step library scheduler ⟨request, some problem⟩ scheduler

/-- A scheduler answers every request with a step. -/
theorem step_answer (replaces : library.Replaces) (drops : library.Drops) (request : Request)
    (scheduler : Scheduler) :
    Step library scheduler (scheduler.answer library request).1
      (scheduler.answer library request).2 := by
  cases request with
  | schedule id expression =>
    rw [Scheduler.answer, Request.result]
    cases read : library.trigger expression with
    | error problem =>
      rw [Scheduler.schedule, read]
      exact .refused
    | ok due =>
      obtain ⟨jobs, added, only, others⟩ :=
        replaces id { due, graceSeconds := scheduler.graceSeconds } scheduler.jobs
      rw [schedule_of_trigger read, added]
      exact .schedule read only others
  | start =>
    rw [Scheduler.answer, Request.result, Scheduler.start]
    cases scheduler.running with
    | true => exact .refused
    | false => exact .start
  | shutdown =>
    rw [Scheduler.answer, Request.result, Scheduler.shutdown, drops]
    cases scheduler.running with
    | true => exact .shutdown
    | false => exact .refused

/-! ## What a history tells -/

/-- An entry stands in a history, and behind it none that ends what it began. -/
def Since (ends : Answered → Prop) (entry : Answered) (history : List Answered) : Prop :=
  ∃ before later, history = before ++ entry :: later ∧ ∀ other ∈ later, ¬ends other

/-- What holds since an entry began with the last one, or began before and was not ended by it. -/
theorem since_concat {ends : Answered → Prop} {entry last : Answered} {history : List Answered} :
    Since ends entry (history ++ [last]) ↔ entry = last ∨ Since ends entry history ∧ ¬ends last := by
  constructor
  · rintro ⟨before, later, split, quiet⟩
    -- Either nothing stands behind the entry, or the last one is among what stands behind it.
    rcases List.eq_nil_or_concat later with rfl | ⟨earlier, final, rfl⟩
    · obtain ⟨-, same⟩ := List.append_inj' split rfl
      exact .inl (List.singleton_inj.mp same).symm
    · rw [List.concat_eq_append, ← List.cons_append, ← List.append_assoc] at split
      obtain ⟨rfl, same⟩ := List.append_inj' split rfl
      rw [← List.singleton_inj.mp same] at quiet
      exact .inr ⟨⟨before, earlier, rfl, fun other member => quiet other (by simp [member])⟩,
        quiet last (by simp)⟩
  · rintro (rfl | ⟨⟨before, later, rfl, quiet⟩, open_⟩)
    · exact ⟨history, [], rfl, nofun⟩
    · refine ⟨before, later ++ [last], by simp, fun other member => ?_⟩
      rcases List.mem_append.mp member with member | member
      · exact quiet other member
      · rwa [List.mem_singleton.mp member]

/-- The scheduler was started and not shut down since. -/
def UnderWay : List Answered → Prop :=
  Since (· = Request.shutdown.done) Request.start.done

/-- The expression is the last one that an id was scheduled with, and the scheduler was not shut
down since. -/
def InForce (id expression : String) : List Answered → Prop :=
  Since (fun answered => answered = Request.shutdown.done ∨
    ∃ other, answered = (Request.schedule id other).done) (Request.schedule id expression).done

section

variable {history : List Answered} {request : Request} {problem : SchedulerProblem}
  {id id_ expression expression_ : String}

@[simp] theorem underWay_schedule :
    UnderWay (history ++ [(Request.schedule id expression).done]) ↔ UnderWay history := by
  simp [UnderWay, since_concat]

@[simp] theorem underWay_start : UnderWay (history ++ [Request.start.done]) := by
  simp [UnderWay, since_concat]

@[simp] theorem not_underWay_shutdown : ¬UnderWay (history ++ [Request.shutdown.done]) := by
  simp [UnderWay, since_concat]

@[simp] theorem underWay_refused :
    UnderWay (history ++ [⟨request, some problem⟩]) ↔ UnderWay history := by
  simp [UnderWay, since_concat]

theorem inForce_schedule :
    InForce id_ expression_ (history ++ [(Request.schedule id expression).done]) ↔
      (id_ = id ∧ expression_ = expression) ∨ (id_ ≠ id ∧ InForce id_ expression_ history) := by
  simp [InForce, since_concat, and_comm, eq_comm]

@[simp] theorem inForce_start :
    InForce id expression (history ++ [Request.start.done]) ↔ InForce id expression history := by
  simp [InForce, since_concat]

@[simp] theorem not_inForce_shutdown :
    ¬InForce id expression (history ++ [Request.shutdown.done]) := by
  simp [InForce, since_concat]

@[simp] theorem inForce_refused :
    InForce id expression (history ++ [⟨request, some problem⟩]) ↔
      InForce id expression history := by
  simp [InForce, since_concat]

end

/-! ## Jobs -/

/-- The jobs are those that are in force in a history, one for each id. -/
structure JobsInForce (library : Library) (grace : Int) (history : List Answered) (jobs : Jobs) :
    Prop where
  scheduled : ∀ id expression, InForce id expression history →
    ∃ due, library.trigger expression = .ok due ∧
      jobs.filter (·.1 = id) =
        [(id, { due, maxInstances := 1, coalesce := true, graceSeconds := max 1 grace })]
  others : ∀ id job, (id, job) ∈ jobs → ∃ expression, InForce id expression history

/-- A scheduler is as its history tells. -/
structure Told (library : Library) (grace : Int) (history : List Answered) (scheduler : Scheduler) :
    Prop where
  graceSeconds : scheduler.graceSeconds = max 1 grace
  running : scheduler.running = true ↔ UnderWay history
  jobs : JobsInForce library grace history scheduler.jobs

theorem told_ofGrace (library : Library) (grace : Int) :
    Told library grace [] (Scheduler.ofGrace grace) where
  graceSeconds := rfl
  running := by simp [Scheduler.ofGrace, UnderWay, Since]
  jobs := by
    refine ⟨fun id expression => ?_, fun id job member => ?_⟩
    · rintro ⟨before, later, split, -⟩
      simp at split
    · simp [Scheduler.ofGrace] at member

section

variable {grace : Int} {history : List Answered} {scheduler after : Scheduler} {answered : Answered}

/-- Every step goes into the history. -/
theorem Told.step (told : Told library grace history scheduler)
    (step : Step library scheduler answered after) :
    Told library grace (history ++ [answered]) after := by
  obtain ⟨graceSeconds, running, scheduled, known⟩ := told
  cases step with
  | @schedule id expression due jobs read only others =>
    refine ⟨graceSeconds, running.trans underWay_schedule.symm, ?_, ?_⟩
    · intro id_ expression_ inForce
      -- The new job is found under its id, and the others are found as before.
      rcases inForce_schedule.mp inForce with ⟨rfl, rfl⟩ | ⟨differ, before⟩
      · exact ⟨due, read, by rw [only, graceSeconds]⟩
      · rw [others id_ differ]
        exact scheduled id_ expression_ before
    · intro id_ job member
      by_cases same : id_ = id
      · exact ⟨expression, inForce_schedule.mpr (.inl ⟨same, rfl⟩)⟩
      · have kept : (id_, job) ∈ jobs.filter (·.1 = id_) := by simpa using member
        rw [others id_ same] at kept
        obtain ⟨expression_, inForce⟩ := known id_ job (List.mem_of_mem_filter kept)
        exact ⟨expression_, inForce_schedule.mpr (.inr ⟨same, inForce⟩)⟩
  | start =>
    refine ⟨graceSeconds, iff_of_true rfl underWay_start, ?_, ?_⟩
    · simpa only [inForce_start] using scheduled
    · simpa only [inForce_start] using known
  | shutdown =>
    refine ⟨graceSeconds, iff_of_false nofun not_underWay_shutdown, ?_, ?_⟩
    · intro id expression inForce
      exact absurd inForce not_inForce_shutdown
    · intro id job member
      cases member
  | refused =>
    refine ⟨graceSeconds, running.trans underWay_refused.symm, ?_, ?_⟩
    · simpa only [inForce_refused] using scheduled
    · simpa only [inForce_refused] using known

/-- Whatever a scheduler is asked, it stays as its history tells. -/
theorem Told.serve (replaces : library.Replaces) (drops : library.Drops)
    (told : Told library grace history scheduler) (requests : List Request) :
    Told library grace (history ++ (scheduler.serve library requests).1)
      (scheduler.serve library requests).2 := by
  induction requests generalizing history scheduler with
  | nil =>
    rw [Scheduler.serve, List.append_nil]
    exact told
  | cons request rest ih =>
    rw [Scheduler.serve, List.append_cons]
    exact ih (told.step (step_answer replaces drops request scheduler))

end

/-- Whatever a new scheduler is asked, it is running exactly if it was started and not shut down
since, and has then one job for every id that was scheduled successfully since the last shutdown,
as it was scheduled last, and no others. What does not fit is refused and changes nothing, also if
it is done in place. An expression fits if all of its fields can be read, where the library reads by
the grammar. -/
theorem jobs_of_serve {library : Library} (replaces : library.Replaces) (drops : library.Drops)
    (grace : Int) (requests : List Request) :
    let run := (Scheduler.ofGrace grace).serve library requests
    (run.2.running = true ↔ UnderWay run.1) ∧
      (run.2.running = true → JobsInForce library grace run.1 run.2.jobs) ∧
      (∀ request : Request,
        (request.Fits library run.2.running → ∃ after, request.result library run.2 = .ok after ∧
          (request.inPlace library).run run.2 = (.ok (), after)) ∧
        (¬request.Fits library run.2.running → ∃ problem,
          request.result library run.2 = .error problem ∧
          (request.inPlace library).run run.2 = (.error problem, run.2))) ∧
      (library.ReadsCrontab → ∀ id expression, (Request.schedule id expression).Fits library
        run.2.running ↔ Crontab (Text.words expression.toList)) := by
  intro run
  have told : Told library grace run.1 run.2 :=
    (told_ofGrace library grace).serve replaces drops requests
  refine ⟨told.running, fun _ => told.jobs, fun request => ?_,
    fun reads id expression => reads.exists_trigger_iff⟩
  rw [← exists_result_iff replaces, inPlace_eq]
  cases request.result library run.2 with
  | ok after => simp
  | error problem => simp

/-- Two jobs that are scheduled again and again, with requests among it that are refused. -/
def rescheduling : List Request := [
  .schedule "repair" "0 3 * * *", .schedule "repair" "*/15 * * * *", .shutdown, .start, .start,
  .schedule "audit" "0 3 * *", .shutdown, .schedule "audit" "1 * * * *",
  .schedule "repair" "0 0 1 jan *", .start, .schedule "audit" "2 * * * *",
  .schedule "audit" "60 * * * *"]

theorem jobs_of_serve_rescheduling :
    let run := (Scheduler.ofGrace 0).serve .standard rescheduling
    Library.standard.Replaces ∧ Library.standard.Drops ∧
      run.2.running = true ∧ JobsInForce .standard 0 run.1 run.2.jobs ∧
      run.2.jobs.map (·.1) = ["repair", "audit"] ∧
      Request.shutdown.Fits .standard run.2.running ∧
      (∃ after, Request.shutdown.result .standard run.2 = .ok after) ∧
      ¬Request.start.Fits .standard run.2.running ∧
      ∃ problem, (Request.start.inPlace .standard).run run.2 = (.error problem, run.2) := by
  intro run
  have running : run.2.running = true := by decide +kernel
  have unfit : ¬Request.start.Fits .standard run.2.running := by
    rw [running]
    nofun
  obtain ⟨-, inForce, answers, -⟩ :=
    jobs_of_serve Library.replaces_standard Library.drops_standard 0 rescheduling
  obtain ⟨after, done, -⟩ := (answers .shutdown).1 running
  obtain ⟨problem, -, refused⟩ := (answers .start).2 unfit
  exact ⟨Library.replaces_standard, Library.drops_standard, running, inForce running,
    by decide +kernel, running, ⟨after, done⟩, unfit, problem, refused⟩

end RegistryMend.Schedule

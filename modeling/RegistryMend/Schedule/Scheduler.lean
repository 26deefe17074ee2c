import RegistryMend.Schedule.Cron

/-! # The scheduler

A scheduler holds jobs by id, each with the times at which it is due, and is running or not. A library
reads the cron expressions and keeps the jobs. A job is added in place of an earlier one with its id;
it never overlaps with itself, and late runs of it are made up for once.
-/

namespace RegistryMend.Schedule

/-- A job. -/
structure Job where
  due : Cron
  /-- How many runs of the job may be under way. -/
  maxInstances : Nat := 1
  /-- Whether several late runs become one. -/
  coalesce : Bool := true
  /-- How many seconds late a run may still start. -/
  graceSeconds : Int
deriving DecidableEq, Repr

/-- Jobs by their ids. -/
abbrev Jobs := List (String × Job)

/-- Why a step of the scheduler fails. -/
inductive SchedulerProblem where
  | cron (problem : CronProblem)
  /-- There is a job with the id, and it is not to be replaced. -/
  | conflictingId
  | alreadyRunning
  | notRunning
deriving DecidableEq, Repr

/-- What is used of a library that schedules jobs. -/
structure Library where
  /-- Reads a cron expression. -/
  fromCrontab : String → Except CronProblem Cron
  /-- Adds a job; it is said whether it replaces one with the same id. -/
  addJob : (replaceExisting : Bool) → String → Job → Jobs → Except SchedulerProblem Jobs
  /-- What is left of the jobs at shutdown. -/
  atShutdown : Jobs → Jobs

namespace Library

/-- The library that keeps jobs in memory. -/
def standard : Library where
  fromCrontab := Cron.parse
  addJob replaceExisting id job jobs :=
    if !replaceExisting && jobs.any (·.1 == id) then .error .conflictingId
    else .ok (jobs.filter (·.1 ≠ id) ++ [(id, job)])
  atShutdown _ := []

/-- The times that a cron expression of five fields gives. -/
def trigger (library : Library) (expression : String) : Except CronProblem Cron :=
  if (Text.words expression.toList).length = 5 then library.fromCrontab expression
  else .error .fieldCount

end Library

/-- A scheduler. -/
structure Scheduler where
  graceSeconds : Int
  running : Bool := false
  jobs : Jobs := []
deriving DecidableEq, Repr

namespace Scheduler

/-- The grace of jobs if none is asked for, in seconds. -/
def defaultGrace : Int := 300

/-- A scheduler that is not running and has no jobs. The grace is at least a second. -/
def ofGrace (seconds : Int) : Scheduler :=
  { graceSeconds := max 1 seconds }

/-- Schedules a job, in place of an earlier one with its id. -/
def schedule (library : Library) (id expression : String) (scheduler : Scheduler) :
    Except SchedulerProblem Scheduler :=
  match library.trigger expression with
  | .error problem => .error (.cron problem)
  | .ok due =>
    let job : Job := { due, graceSeconds := scheduler.graceSeconds }
    (library.addJob true id job scheduler.jobs).map fun jobs => { scheduler with jobs }

/-- Starts a scheduler that is not running. -/
def start (scheduler : Scheduler) : Except SchedulerProblem Scheduler :=
  if scheduler.running then .error .alreadyRunning else .ok { scheduler with running := true }

/-- Stops a scheduler that is running. -/
def shutdown (library : Library) (scheduler : Scheduler) : Except SchedulerProblem Scheduler :=
  if scheduler.running then
    .ok { scheduler with running := false, jobs := library.atShutdown scheduler.jobs }
  else .error .notRunning

/-- The jobs in the order of their ids. -/
def sortedJobs (scheduler : Scheduler) : Jobs :=
  scheduler.jobs.mergeSort fun a b => decide (a.1 ≤ b.1)

end Scheduler

end RegistryMend.Schedule

import RegistryMend.Repair.Pass
import RegistryMend.Repair.TarballReader
import RegistryMend.Schedule.Scheduler
import RegistryMend.Settings.Validation
import RegistryMend.Storage.Schema

/-! # The application

A run makes sure that the tables exist and makes one repair pass. With a cron expression the pass
is then repeated by a scheduler until the application is stopped.
-/

namespace RegistryMend.Service

open RegistryMend.Repair
open RegistryMend.Schedule (Cron Library)
open RegistryMend.Storage (Tree UnitOfWork)

/-- What a repair does under given settings. -/
def planFor (settings : Settings) (files : Tree) : Plan where
  format := settings.targetFormat
  batchSize := pageSize settings.batchSize
  isolateFailures := settings.isolateFailures
  files := files
  reader := tarballReader

/-- The statements of a schema file, which must be there and not blank. -/
def readSchema (path : String) : Option String → Except Failure String
  | none => .error (.schemaMissing path)
  | some text =>
    if Text.allBlank text then .error (.schemaEmpty path)
    else .ok (Text.trim (String.ofList (Text.unifyLineEnds text.toList)))

/-- Runs the statements of a schema within a unit of work. -/
def applySchema (schema : String) : Work UnitOfWork Unit := do
  let (unit, fault) := (← Work.store).applySchema schema
  Work.setStore unit
  match fault with
  | none => return ()
  | some fault => throw (.database fault)

/-- The schema file: the path that failures name, and the text if the file is there. -/
structure SchemaFile where
  path : String
  text : Option String

/-- Makes sure that the tables exist, once the directories do. `layout` tells why a directory could
not be made. -/
def prepare (layout : Option FileFault) (schema : SchemaFile) : Work Premises Unit := do
  match layout with
  | some fault => throw (.file fault)
  | none =>
    let statements ← Work.ofExcept (readSchema schema.path schema.text)
    Premises.work (inTransaction (applySchema statements))

/-- One pass, with the exit code of the application. Every failure is reported. -/
def runOnce (plan : Plan) (layout : Option FileFault) (schema : SchemaFile) :
    Work Premises Nat := do
  match ← Work.attempt (prepare layout schema >>= fun _ => repair plan) with
  | .ok _ => return 0
  | .error failure =>
    Work.report (.passFailed failure)
    return 1

/-- The name of the scheduled job. -/
def jobName : String := "repair-package-roots"

/-- How a scheduler serves a job: what it does until it has started, and what from then on until it is
stopped. -/
structure Server (κ α : Type) where
  start : Work Premises Unit → Work Premises κ
  serve : κ → Work Premises Unit → Work Premises α

/-- A server for the times that a cron expression gives, which is read before the server starts. -/
def Server.due {κ α : Type} (library : Library) (expression : String) (server : Cron → Server κ α) :
    Server (Cron × κ) α where
  start job := do
    let cron ← Work.ofExcept ((library.trigger expression).mapError .cron)
    return (cron, ← (server cron).start job)
  serve started job := (server started.1).serve started.2 job

/-- Repeats the pass. The scheduler is stopped however serving it ends. -/
def serveSchedule {κ α : Type} (plan : Plan) (expression : String) (server : Server κ α) :
    Work Premises α := do
  let started ← server.start (repair plan)
  Work.report (.scheduled expression)
  let served ← Work.attempt (server.serve started (repair plan))
  Work.report .schedulerStopped
  Work.ofExcept served

/-- Runs the application. Without a cron expression nothing is scheduled. -/
def run {κ α : Type} (plan : Plan) (expression : String) (layout : Option FileFault)
    (schema : SchemaFile) (server : Server κ α) : Work Premises (Nat × Option α) := do
  let exitCode ← runOnce plan layout schema
  if expression = "" then return (exitCode, none)
  else return (exitCode, some (← serveSchedule plan expression server))

end RegistryMend.Service

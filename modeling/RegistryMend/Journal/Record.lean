import RegistryMend.Journal.Level
import RegistryMend.Repair.Event

/-! # Records

A record is what a logger was told. It is written as one text behind a time stamp.
-/

namespace RegistryMend.Journal

/-- A record. -/
structure Record where
  logger : String
  level : Level
  message : WideText
  /-- What happened, if the record is about something that is followed. -/
  event : Option String := none
  /-- The repository that the record is about. -/
  repository : Option String := none
  /-- What a failure says about itself; it stands in a line of its own. -/
  detail : Option String := none
deriving DecidableEq, Repr

/-- What is followed: the correction of a package root. -/
def auditedEvent : String := "package_root_repaired"

/-- The logger of a repair. -/
def repairLogger : String := "npm_root_repair.repair"

/-- The loggers of the scheduler, whose information counts as detail. -/
def schedulerLoggers : List String := ["apscheduler.scheduler", "apscheduler.executors.default"]

namespace Record

/-- The record of an event in a repair. -/
def ofEvent (describe : Fault → String) (event : Repair.Event) : Record where
  logger := repairLogger
  level := event.level
  message := event.text describe
  event := event.audited?.map fun _ => auditedEvent
  repository := event.audited?
  detail := event.failure?.map (Failure.message describe)

/-- A record as handlers see it: the information of the scheduler is turned into detail. -/
def tempered (record : Record) : Record :=
  if record.level = .info ∧ record.logger ∈ schedulerLoggers then { record with level := .debug }
  else record

/-- Whether a record is about the correction of a package root. -/
def isAudited (record : Record) : Bool :=
  record.event == some auditedEvent

/-- The line of a record with its level and logger, and that of a failure below it. -/
def line (stamp : String) (record : Record) : WideText :=
  (stamp ++ " " ++ record.level.name ++ " [" ++ record.logger ++ "] " : String) ++ record.message ++
    ((record.detail.map ("\n" ++ ·)).getD "" : String)

/-- The line of an audited record with its repository. -/
def auditLine (stamp : String) (record : Record) : WideText :=
  (stamp ++ " " ++ record.repository.getD "-" ++ " " : String) ++ record.message

end Record

end RegistryMend.Journal

import RegistryMend.Schedule.Due
import RegistryMend.Service.Deployment
import RegistryMend.Storage.Snapshot
import Std.Time

/-! # The command line

The program works on the deployment in the current directory. It makes one pass and ends with its
exit code, or goes on to make a pass whenever the cron expression in the settings is due. What is
shown goes to standard error.
-/

namespace RegistryMend.CommandLine

open RegistryMend.Journal (RotatingFile)
open RegistryMend.Json (Value)
open RegistryMend.Repair (Premises Work)
open RegistryMend.Schedule (CalendarMinute Cron Library)
open RegistryMend.Service (Deployment)
open RegistryMend.Settings (Places)
open RegistryMend.Storage (Database Tree blobPath)

/-- The bytes of a file, if it can be read. -/
def readBytes? (path : String) : IO (Option (List UInt8)) := do
  let .ok bytes ← (IO.FS.readBinFile path).toBaseIO | return none
  return some bytes.toList

/-- The text of a file, if it can be read. -/
def readText? (path : String) : IO (Option String) := do
  let some bytes ← readBytes? path | return none
  let some text := Text.utf8Chars? bytes
    | throw (IO.userError (path ++ ": " ++ Fault.notText.describe))
  return some (String.ofList text)

/-- The path of a log file that was set aside. -/
def olderLog (path : String) (index : Nat) : String :=
  path ++ "." ++ Decimal.naturalText index

/-- No more log files than this are set aside. -/
def mostBackups : Nat := 100

/-- Reads a log file and those set aside. -/
def readLog (path : String) : IO RotatingFile := do
  let current := (← readText? path).getD ""
  let mut older := #[]
  for index in [1:mostBackups + 1] do
    let some text ← readText? (olderLog path index) | break
    older := older.push text
  return ⟨current, older.toList⟩

/-- Writes a log file and those set aside. -/
def writeLog (path : String) (file : RotatingFile) : IO Unit := do
  IO.FS.writeFile path file.current
  for (text, index) in file.older.zipIdx do
    IO.FS.writeFile (olderLog path (index + 1)) text

/-- Reads the database, if its file is there. -/
def readDatabase? (path : String) : IO (Option Database) := do
  let some text ← readText? path | return none
  let .ok (.obj document) := Value.read text | throw (IO.userError (path ++ ": not a database"))
  let some db := Database.ofSnapshot? document | throw (IO.userError (path ++ ": not a database"))
  return some db

/-- Writes the database: its file is there as a whole before it takes the place of the last one. -/
def writeDatabase (path : String) (db : Database) : IO Unit := do
  let fresh := path ++ ".new"
  IO.FS.writeFile fresh (Value.obj db.snapshot).canonical
  IO.FS.rename fresh path

/-- Adds the files of the blobs that are recorded to a tree. -/
def readBlobs (places : Places) (db : Database) (tree : Tree) : IO Tree := do
  let mut files := tree
  for row in db.blobs.rows do
    if let some bytes ← readBytes? (blobPath places.blobs row.ref).text then
      files := (files.writeBlob row.ref bytes).1
  return files

/-- Reads the deployment in a directory. -/
def readDeployment (root settings : String) : IO Deployment := do
  let empty : Deployment := { root }
  let places := empty.places
  let database ← readDatabase? places.database.text
  let files ← readBlobs places (database.getD .blank) empty.files
  let schema ← readText? places.schema.text
  let errors ← readLog places.errorLog.text
  let audit ← readLog places.auditLog.text
  return { root, settings, schema, files, premises := { database }, logs := .holding errors audit }

/-- Writes what a deployment keeps. -/
def writeDeployment (deployment : Deployment) : IO Unit := do
  let places := deployment.places
  IO.FS.createDirAll places.blobs.text
  IO.FS.createDirAll places.logs.text
  if let some db := deployment.premises.database then writeDatabase places.database.text db
  if let .holding errors audit := deployment.logs then
    writeLog places.errorLog.text errors
    writeLog places.auditLog.text audit

/-- How often the run lock is tried in a second. -/
def triesPerSecond : Nat := 20

/-- Takes the run lock. The number of tries after the first is bounded, or there is no bound. -/
def takeLock (handle : IO.FS.Handle) (tries : Option Nat) : IO Bool := do
  let mut tried := 0
  repeat
    if ← handle.tryLock then return true
    if tries.any (· ≤ tried) then return false
    IO.sleep (1000 / triesPerSecond).toUInt32
    tried := tried + 1
  return false

/-- The time as it stands in log lines. -/
def stamp : IO String := do
  return (← Std.Time.PlainDateTime.now).format "uuuu-MM-dd HH:mm:ss"

/-- The minute of the calendar, and the seconds of it that have passed. -/
def currentMinute : IO (CalendarMinute × Nat) := do
  let now ← Std.Time.PlainDateTime.now
  let lastDay := Std.Time.Month.Ordinal.days now.year.isLeap now.month
  return (
    { minute := now.minute.val.toNat
      hour := now.hour.val.toNat
      day := now.day.val.toNat
      month := now.month.val.toNat
      dayOfWeek := now.weekday.toOrdinal.val.toNat - 1
      lastDay := lastDay.val.toNat },
    now.second.val.toNat)

/-- Does work on the deployment in a directory under the run lock. While another program holds the
lock nothing is written. -/
def perform {α : Type} (root text : String) (settings : Settings)
    (work : Deployment → Work Premises α) : IO (Except Failure α) := do
  let places : Places := ({ root } : Deployment).places
  IO.FS.createDirAll places.data.text
  let handle ← IO.FS.Handle.mk places.lock.text .append
  let held ← takeLock handle (settings.lockTimeout.wholeParts triesPerSecond)
  let found ← readDeployment root text
  let lock : Repair.Lock := if held then .free else .taken
  let deployment : Deployment := { found with premises := { found.premises with lock } }
  let (result, console, after) :=
    deployment.performLogged settings Fault.describe (← stamp) (work deployment)
  IO.eprint console
  if held then
    writeDeployment after
    handle.unlock
  return result

/-- Shows a failure. -/
def showFailure (failure : Failure) : IO Unit :=
  IO.eprintln (failure.message Fault.describe)

/-- Makes a pass whenever a cron expression is due. -/
def serve (root text : String) (settings : Settings) (cron : Cron) : IO Unit := do
  repeat
    let (_, second) ← currentMinute
    IO.sleep ((60 - second) * 1000).toUInt32
    if cron.isDue (← currentMinute).1 then
      match ← perform root text settings fun deployment =>
          Repair.repair (deployment.plan settings) with
      | .ok _ => pure ()
      | .error failure => showFailure failure

/-- Runs the program under settings that were read from a text. -/
def run (root text : String) (settings : Settings) : IO UInt32 := do
  match ← perform root text settings (·.pass settings) with
  | .error failure =>
    showFailure failure
    return 1
  | .ok exitCode =>
    if settings.cronExpression ≠ "" then
      match Library.standard.trigger settings.cronExpression with
      | .error problem =>
        showFailure (.cron problem)
        return 1
      | .ok cron =>
        let _ ← perform root text settings fun _ => Work.report (.scheduled settings.cronExpression)
        serve root text settings cron
    return exitCode.toUInt32

/-- Starts the program. The settings file is named by an environment variable or has its usual
place. -/
def start : IO UInt32 := do
  let root := (← IO.currentDir).toString
  let named := (← IO.getEnv "SETTINGS_FILE").filter (· ≠ "")
  let path := named.getD ({ root } : Deployment).places.settings.text
  let text := (← readText? path).getD ""
  match Settings.load text.toList with
  | .error problems =>
    problems.forM fun problem => IO.eprintln problem.message
    return 1
  | .ok settings => run root text settings

end RegistryMend.CommandLine

/-- The program. -/
def main : IO UInt32 :=
  RegistryMend.CommandLine.start

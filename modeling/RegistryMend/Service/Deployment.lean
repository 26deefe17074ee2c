import RegistryMend.Journal.Handlers
import RegistryMend.Service.Application
import RegistryMend.Settings.Places

/-! # Deployments

A deployment is the directory that the application runs in: a settings file, a schema file, blob
files, log files and the database. Settings may also be read from any file that a path names.
-/

namespace RegistryMend.Service

open RegistryMend.Journal (Handlers Record RotatingFile)
open RegistryMend.Repair
open RegistryMend.Settings (Places Problem)
open RegistryMend.Storage (Bytes Database Node Path Tree blobDirectory dataDirectory)

/-- The directory of the log files. -/
inductive LogDirectory where
  | absent
  | empty
  | holding (errors audit : RotatingFile)
deriving DecidableEq, Repr

namespace LogDirectory

/-- The directory, made if it was absent. -/
def made : LogDirectory → LogDirectory
  | absent => empty
  | directory => directory

/-- What has been written so far, with an empty console. -/
def journal : LogDirectory → Journal
  | holding errors audit => { errors, audit }
  | _ => {}

/-- The text of the error log, then those set aside, then the same for the audit log. -/
def files : LogDirectory → Option (List (String × String))
  | absent => none
  | empty => some []
  | holding errors audit =>
    some (named "repair_errors.log" errors ++ named "repaired_roots.log" audit)
where
  /-- The files of one log by name. -/
  named (name : String) (file : RotatingFile) : List (String × String) :=
    (name, file.current) :: file.older.zipIdx.map fun (text, index) =>
      (name ++ "." ++ Decimal.naturalText (index + 1), text)

end LogDirectory

/-- A deployment. -/
structure Deployment where
  /-- The path of its directory as text. -/
  root : String
  settings : String := ""
  schema : Option String := none
  /-- The directory of all data, with the blob files. -/
  files : Tree := ⟨[([dataDirectory], .directory)]⟩
  premises : Premises := {}
  logs : LogDirectory := .absent

/-- Why settings cannot be loaded. -/
inductive LoadProblem where
  | invalid (problems : List Problem)
  | file (fault : FileFault)
  | notText
deriving DecidableEq, Repr

/-- The directories at the top of every system. -/
def systemDirectories : Tree :=
  ⟨["bin", "dev", "etc", "home", "lib", "opt", "proc", "root", "run", "sbin", "srv", "sys", "tmp",
    "usr", "var"].map fun name => ([name], .directory)⟩

/-- The file of a database. Of its bytes it is only said whether they are text, which they are not
once there are tables. -/
def databaseImage (db : Database) : Bytes :=
  if db.definitions.isEmpty then [] else [0xff]

namespace Deployment

/-- Where the files are. -/
def places (deployment : Deployment) : Places :=
  .below (.parse deployment.root) ((Path.parse deployment.root).child "configs/settings.ini")

/-- The settings in the settings file. -/
def loadSettings (deployment : Deployment) : Except (List Problem) Settings :=
  Settings.load deployment.settings.toList

/-- The file of a text. -/
def textFile (text : String) : Node :=
  .file (Text.utf8Bytes text.toList)

/-- The files and directories besides the blob files, by the names that lead to them. -/
def ownNodes (deployment : Deployment) : List (List String × Node) :=
  [(["configs"], .directory), (["configs", "settings.ini"], textFile deployment.settings),
      (["init"], .directory)] ++
    (deployment.schema.toList.map fun text => (["init", "storage_db.sql"], textFile text)) ++
    (deployment.premises.database.toList.map fun db =>
      ([dataDirectory, "storage.db"], Node.file (databaseImage db))) ++
    match deployment.logs.files with
    | none => []
    | some logs =>
      ([dataDirectory, "logs"], .directory) ::
        logs.map fun (name, text) => ([dataDirectory, "logs", name], textFile text)

/-- All files and directories. -/
def tree (deployment : Deployment) : Tree :=
  ⟨deployment.ownNodes ++ deployment.files.nodes⟩

/-- What a path leads to. Of what lies outside a deployment only the directories of the system
count as there. -/
def find? (deployment : Deployment) (path : Path) : Except FileFault (Option Node) :=
  match path.start with
  | .relative => deployment.tree.find? path.names
  | _ => systemDirectories.find? path.names

/-- The text of a named file. A file that is not there has none. -/
def namedText (deployment : Deployment) (path : Path) : Except LoadProblem String :=
  match deployment.find? path with
  | .error fault => .error (.file fault)
  | .ok none => .ok ""
  | .ok (some .directory) => .error (.file .isDirectory)
  | .ok (some (.file content)) =>
    match Text.utf8Chars? content with
    | none => .error .notText
    | some text => .ok (String.ofList text)

/-- The settings in a named file, or in the settings file if no name is given. -/
def loadNamed (deployment : Deployment) (path : Option String) : Except LoadProblem Settings :=
  match path.filter (· ≠ "") with
  | none => deployment.loadSettings.mapError .invalid
  | some path => do
    let text ← deployment.namedText (.parse path)
    (Settings.load text.toList).mapError .invalid

/-- The plan of a repair under given settings. -/
def plan (deployment : Deployment) (settings : Settings) : Plan :=
  planFor settings deployment.files

/-- The schema file. -/
def schemaFile (deployment : Deployment) : SchemaFile :=
  ⟨deployment.places.schema.text, deployment.schema⟩

/-- Makes the directory of the blob files. -/
def makeBlobDirectory (deployment : Deployment) : Tree × Option FileFault :=
  deployment.files.makeDirectories (dataDirectory :: blobDirectory.names)

/-- The deployment with the directories that a pass needs, as far as they can be made. -/
def laidOut (deployment : Deployment) : Deployment :=
  { deployment with files := deployment.makeBlobDirectory.1, logs := deployment.logs.made }

/-- One pass. -/
def pass (deployment : Deployment) (settings : Settings) : Work Premises Nat :=
  runOnce (deployment.laidOut.plan settings) deployment.makeBlobDirectory.2 deployment.schemaFile

/-- A run of the application with a scheduler that serves its job in a given way. -/
def application {κ α : Type} (deployment : Deployment) (settings : Settings) (server : Server κ α) :
    Work Premises (Nat × Option α) :=
  run (deployment.laidOut.plan settings) settings.cronExpression deployment.makeBlobDirectory.2
    deployment.schemaFile server

/-- Does work on the premises and gives the events in order. -/
def perform {α : Type} (deployment : Deployment) (work : Work Premises α) :
    Except Failure α × List Event × Deployment :=
  let (result, session) := work.runIn { store := deployment.premises }
  (result, session.events.toList, { deployment with premises := session.store })

/-- Does work and writes the log files. What the console shows is given beside the result. -/
def performLogged {α : Type} (deployment : Deployment) (settings : Settings)
    (describe : Fault → String) (stamp : String) (work : Work Premises α) :
    Except Failure α × String × Deployment :=
  let (result, events, after) := deployment.perform work
  let records := events.map (Record.ofEvent describe)
  let journal :=
    (Handlers.ofSettings settings).handleAll stamp deployment.logs.journal records
  (result, journal.console, { after with logs := .holding journal.errors journal.audit })

end Deployment

end RegistryMend.Service

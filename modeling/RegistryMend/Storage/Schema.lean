import RegistryMend.Sql.Grammar
import RegistryMend.Storage.Catalog
import RegistryMend.Storage.UnitOfWork

/-! # The schema

A schema is a script of statements. They are run one after the other until one fails, and what was
done before stays done, unless it was done in a transaction that the script itself began.
-/

namespace RegistryMend.Storage

open RegistryMend.Sql (Creation ObjectName Record Selection Statement TableDefinition)

namespace Schema

/-- The schema that is delivered with the program. -/
def delivered : String := "\n".intercalate [
  "CREATE TABLE IF NOT EXISTS repositories (",
  "    name TEXT PRIMARY KEY,",
  "    format TEXT NOT NULL,",
  "    type TEXT NOT NULL",
  ");",
  "",
  "CREATE TABLE IF NOT EXISTS blobs (",
  "    ref TEXT PRIMARY KEY,",
  "    sha1 TEXT NOT NULL,",
  "    size INTEGER NOT NULL DEFAULT 0",
  ");",
  "",
  "CREATE TABLE IF NOT EXISTS assets (",
  "    id INTEGER PRIMARY KEY AUTOINCREMENT,",
  "    repository TEXT NOT NULL REFERENCES repositories(name) ON DELETE CASCADE,",
  "    name TEXT NOT NULL,",
  "    blob_ref TEXT,",
  "    attributes TEXT NOT NULL DEFAULT '\x7b\x7d'",
  ");",
  "",
  "CREATE INDEX IF NOT EXISTS idx_assets_repository_id ON assets(repository, id);",
  "",
  "CREATE TABLE IF NOT EXISTS package_roots (",
  "    repository TEXT NOT NULL REFERENCES repositories(name) ON DELETE CASCADE,",
  "    package_id TEXT NOT NULL,",
  "    revision INTEGER NOT NULL DEFAULT 1,",
  "    document TEXT NOT NULL,",
  "    updated_at TEXT NOT NULL,",
  "    PRIMARY KEY (repository, package_id)",
  ");",
  ""]

end Schema

/-- A script as it runs. -/
structure ScriptRun where
  unit : UnitOfWork
  /-- The tables and views that end with the connection. Of their rows nothing is known. -/
  temporary : List TableDefinition := []
  /-- The savepoints, the last one first, each with the database as it was. -/
  savepoints : List (String × Database) := []
  /-- Whether the transaction was begun by the first savepoint. -/
  endsWithSavepoints : Bool := false

namespace ScriptRun

/-- The database as the script sees it. -/
def database (run : ScriptRun) : Database :=
  run.unit.current

/-- Whether there is a transaction. -/
def isWithin (run : ScriptRun) : Bool :=
  run.unit.pending.isSome

/-- Changes the database. -/
def change (run : ScriptRun) (result : Except DatabaseFault Database) :
    Except DatabaseFault ScriptRun :=
  result.map fun db => { run with unit := run.unit.write db }

/-- Whether a name of a database is that of the one that lasts, which need not be given. -/
def isMain (target : ObjectName) : Bool :=
  target.database.all (· == "main")

/-- Whether a name of a database is that of the one that ends with the connection. -/
def isTemp (target : ObjectName) : Bool :=
  target.database == some "temp"

/-- Whether there is something temporary of a name. -/
def hasTemporary (run : ScriptRun) (name : String) : Bool :=
  run.temporary.any (·.name == name)

/-- What a name means among what is temporary. -/
def temporary? (run : ScriptRun) (target : ObjectName) : Option TableDefinition :=
  if target.database.isNone || isTemp target then
    run.temporary.find? fun definition => definition.name = target.name
  else none

/-- The lists that the database keeps about itself, and functions that give rows. -/
def isSystemTable (name : String) : Bool :=
  isReservedName name || "pragma_".toList.isPrefixOf name.toList ||
    ["json_each", "json_tree"].contains name

/-- Whether there is a table or a view with a name. -/
def hasRelation (run : ScriptRun) (target : ObjectName) : Bool :=
  (run.temporary? target).isSome ||
    (isMain target && (run.database.hasRelation target.name || isSystemTable target.name))

/-- Creates something that ends with the connection. -/
def createTemporary (run : ScriptRun) (definition : TableDefinition) (isSound ifAbsent : Bool) :
    Except DatabaseFault ScriptRun :=
  if isReservedName definition.name then .error .statement
  else if run.hasTemporary definition.name then if ifAbsent then .ok run else .error .statement
  else if isSound then .ok { run with temporary := definition :: run.temporary }
  else .error .statement

/-- Creates a table or a view: `create` does so in the database. -/
def createRelation (run : ScriptRun) (creation : Creation) (definition : TableDefinition)
    (isSound : Bool) (create : Database → Except DatabaseFault Database) :
    Except DatabaseFault ScriptRun :=
  let target := creation.target
  if creation.isTemporary || isTemp target then
    if creation.isTemporary && target.database.any (· ≠ "temp") then .error .statement
    else run.createTemporary definition isSound creation.ifAbsent
  else if isMain target then run.change (create run.database)
  else .error .statement

/-- The values of a row by column. Without columns, they are those of all columns in their order. -/
def recordOf? (definition : TableDefinition) (columns : List String) (values : List Sql.Literal) :
    Option Record :=
  if values.isEmpty then some []
  else
    let names := if columns.isEmpty then definition.columnNames else columns
    if values.length = names.length && names.all definition.hasColumn then some (names.zip values)
    else none

/-- Changes rows of a table: `write` does so where they are known. What is said about them must fit
the definition of the table. -/
def writeRows (run : ScriptRun) (target : ObjectName) (fits : TableDefinition → Bool)
    (write : TableDefinition → Except DatabaseFault Database) : Except DatabaseFault ScriptRun :=
  match run.temporary? target with
  | some definition => if fits definition then .ok run else .error .statement
  | none =>
    if !isMain target then .error .statement
    else
      match run.database.definition? target.name with
      | none => if target.name = "sqlite_sequence" then .ok run else .error .statement
      | some definition =>
        if fits definition then run.change (write definition) else .error .statement

/-- The columns that a selection looks at. -/
def columnsIn : Selection → List String
  | .having comparisons => comparisons.map (·.column)
  | _ => []

/-- Sets a savepoint, which begins a transaction if there is none. -/
def setSavepoint (run : ScriptRun) (name : String) : ScriptRun :=
  let begun := if run.isWithin then run else
    { run with unit := .begin run.database, endsWithSavepoints := true }
  { begun with savepoints := (name, run.database) :: begun.savepoints }

/-- Ends the transaction, if there is one. -/
def finish (run : ScriptRun) (finished : UnitOfWork) : Except DatabaseFault ScriptRun :=
  if run.isWithin then
    .ok { run with unit := finished, savepoints := [], endsWithSavepoints := false }
  else .error .statement

/-- Forgets a savepoint and all later ones. With the first one the transaction ends that it began. -/
def release (run : ScriptRun) (name : String) : Except DatabaseFault ScriptRun :=
  match run.savepoints.dropWhile (·.1 ≠ name) with
  | [] => .error .statement
  | [_] =>
    if run.endsWithSavepoints then run.finish run.unit.commit
    else .ok { run with savepoints := [] }
  | _ :: earlier => .ok { run with savepoints := earlier }

/-- Goes back to a savepoint, which stays. -/
def rollbackTo (run : ScriptRun) (name : String) : Except DatabaseFault ScriptRun :=
  match run.savepoints.dropWhile (·.1 ≠ name) with
  | [] => .error .statement
  | (name, db) :: earlier =>
    .ok { run with unit := run.unit.write db, savepoints := (name, db) :: earlier }

/-- Runs a statement. -/
def step (run : ScriptRun) : Statement → Except DatabaseFault ScriptRun
  | .createTable creation definition isSound =>
    run.createRelation creation definition isSound
      (·.createTable definition isSound creation.ifAbsent)
  | .createView creation =>
    run.createRelation creation { name := creation.target.name, columns := [] } true
      (·.createView creation.target.name creation.ifAbsent)
  | .createIndex creation index =>
    if run.hasTemporary index.table && creation.target.database ≠ some "main" then .ok run
    else if isMain creation.target then
      run.change (run.database.createIndex index creation.ifAbsent)
    else .error .statement
  | .createTrigger creation table =>
    if run.hasTemporary table then .ok run
    else if creation.isTemporary then
      if run.database.hasRelation table then .ok run else .error .statement
    else if isMain creation.target then
      run.change (run.database.createTrigger ⟨creation.target.name, table⟩ creation.ifAbsent)
    else .error .statement
  | .drop kind ifThere target =>
    if (run.temporary? target).isSome then
      .ok { run with temporary := run.temporary.filter (·.name ≠ target.name) }
    else if isMain target || isTemp target then
      if isReservedName target.name then .error .statement
      else if isTemp target then if ifThere then .ok run else .error .statement
      else run.change (run.database.dropNamed kind target.name ifThere)
    else if ifThere then .ok run
    else .error .statement
  | .begin =>
    if run.isWithin then .error .statement else .ok { run with unit := .begin run.database }
  | .commit => run.finish run.unit.commit
  | .rollback => run.finish run.unit.rollback
  | .savepoint name => .ok (run.setSavepoint name)
  | .release name => run.release name
  | .rollbackTo name => run.rollbackTo name
  | .insert onConflict table columns rows =>
    let recordsFor := fun (definition : TableDefinition) =>
      rows.mapM (recordOf? definition columns)
    run.writeRows table (fun definition => (recordsFor definition).isSome) fun definition =>
      ((recordsFor definition).getD []).foldlM
        (fun db record => db.insertRecord definition onConflict record) run.database
  | .delete table rows =>
    run.writeRows table (fun definition => (columnsIn rows).all definition.hasColumn)
      fun definition => run.database.deleteRecords definition rows
  | .update onConflict table values rows =>
    run.writeRows table
      (fun definition => (values.map (·.1) ++ columnsIn rows).all definition.hasColumn)
      fun definition => run.database.updateRecords definition onConflict values rows
  | .alter table alteration =>
    run.writeRows table (fun _ => true) fun definition =>
      run.database.alterTable definition alteration
  | .query tables => if tables.all run.hasRelation then .ok run else .error .statement
  | .alone => if run.isWithin then .error .statement else .ok run
  | .other => .ok run

/-- Runs the statements that lists of tokens make, until one fails. -/
def runAll (run : ScriptRun) : List (List Sql.Token) → ScriptRun × Option DatabaseFault
  | [] => (run, none)
  | [] :: rest => runAll run rest
  | tokens :: rest =>
    match Sql.statementOf? tokens with
    | none => (run, some .statement)
    | some statement =>
      match run.step statement with
      | .ok next => runAll next rest
      | .error fault => (run, some fault)

end ScriptRun

namespace UnitOfWork

/-- Runs a script. A null character in it is noticed before anything is done. -/
def runScript (script : String) (unit : UnitOfWork) : UnitOfWork × Option DatabaseFault :=
  if script.toList.contains '\x00' then (unit, some .nullCharacter)
  else
    let (run, fault) := ({ unit } : ScriptRun).runAll (Sql.statementTokens script)
    (run.unit, fault)

/-- Commits, runs a script, and begins anew, for which the script must have left no transaction. -/
def applySchema (schema : String) (unit : UnitOfWork) : UnitOfWork × Option DatabaseFault :=
  match unit.commit.runScript schema with
  | (unit, some fault) => (unit, some fault)
  | (unit, none) =>
    match unit.pending with
    | some _ => (unit, some .statement)
    | none => (begin unit.committed, none)

end UnitOfWork

namespace Schema

/-- Runs a script on a database outside of any transaction. -/
def run (script : String) (db : Database) : Database × Option DatabaseFault :=
  let (unit, fault) := (⟨db, none⟩ : UnitOfWork).runScript script
  (unit.rollback.committed, fault)

end Schema

end RegistryMend.Storage

import RegistryMend.Storage.Records

/-! # The catalog

The catalog holds what has been created in the database: tables, indexes, views and triggers. Tables
and views share their names, and no index may have one of these.
-/

namespace RegistryMend.Storage

open RegistryMend.Sql (Alteration Column IndexDefinition ObjectKind Record TableDefinition)

/-- Whether a name is kept for the database itself. -/
def isReservedName (name : String) : Bool :=
  "sqlite_".toList.isPrefixOf name.toList

namespace Database

/-- Whether there is a table or a view with a name. -/
def hasRelation (db : Database) (name : String) : Bool :=
  (db.definition? name).isSome || db.views.contains name

/-- Whether there is an index with a name. -/
def hasIndex (db : Database) (name : String) : Bool :=
  db.indexes.any (·.name == name)

/-- Checks a name for a new table or view: whether it is still to be created. -/
def admitsRelation (db : Database) (name : String) (ifAbsent : Bool) :
    Except DatabaseFault Bool :=
  if isReservedName name then .error .statement
  else if db.hasRelation name then if ifAbsent then .ok false else .error .statement
  else if db.hasIndex name then .error .statement
  else .ok true

/-- Creates a table. -/
def createTable (db : Database) (definition : TableDefinition) (isSound ifAbsent : Bool) :
    Except DatabaseFault Database := do
  if ← db.admitsRelation definition.name ifAbsent then
    if isSound then return { db with definitions := db.definitions ++ [definition] }
    else .error .statement
  else return db

/-- Creates a view. -/
def createView (db : Database) (name : String) (ifAbsent : Bool) : Except DatabaseFault Database := do
  if ← db.admitsRelation name ifAbsent then return { db with views := name :: db.views }
  else return db

/-- Creates an index. Its table is looked up first. -/
def createIndex (db : Database) (index : IndexDefinition) (ifAbsent : Bool) :
    Except DatabaseFault Database :=
  match db.definition? index.table with
  | none => .error .statement
  | some definition =>
    if isReservedName index.name || db.hasRelation index.name then .error .statement
    else if db.hasIndex index.name then if ifAbsent then .ok db else .error .statement
    else if !index.columns.all definition.hasColumn then .error .statement
    else if index.isUnique && !index.columns.isEmpty &&
        !keysDiffer [index.columns] (db.records index.table) then .error .constraint
    else .ok { db with indexes := index :: db.indexes }

/-- Creates a trigger on a table or a view. -/
def createTrigger (db : Database) (trigger : Sql.TriggerDefinition) (ifAbsent : Bool) :
    Except DatabaseFault Database :=
  if !db.hasRelation trigger.table then .error .statement
  else if db.triggers.any (·.name == trigger.name) then
    if ifAbsent then .ok db else .error .statement
  else if isReservedName trigger.name then .error .statement
  else .ok { db with triggers := trigger :: db.triggers }

/-- The database without what belongs to a table. -/
def forget (db : Database) (name : String) : Database :=
  { db.withRecords name [] with
    definitions := db.definitions.filter (·.name ≠ name)
    indexes := db.indexes.filter (·.table ≠ name)
    triggers := db.triggers.filter (·.table ≠ name)
    writeProtected := if name = TableName.packageRoots.text then [] else db.writeProtected }

/-- Drops a table after removing its rows. That other tables refer to it by no key does not count
here. -/
def dropTable (db : Database) (definition : TableDefinition) : Except DatabaseFault Database :=
  match db.removeRecords definition (fun _ => true) db.removalDepth with
  | .ok emptied => .ok (emptied.forget definition.name)
  | .error .constraint => .error .constraint
  | .error _ => .ok (db.forget definition.name)

/-- Drops what has a name, if it is there. -/
def drop? (db : Database) (kind : ObjectKind) (name : String) :
    Option (Except DatabaseFault Database) :=
  match kind with
  | .table =>
    if db.views.contains name then some (.error .statement)
    else (db.definition? name).map db.dropTable
  | .view =>
    if (db.definition? name).isSome then some (.error .statement)
    else if db.views.contains name then
      some (.ok { db with
        views := db.views.filter (· ≠ name), triggers := db.triggers.filter (·.table ≠ name) })
    else none
  | .index =>
    if db.hasIndex name then
      some (.ok { db with indexes := db.indexes.filter (·.name ≠ name) })
    else none
  | .trigger =>
    if db.triggers.any (·.name == name) then
      some (.ok { db with triggers := db.triggers.filter (·.name ≠ name) })
    else none

/-- Drops what has a name. -/
def dropNamed (db : Database) (kind : ObjectKind) (name : String) (ifThere : Bool) :
    Except DatabaseFault Database :=
  match db.drop? kind name with
  | some result => result
  | none => if ifThere then .ok db else .error .statement

end Database

/-- Puts another name in the place of one. -/
def renamed (old new name : String) : String :=
  if name = old then new else name

namespace Database

/-- Changes the definition of a table. -/
def redefine (db : Database) (name : String) (change : TableDefinition → TableDefinition) :
    Database :=
  { db with definitions := db.definitions.map fun definition =>
      if definition.name = name then change definition else definition }

/-- Gives a table another name, wherever it is named. -/
def renameTable (db : Database) (old new : String) : Database :=
  let rows := db.records old
  let moved := (db.withRecords old []).withRecords new rows
  { moved with
    definitions := db.definitions.map fun definition =>
      { definition with
        name := renamed old new definition.name
        references := definition.references.map fun reference =>
          { reference with table := renamed old new reference.table } }
    indexes := db.indexes.map fun index => { index with table := renamed old new index.table }
    triggers := db.triggers.map fun trigger =>
      { trigger with table := renamed old new trigger.table } }

/-- Gives a column of a table another name, wherever it is named. -/
def renameColumn (db : Database) (table old new : String) : Database :=
  let change := renamed old new
  let rows := (db.records table).map fun row => row.map fun (column, value) => (change column, value)
  let defined := db.redefine table fun definition =>
    { definition with
      columns := definition.columns.map fun column => { column with name := change column.name }
      primary := definition.primary.map change
      rowNumber := definition.rowNumber.map change
      unique := definition.unique.map (·.map change)
      references := definition.references.map fun reference =>
        { reference with columns := reference.columns.map change } }
  { defined.withRecords table rows with
    indexes := db.indexes.map fun index =>
      if index.table = table then { index with columns := index.columns.map change } else index }

/-- Adds a column to a table. -/
def addColumn (db : Database) (definition : TableDefinition) (column : Column) (isKey : Bool) :
    Except DatabaseFault Database :=
  let rows := db.records definition.name
  if isKey || definition.hasColumn column.name ||
      (column.notNull && column.default = .null && !rows.isEmpty) then .error .statement
  else
    let value := storedAs column column.default
    .ok ((db.redefine definition.name fun definition =>
      { definition with columns := definition.columns ++ [column] }).withRecords definition.name
        (rows.map fun row => row ++ [(column.name, value)]))

/-- Whether a column is part of a key, an index or a reference. -/
def isBound (db : Database) (definition : TableDefinition) (column : String) : Bool :=
  definition.keys.any (·.contains column) ||
    definition.references.any (·.columns.contains column) ||
    db.indexes.any fun index => index.table == definition.name && index.columns.contains column

/-- Alters a table. -/
def alterTable (db : Database) (definition : TableDefinition) :
    Alteration → Except DatabaseFault Database
  | .rename new =>
    if isReservedName new || db.hasRelation new || db.hasIndex new then .error .statement
    else .ok (db.renameTable definition.name new)
  | .addColumn column isKey => db.addColumn definition column isKey
  | .renameColumn old new =>
    if definition.hasColumn old && !definition.hasColumn new then
      .ok (db.renameColumn definition.name old new)
    else .error .statement
  | .dropColumn column =>
    if definition.hasColumn column && !db.isBound definition column &&
        1 < definition.columns.length then
      .ok (db.redefine definition.name fun definition =>
        { definition with columns := definition.columns.filter (·.name ≠ column) })
    else .error .statement

end Database

end RegistryMend.Storage

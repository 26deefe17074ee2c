import RegistryMend.Settings.Number
import RegistryMend.Storage.Database

/-! # Rows by column

A script sees every table alike: as rows of values by column, of which the definition of the table
and its unique indexes say which are allowed. Rows are inserted, removed and updated here with all
that follows from it for the rows that refer to them.
-/

namespace RegistryMend.Storage

open RegistryMend.Decimal (Double)
open RegistryMend.Sql (Column Literal OnConflict Record Reference Selection TableDefinition)

/-- The whole number of a value, zero if it is none. -/
def wholeNumber : Literal → Int
  | .integer n => n
  | _ => 0

/-- The text in a column. -/
def textIn (column : String) (record : Record) : String :=
  (record.value column).shown

/-- The values of a repository. -/
def RepositoryRow.record (row : RepositoryRow) : Record :=
  [("name", .text row.name), ("format", .text row.format), ("type", .text row.type)]

/-- The repository with some values. -/
def RepositoryRow.ofRecord (record : Record) : RepositoryRow :=
  ⟨textIn "name" record, textIn "format" record, textIn "type" record⟩

/-- The values of the facts about a blob. -/
def BlobRow.record (row : BlobRow) : Record :=
  [("ref", .text row.ref), ("sha1", .text row.sha1), ("size", row.size)]

/-- The facts about a blob with some values. -/
def BlobRow.ofRecord (record : Record) : BlobRow :=
  ⟨textIn "ref" record, textIn "sha1" record, record.value "size"⟩

/-- The values of an asset. -/
def AssetRow.record (row : AssetRow) : Record :=
  [("id", .integer row.id), ("repository", .text row.repository), ("name", .text row.name),
    ("blob_ref", (row.blobRef.map Literal.text).getD .null), ("attributes", .text row.attributes)]

/-- The asset with some values. -/
def AssetRow.ofRecord (record : Record) : AssetRow where
  id := wholeNumber (record.value "id")
  repository := textIn "repository" record
  name := textIn "name" record
  blobRef := if record.value "blob_ref" = .null then none else some (textIn "blob_ref" record)
  attributes := textIn "attributes" record

/-- The values of a package root. When it was written is not kept. -/
def RootRow.record (row : RootRow) : Record :=
  [("repository", .text row.repository), ("package_id", .text row.packageId),
    ("revision", row.revision), ("document", .text row.document), ("updated_at", .text "")]

/-- The package root with some values. -/
def RootRow.ofRecord (record : Record) : RootRow :=
  ⟨textIn "repository" record, textIn "package_id" record, record.value "revision",
    textIn "document" record⟩

@[simp] theorem RepositoryRow.ofRecord_record (row : RepositoryRow) : ofRecord row.record = row :=
  rfl

@[simp] theorem BlobRow.ofRecord_record (row : BlobRow) : ofRecord row.record = row := rfl

@[simp] theorem AssetRow.ofRecord_record (row : AssetRow) : ofRecord row.record = row := by
  obtain ⟨_, _, _, ref, _⟩ := row
  cases ref <;> rfl

@[simp] theorem RootRow.ofRecord_record (row : RootRow) : ofRecord row.record = row := rfl

namespace Database

/-- The rows of a table. -/
def records (db : Database) (table : String) : List Record :=
  match TableName.named? table with
  | some .repositories => db.repositories.rows.map RepositoryRow.record
  | some .blobs => db.blobs.rows.map BlobRow.record
  | some .assets => db.assets.rows.map AssetRow.record
  | some .packageRoots => db.roots.rows.map RootRow.record
  | none => (db.others.lookup table).getD []

/-- The database with other rows in a table. -/
def withRecords (db : Database) (table : String) (records : List Record) : Database :=
  match TableName.named? table with
  | some .repositories =>
    { db with repositories := (records.map RepositoryRow.ofRecord).foldl .put .empty }
  | some .blobs => { db with blobs := (records.map BlobRow.ofRecord).foldl .put .empty }
  | some .assets =>
    let add := fun (table : AssetTable) row => (table.insert? row).getD table
    { db with assets := (records.map AssetRow.ofRecord).foldl add .empty }
  | some .packageRoots => { db with roots := (records.map RootRow.ofRecord).foldl .put .empty }
  | none => { db with others := Assoc.insert table records db.others }

/-- All lists of columns in which no two rows of a table agree. -/
def keysOf (db : Database) (definition : TableDefinition) : List (List String) :=
  definition.keys ++ (db.indexes.filter fun index =>
    index.isUnique && index.table == definition.name && !index.columns.isEmpty).map (·.columns)

end Database

/-- Whether a word occurs in one of several words. -/
def occursIn (word : String) (words : List String) : Bool :=
  words.any fun text => (text.splitOn word).length ≠ 1

/-- A number with places as a column of numbers keeps it: as a whole number if it is one that
fits. -/
def ofReal (d : Double) : Literal :=
  match d.wholeParts 1 with
  | none => .real d
  | some whole =>
    if whole < 0x8000000000000000 ∧ Double.ofDecimal d.isNegative whole 0 = d then
      .integer (Text.signed d.isNegative whole)
    else .real d

/-- Whether a character may stand in a number: a digit, sign, point, mark of an exponent or blank. -/
def isNumberPart (c : Char) : Bool :=
  c.isDigit || ['+', '-', '.', 'e', 'E', ' ', '\t', '\n', '\x0b', '\x0c', '\r'].contains c

/-- The number that a text writes, as a column of numbers keeps it. -/
def numberOf? (text : String) : Option Literal :=
  if !text.toList.all isNumberPart then none
  else
    let (negative, digits) := Text.splitSign (Text.trimNumeral text.toList)
    let whole : Literal := .integer (Text.signed negative (Text.natOfDigits digits))
    if !digits.isEmpty && digits.all Char.isDigit && whole.fits then some whole
    else (Settings.readDouble? text).map ofReal

example : numberOf? " 12\n" = some (.integer 12) ∧ numberOf? "1_2" = none := by decide
example : numberOf? "1e3" = some (.integer 1000) ∧ numberOf? "1e999" = some (.real (.infinity false)) := by
  decide +kernel

/-- A value as a column keeps it: texts and numbers become each other by its type. -/
def storedAs (column : Column) (value : Literal) : Literal :=
  let isNumeric := occursIn "int" column.type
  let isText := ["char", "clob", "text"].any (occursIn · column.type)
  if isText && !isNumeric then
    match value with
    | .null => .null
    | value => .text value.shown
  else if column.type.isEmpty || (occursIn "blob" column.type && !isNumeric) then value
  else
    match value with
    | .integer n =>
      if value.fits then value else ofReal (.ofDecimal (n < 0) n.natAbs 0)
    | .text text => (numberOf? text).getD value
    | value => value

/-- Whether two rows agree in some columns. A null agrees with nothing. -/
def agree (columns : List String) (first second : Record) : Bool :=
  columns.all fun column =>
    first.value column ≠ .null && first.value column == second.value column

/-- Whether a row is meant. -/
def isSelected (rows : Selection) (record : Record) : Bool :=
  match rows with
  | .all => true
  | .having comparisons => comparisons.all fun comparison =>
      (record.value comparison.column == comparison.value) == comparison.equal
  | .unknown => false

/-- The columns of another table that a reference means. -/
def parentKey (reference : Reference) (parent : TableDefinition) : List String :=
  if reference.keys.isEmpty then parent.primary else reference.keys

/-- The values that a row refers to, in the columns of the other table. -/
def referred (reference : Reference) (parent : TableDefinition) (record : Record) : Record :=
  ((parentKey reference parent).zip reference.columns).map fun (key, column) =>
    (key, record.value column)

namespace Database

/-- The table that a reference means, which must have the key for it. -/
def parentOf (db : Database) (reference : Reference) : Except DatabaseFault TableDefinition :=
  match db.definition? reference.table with
  | none => .error .statement
  | some parent =>
    let key := parentKey reference parent
    if key.length = reference.columns.length ∧
        (db.keysOf parent).any fun columns =>
          columns.length == key.length && columns.all key.contains then .ok parent
    else .error .statement

/-- Fails if a row refers to a row that is not there. -/
def checkReferences (db : Database) (references : List Reference) (record : Record) :
    Except DatabaseFault Unit :=
  references.forM fun reference => do
    let parent ← db.parentOf reference
    let values := referred reference parent record
    if values.any (·.2 = .null) || (db.records parent.name).any (agree (values.map (·.1)) values)
    then .ok ()
    else .error .constraint

/-- The tables whose rows refer to a table. -/
def children (db : Database) (table : String) : List (TableDefinition × Reference) :=
  db.definitions.flatMap fun definition =>
    (definition.references.filter (·.table = table)).map fun reference => (definition, reference)

/-- Removes rows of a table, and the rows that go with them. The fuel bounds how far that goes. -/
def removeRecords (db : Database) (definition : TableDefinition) (isGone : Record → Bool) :
    (fuel : Nat) → Except DatabaseFault Database
  | 0 => .error .constraint
  | fuel + 1 =>
    let rows := db.records definition.name
    let gone := rows.filter isGone
    let left := db.withRecords definition.name (rows.filter fun row => !isGone row)
    (db.children definition.name).foldlM (fun db (child, reference) => do
      let parent ← db.parentOf reference
      let refers := fun (row : Record) =>
        let values := referred reference parent row
        gone.any (agree (values.map (·.1)) values)
      if !(db.records child.name).any refers then .ok db
      else if reference.cascades then db.removeRecords child refers fuel
      else .error .constraint) left

/-- How far the removal of rows can go: through every table once. -/
def removalDepth (db : Database) : Nat :=
  db.definitions.length + 1

/-- Removes selected rows of a table. -/
def deleteRecords (db : Database) (definition : TableDefinition) (selection : Selection) :
    Except DatabaseFault Database := do
  definition.references.forM fun reference => (db.parentOf reference).map fun _ => ()
  db.removeRecords definition (isSelected selection) db.removalDepth

/-- Whether rows with some values may not be written at all. -/
def isProtected (db : Database) (definition : TableDefinition) (record : Record) : Bool :=
  definition.name == TableName.packageRoots.text &&
    db.writeProtected.contains (textIn "repository" record)

/-- The number behind the last one in a column. -/
def nextNumber (db : Database) (definition : TableDefinition) (column : String) : Int :=
  (db.records definition.name).foldl
    (fun last record => max last (wholeNumber (record.value column))) 0 + 1

/-- A row with all of its columns: the values given, or else the default ones. -/
def completed (db : Database) (definition : TableDefinition) (given : Record) : Record :=
  definition.columns.map fun column =>
    let value := storedAs column ((given.lookup column.name).getD column.default)
    if definition.rowNumber = some column.name ∧ value = .null then
      (column.name, .integer (db.nextNumber definition column.name))
    else (column.name, value)

/-- Whether the values of a row may stand in its columns at all. -/
def fits (definition : TableDefinition) (record : Record) : Bool :=
  definition.columns.all fun column =>
    let value := record.value column.name
    (!column.notNull || value ≠ .null) &&
      (definition.rowNumber ≠ some column.name || (value matches .integer _))

/-- Inserts a row. -/
def insertRecord (db : Database) (definition : TableDefinition) (onConflict : OnConflict)
    (given : Record) : Except DatabaseFault Database := do
  definition.references.forM fun reference => (db.parentOf reference).map fun _ => ()
  let record := db.completed definition given
  let rivals := fun row => (db.keysOf definition).any fun key => agree key record row
  if !fits definition record then
    if onConflict = .ignore then return db else .error .constraint
  else if db.isProtected definition record then .error .constraint
  else
    let db ←
      if !(db.records definition.name).any rivals then pure db
      else
        match onConflict with
        | .abort => .error .constraint
        | .ignore => return db
        | .replace => db.removeRecords definition rivals db.removalDepth
    let db := db.withRecords definition.name (db.records definition.name ++ [record])
    db.checkReferences definition.references record
    return db

/-- Whether rows disagree pairwise in every key. -/
def keysDiffer (keys : List (List String)) : List Record → Bool
  | [] => true
  | row :: rest => !rest.any (fun other => keys.any fun key => agree key row other) &&
      keysDiffer keys rest

/-- Updates rows of a table. -/
def updateRecords (db : Database) (definition : TableDefinition) (onConflict : OnConflict)
    (values : Record) (selection : Selection) : Except DatabaseFault Database := do
  let rows := db.records definition.name
  let updated := fun (row : Record) =>
    definition.columns.map fun column =>
      (column.name, storedAs column ((values.lookup column.name).getD (row.value column.name)))
  let changed := (rows.filter (isSelected selection)).map updated
  let after := rows.map fun row => if isSelected selection row then updated row else row
  if changed.any (db.isProtected definition) then .error .constraint
  else if !changed.all (fits definition) || !keysDiffer (db.keysOf definition) after then
    if onConflict = .ignore then return db else .error .constraint
  else
    let written := db.withRecords definition.name after
    let touched := definition.references.filter fun reference =>
      reference.columns.any fun column => (values.lookup column).isSome
    changed.forM (written.checkReferences touched)
    (db.children definition.name).forM fun (child, reference) =>
      (written.records child.name).forM (written.checkReferences [reference])
    return written

end Database

end RegistryMend.Storage

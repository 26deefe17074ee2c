import RegistryMend.Storage.Database

/-! # Snapshots

The database between two runs is a document: the definitions of its tables and all else that was
created, and its rows as lists of cells.
-/

namespace RegistryMend.Storage

open RegistryMend.Json (Members Value)
open RegistryMend.Sql (Column IndexDefinition Literal Record Reference TableDefinition
  TriggerDefinition)

/-- The cell of a value. -/
def literalCell : Literal → Value
  | .null => .null
  | .integer n => .int n
  | .real d => .double d
  | .text s => .str s

/-- The value in a cell. -/
def ofLiteralCell? : Value → Option Literal
  | .null => some .null
  | .int n => some (.integer n)
  | .double d => some (.real d)
  | value => value.plainText?.map .text

/-- The cell of a list of names. -/
def namesCell (names : List String) : Value :=
  .arr (names.map fun (name : String) => .str name)

/-- The values of a list, read one by one. -/
def ofListCell? {α : Type} (read : Value → Option α) : Value → Option (List α)
  | .arr values => values.mapM read
  | _ => none

/-- The names in a cell. -/
def ofNamesCell? : Value → Option (List String) :=
  ofListCell? Value.plainText?

/-- The cells of a column. -/
def columnCells (column : Column) : Value :=
  .arr [.str column.name, namesCell column.type, .bool column.notNull, literalCell column.default]

/-- The column in cells. -/
def ofColumnCells? : Value → Option Column
  | .arr [name, type, .bool notNull, value] => do
    return { name := ← name.plainText?, type := ← ofNamesCell? type, notNull
             default := ← ofLiteralCell? value }
  | _ => none

/-- The cells of a reference. -/
def referenceCells (reference : Reference) : Value :=
  .arr [namesCell reference.columns, .str reference.table, namesCell reference.keys,
    .bool reference.cascades]

/-- The reference in cells. -/
def ofReferenceCells? : Value → Option Reference
  | .arr [columns, table, keys, .bool cascades] => do
    return { columns := ← ofNamesCell? columns, table := ← table.plainText?
             keys := ← ofNamesCell? keys, cascades }
  | _ => none

/-- The cells of the definition of a table. -/
def definitionCells (definition : TableDefinition) : Value :=
  .arr [.str definition.name, .arr (definition.columns.map columnCells),
    namesCell definition.primary,
    (definition.rowNumber.map fun (column : String) => Value.str column).getD .null,
    .arr (definition.unique.map namesCell), .arr (definition.references.map referenceCells)]

/-- The definition of a table in cells. -/
def ofDefinitionCells? : Value → Option TableDefinition
  | .arr [name, columns, primary, rowNumber, unique, references] => do
    return {
      name := ← name.plainText?
      columns := ← ofListCell? ofColumnCells? columns
      primary := ← ofNamesCell? primary
      rowNumber := rowNumber.plainText?
      unique := ← ofListCell? ofNamesCell? unique
      references := ← ofListCell? ofReferenceCells? references }
  | _ => none

/-- The cells of an index. -/
def indexCells (index : IndexDefinition) : Value :=
  .arr [.str index.name, .str index.table, namesCell index.columns, .bool index.isUnique]

/-- The index in cells. -/
def ofIndexCells? : Value → Option IndexDefinition
  | .arr [name, table, columns, .bool isUnique] => do
    return { name := ← name.plainText?, table := ← table.plainText?
             columns := ← ofNamesCell? columns, isUnique }
  | _ => none

/-- The cells of a trigger. -/
def triggerCells (trigger : TriggerDefinition) : Value :=
  .arr [.str trigger.name, .str trigger.table]

/-- The trigger in cells. -/
def ofTriggerCells? : Value → Option TriggerDefinition
  | .arr [name, table] => do return ⟨← name.plainText?, ← table.plainText?⟩
  | _ => none

/-- The cells of a row by column. -/
def recordCells (record : Record) : Value :=
  .arr (record.map fun (column, value) => .arr [.str column, literalCell value])

/-- The row by column in cells. -/
def ofRecordCells? : Value → Option Record :=
  ofListCell? fun
    | .arr [column, value] => do return (← column.plainText?, ← ofLiteralCell? value)
    | _ => none

/-- The cells of a table that is not used. -/
def otherCells (table : String × List Record) : Value :=
  .arr [.str table.1, .arr (table.2.map recordCells)]

/-- The table in cells that is not used. -/
def ofOtherCells? : Value → Option (String × List Record)
  | .arr [name, rows] => do return (← name.plainText?, ← ofListCell? ofRecordCells? rows)
  | _ => none

/-- The cells of a repository. -/
def RepositoryRow.cells (row : RepositoryRow) : Value :=
  .arr [.str row.name, .str row.format, .str row.type]

/-- The repository in cells. -/
def RepositoryRow.ofCells? : Value → Option RepositoryRow
  | .arr [name, format, type] => do
    return ⟨← name.plainText?, ← format.plainText?, ← type.plainText?⟩
  | _ => none

/-- The cells of the facts about a blob. -/
def BlobRow.cells (row : BlobRow) : Value :=
  .arr [.str row.ref, .str row.sha1, literalCell row.size]

/-- The facts about a blob in cells. -/
def BlobRow.ofCells? : Value → Option BlobRow
  | .arr [ref, sha1, size] => do
    return ⟨← ref.plainText?, ← sha1.plainText?, ← ofLiteralCell? size⟩
  | _ => none

/-- The cells of an asset. -/
def AssetRow.cells (row : AssetRow) : Value :=
  .arr [.int row.id, .str row.repository, .str row.name,
    (row.blobRef.map fun (ref : String) => Value.str ref).getD .null, .str row.attributes]

/-- The asset in cells. -/
def AssetRow.ofCells? : Value → Option AssetRow
  | .arr [.int id, repository, name, ref, attributes] => do
    return ⟨id, ← repository.plainText?, ← name.plainText?, ref.plainText?,
      ← attributes.plainText?⟩
  | _ => none

/-- The cells of a package root. -/
def RootRow.cells (row : RootRow) : Value :=
  .arr [.str row.repository, .str row.packageId, literalCell row.revision,
    .str row.document]

/-- The package root in cells. -/
def RootRow.ofCells? : Value → Option RootRow
  | .arr [repository, packageId, revision, document] => do
    return ⟨← repository.plainText?, ← packageId.plainText?, ← ofLiteralCell? revision,
      ← document.plainText?⟩
  | _ => none

@[simp] theorem plainText?_str (s : String) : (Value.str s).plainText? = some s :=
  WideText.plain?_ofString s

@[simp] theorem ofLiteralCell?_literalCell (value : Literal) :
    ofLiteralCell? (literalCell value) = some value := by
  cases value <;> simp [literalCell, ofLiteralCell?]

theorem RepositoryRow.ofCells?_cells (row : RepositoryRow) : ofCells? row.cells = some row := by
  simp [cells, ofCells?]

theorem BlobRow.ofCells?_cells (row : BlobRow) : ofCells? row.cells = some row := by
  simp [cells, ofCells?]

theorem AssetRow.ofCells?_cells (row : AssetRow) : ofCells? row.cells = some row := by
  obtain ⟨_, _, _, ref, _⟩ := row
  cases ref <;> simp [cells, ofCells?, Value.plainText?, Value.string?]

theorem RootRow.ofCells?_cells (row : RootRow) : ofCells? row.cells = some row := by
  simp [cells, ofCells?]

namespace Database

/-- The document of a database. -/
def snapshot (db : Database) : Members := [
  ("definitions", .arr (db.definitions.map definitionCells)),
  ("indexes", .arr (db.indexes.map indexCells)),
  ("views", namesCell db.views),
  ("triggers", .arr (db.triggers.map triggerCells)),
  ("repositories", .arr (db.repositories.rows.map RepositoryRow.cells)),
  ("blobs", .arr (db.blobs.rows.map BlobRow.cells)),
  ("assets", .arr (db.assets.rows.map AssetRow.cells)),
  ("package_roots", .arr (db.roots.rows.map RootRow.cells)),
  ("others", .arr (db.others.map otherCells)),
  ("write_protected", namesCell db.writeProtected)]

/-- The values of a list in a document, read one by one. -/
def readList? {α : Type} (read : Value → Option α) (key : WideText) (document : Members) :
    Option (List α) :=
  (document.find? key).bind (ofListCell? read)

/-- The database of a document. -/
def ofSnapshot? (document : Members) : Option Database := do
  let definitions ← readList? ofDefinitionCells? "definitions" document
  let indexes ← readList? ofIndexCells? "indexes" document
  let views ← readList? Value.plainText? "views" document
  let triggers ← readList? ofTriggerCells? "triggers" document
  let repositories ← readList? RepositoryRow.ofCells? "repositories" document
  let blobs ← readList? BlobRow.ofCells? "blobs" document
  let assets ← readList? AssetRow.ofCells? "assets" document
  let roots ← readList? RootRow.ofCells? "package_roots" document
  let others ← readList? ofOtherCells? "others" document
  let writeProtected ← readList? Value.plainText? "write_protected" document
  return {
    definitions, indexes, views, triggers, others, writeProtected
    repositories := repositories.foldl .put .empty
    blobs := blobs.foldl .put .empty
    assets := ← assets.foldlM AssetTable.insert? .empty
    roots := roots.foldl .put .empty }

end Database

end RegistryMend.Storage

import RegistryMend.Failure
import RegistryMend.Sql.Statement
import RegistryMend.Storage.Table

/-! # The database

Four tables hold the repositories, the recorded facts about blobs, the assets and the package
roots. A table that was not created yet, or without all of its columns, cannot be used. Writing to
the roots of a repository can be forbidden in the database itself. There may be other tables, which
are not used.
-/

namespace RegistryMend.Storage

open RegistryMend.Sql (Column IndexDefinition Literal Record TableDefinition TriggerDefinition)

/-- A repository as stored. -/
structure RepositoryRow where
  name : String
  format : String
  type : String
deriving DecidableEq, Repr

/-- The whole number that a value in a column counts as. A column of numbers keeps a text that is
none as it is. Of a number with places, those are cut off; one that is infinite counts as none. -/
def countOf : Literal → Except ValueFault Int
  | .null => .error .notNumber
  | .integer n => .ok n
  | .real d =>
    match d.wholeParts 1 with
    | some whole => .ok (Text.signed d.isNegative whole)
    | none => .error (if d.isNaN then .notNumber else .outOfRange)
  | .text s =>
    match Text.readInteger? s.toList with
    | some n => .ok n
    | none => .error .notNumber

/-- The recorded checksum and size of a blob. -/
structure BlobRow where
  ref : String
  sha1 : String
  size : Literal
deriving DecidableEq, Repr

/-- The size of a blob as a whole number. One that is not given counts as zero. -/
def BlobRow.sizeCount (row : BlobRow) : Except ValueFault Int :=
  if row.size.shown = "" then .ok 0 else countOf row.size

/-- An asset as stored. Its attributes are the text of a document. -/
structure AssetRow where
  id : Int
  repository : String
  name : String
  blobRef : Option String
  attributes : String
deriving DecidableEq, Repr

/-- The package root of a package in a repository, as stored. -/
structure RootRow where
  repository : String
  packageId : String
  revision : Literal
  document : String
deriving DecidableEq, Repr

/-- A package in a repository. -/
abbrev RootKey := String × String

/-- What a root belongs to. -/
def RootRow.key (row : RootRow) : RootKey :=
  (row.repository, row.packageId)

/-- Adds an asset in the order of ids. -/
def insertAsset (row : AssetRow) : List AssetRow → List AssetRow
  | [] => [row]
  | r :: rest => if row.id < r.id then row :: r :: rest else r :: insertAsset row rest

theorem mem_insertAsset {row other : AssetRow} {rows : List AssetRow} :
    other ∈ insertAsset row rows ↔ other = row ∨ other ∈ rows := by
  induction rows with
  | nil => simp [insertAsset]
  | cons r rest ih =>
    by_cases before : row.id < r.id
    · simp [insertAsset, before]
    · simp only [insertAsset, before, if_false, List.mem_cons, ih]
      grind

/-- The assets, in increasing order of their ids. -/
structure AssetTable where
  rows : List AssetRow
  increasing : rows.Pairwise (·.id < ·.id)
deriving Repr

namespace AssetTable

/-- The table without assets. -/
def empty : AssetTable := ⟨[], .nil⟩

/-- Whether an id is in use. -/
def holds (table : AssetTable) (id : Int) : Bool :=
  table.rows.any (·.id == id)

/-- Adds an asset whose id is not in use. -/
def insert (table : AssetTable) (row : AssetRow) (fresh : table.holds row.id = false) :
    AssetTable where
  rows := insertAsset row table.rows
  increasing := by
    have differ : ∀ r ∈ table.rows, r.id ≠ row.id := by simpa [holds] using fresh
    have sorted := table.increasing
    generalize table.rows = rows at differ sorted
    induction rows with
    | nil => simp [insertAsset]
    | cons r rest ih =>
      have tail := ih (fun s member => differ s (List.mem_cons_of_mem _ member))
        (List.pairwise_cons.mp sorted).2
      have above := (List.pairwise_cons.mp sorted).1
      have apart := differ r (List.mem_cons_self ..)
      by_cases before : row.id < r.id
      · simp only [insertAsset, before, if_true, List.pairwise_cons]
        refine ⟨fun s member => ?_, above, (List.pairwise_cons.mp sorted).2⟩
        rcases List.mem_cons.mp member with rfl | member
        · exact before
        · exact Int.lt_trans before (above s member)
      · simp only [insertAsset, before, if_false, List.pairwise_cons]
        refine ⟨fun s member => ?_, tail⟩
        rcases mem_insertAsset.mp member with rfl | member
        · omega
        · exact above s member

/-- Adds an asset, unless its id is in use. -/
def insert? (table : AssetTable) (row : AssetRow) : Option AssetTable :=
  if fresh : table.holds row.id = false then some (table.insert row fresh) else none

/-- The largest id so far, at least zero. -/
def lastId (table : AssetTable) : Int :=
  table.rows.foldl (fun last row => max last row.id) 0

end AssetTable

/-- The tables of the database. -/
inductive TableName where
  | repositories
  | blobs
  | assets
  | packageRoots
deriving DecidableEq, Repr

/-- All tables. -/
def TableName.all : List TableName := [repositories, blobs, assets, packageRoots]

/-- The name of a table. -/
def TableName.text : TableName → String
  | repositories => "repositories"
  | blobs => "blobs"
  | assets => "assets"
  | packageRoots => "package_roots"

/-- The table with a name. -/
def TableName.named? (name : String) : Option TableName :=
  all.find? fun table => table.text = name

theorem TableName.named?_text (table : TableName) : named? table.text = some table := by
  cases table <;> decide

/-- A column of texts that is never null. -/
def textColumn (name : String) : Column :=
  { name, type := ["text"], notNull := true }

/-- A column of whole numbers that is never null. -/
def countColumn (name : String) (default : Int) : Column :=
  { name, type := ["integer"], notNull := true, default := .integer default }

/-- A primary key of texts. -/
def textKey (name : String) : Column :=
  { name, type := ["text"] }

/-- That rows belong to a repository and are removed with it. -/
def belongsToRepository : Sql.Reference :=
  { columns := ["repository"], table := TableName.repositories.text, keys := ["name"]
    cascades := true }

/-- The definition of a table. -/
def TableName.definition (table : TableName) : TableDefinition :=
  match table with
  | repositories =>
    { name := table.text, primary := ["name"]
      columns := [textKey "name", textColumn "format", textColumn "type"] }
  | blobs =>
    { name := table.text, primary := ["ref"]
      columns := [textKey "ref", textColumn "sha1", countColumn "size" 0] }
  | assets =>
    { name := table.text, primary := ["id"], rowNumber := some "id"
      columns := [
        { name := "id", type := ["integer"] }, textColumn "repository", textColumn "name",
        { name := "blob_ref", type := ["text"] },
        { textColumn "attributes" with default := .text "\x7b\x7d" }]
      references := [belongsToRepository] }
  | packageRoots =>
    { name := table.text, primary := ["repository", "package_id"]
      columns := [textColumn "repository", textColumn "package_id", countColumn "revision" 1,
        textColumn "document", textColumn "updated_at"]
      references := [belongsToRepository] }

/-- The database. -/
structure Database where
  /-- The definitions of the tables that exist. -/
  definitions : List TableDefinition := []
  indexes : List IndexDefinition := []
  /-- The names of the views. -/
  views : List String := []
  triggers : List TriggerDefinition := []
  repositories : Table RepositoryRow (·.name) := .empty
  blobs : Table BlobRow (·.ref) := .empty
  assets : AssetTable := .empty
  roots : Table RootRow RootRow.key := .empty
  /-- The rows of other tables by name. -/
  others : List (String × List Record) := []
  /-- The repositories whose package roots may not be written. -/
  writeProtected : List String := []
deriving Repr

namespace Database

/-- A database without tables. -/
def blank : Database := {}

/-- A database with all tables and no rows. -/
def fresh : Database := { definitions := TableName.all.map TableName.definition }

/-- The definition of a table that exists. -/
def definition? (db : Database) (name : String) : Option TableDefinition :=
  db.definitions.find? fun definition => definition.name = name

/-- Whether a table exists with all of its columns. -/
def holds (db : Database) (table : TableName) : Bool :=
  (db.definition? table.text).any fun definition =>
    table.definition.columnNames.all definition.hasColumn

/-- Fails if a table cannot be used. -/
def require (db : Database) (table : TableName) : Except DatabaseFault Unit :=
  if db.holds table then .ok () else .error .statement

/-- The repositories, in the order of their names. -/
def repositoryRows (db : Database) : Except DatabaseFault (List RepositoryRow) := do
  db.require .repositories
  return db.repositories.rows.mergeSort fun a b => decide (a.name ≤ b.name)

/-- The first assets behind a cursor in some repositories, in the order of their ids. Without a
limit all of them are given. -/
def assetRows (db : Database) (repositories : List String) (cursor : Int) (limit : Option Nat) :
    Except DatabaseFault (List AssetRow) := do
  db.require .assets
  let rows := db.assets.rows.filter fun row => cursor < row.id && row.repository ∈ repositories
  return match limit with
  | none => rows
  | some n => rows.take n

/-- The recorded facts about a blob. -/
def blobRow? (db : Database) (ref : String) : Except DatabaseFault (Option BlobRow) := do
  db.require .blobs
  return db.blobs.find? ref

/-- The stored root of a package. -/
def rootRow? (db : Database) (key : RootKey) : Except DatabaseFault (Option RootRow) := do
  db.require .packageRoots
  return db.roots.find? key

/-- Whether no two rows of a table agree in some columns. -/
def hasKey (db : Database) (table : TableName) (columns : List String) : Bool :=
  (db.definition? table.text).any fun definition =>
    definition.hasKey columns || db.indexes.any fun index =>
      index.isUnique && index.table == definition.name &&
        index.columns.length == columns.length && index.columns.all columns.contains

/-- Whether every package root needs its repository. -/
def bindsRoots (db : Database) : Bool :=
  (db.definition? TableName.packageRoots.text).any fun definition =>
    definition.references.any fun reference =>
      reference.table == TableName.repositories.text && reference.columns == ["repository"]

/-- Fails if the root of a package cannot be found by its key, or its repository by its name. -/
def requireRootKey (db : Database) : Except DatabaseFault Unit :=
  if db.hasKey .packageRoots ["repository", "package_id"] &&
      (!db.bindsRoots || db.hasKey .repositories ["name"]) then .ok ()
  else .error .statement

/-- Writes the root of a package, if its revision fits into the column. A new row needs its
repository. -/
def writeRoot (db : Database) (row : RootRow) : Except Failure Database := do
  (db.require .packageRoots).mapError .database
  db.requireRootKey.mapError .database
  if !row.revision.fits then .error (.value .outOfRange)
  else if row.repository ∈ db.writeProtected then .error (.database .constraint)
  else if db.roots.holds row.key || !db.bindsRoots || db.repositories.holds row.repository then
    .ok { db with roots := db.roots.put row }
  else .error (.database .constraint)

@[simp] theorem holds_fresh (table : TableName) : fresh.holds table = true := by
  cases table <;> decide

end Database

end RegistryMend.Storage

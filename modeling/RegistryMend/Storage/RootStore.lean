import RegistryMend.Json.Canonical
import RegistryMend.Package.Root
import RegistryMend.Storage.UnitOfWork

/-! # Stores of package roots

A store gives and takes the package roots of a repository. The store in the database keeps each
root as canonical text beside its revision, and the document repeats the revision under `_rev`. A
write may be guarded by the revision that it expects. The store in memory keeps documents alone.
-/

namespace RegistryMend.Storage

open RegistryMend.Json (Members Value)
open RegistryMend.Package (Root)

/-- How package roots are read from states of type `σ` and written to them. A write that fails
leaves the state as it was. -/
structure RootStore (σ : Type) where
  get : String → Package.Id → σ → Except Failure (Option Root)
  put : String → Package.Id → Option String → Root → σ → Except Failure σ

/-- A document with the text of a revision. -/
def withRevision (revision : String) (root : Root) : Root :=
  Members.insert Root.revisionKey (.str revision) root

/-- Reads the text of a document as a package root. -/
def readRoot (packageId text : String) : Except Failure Root :=
  match Value.read text with
  | .error e => .error (.rootUnreadable packageId (.json e))
  | .ok (.obj members) => .ok members
  | .ok _ => .error (.rootUnreadable packageId .notObject)

/-- The revision of a row as it is shown. -/
def RootRow.revisionShown (row : RootRow) : String :=
  if row.revision = .null then "None" else row.revision.shown

/-- The package root in a row. -/
def RootRow.root (row : RootRow) : Except Failure Root :=
  (readRoot row.packageId row.document).map (withRevision row.revisionShown)

/-- The text of the revision of a row, or of its absence. -/
def revisionText (revision : Option Int) : String :=
  (revision.map Decimal.integerText).getD "None"

/-- Whether a row may be written, given the revision that is expected. -/
def guardAccepts (expected : Option String) (revision : Option Int) : Bool :=
  expected.all fun text => revisionText revision == text

/-- The row that a write leaves behind, given the revision so far. -/
def nextRow (key : RootKey) (revision : Option Int) (root : Root) : RootRow :=
  let next := revision.getD 0 + 1
  ⟨key.1, key.2, .integer next, (Value.obj (withRevision (Decimal.integerText next) root)).canonical⟩

@[simp] theorem find?_withRevision (revision : String) (root : Root) :
    Members.find? Root.revisionKey (withRevision revision root) = some (.str revision) := by
  simp [withRevision]

@[simp] theorem guardAccepts_none (revision : Option Int) : guardAccepts none revision = true :=
  rfl

@[simp] theorem guardAccepts_some {expected : String} {revision : Option Int} :
    guardAccepts (some expected) revision = true ↔ revisionText revision = expected := by
  simp [guardAccepts]

namespace Database

/-- The package root of a package, if it has a row. -/
def getRoot (db : Database) (key : RootKey) : Except Failure (Option Root) :=
  match db.rootRow? key with
  | .error fault => .error (.database fault)
  | .ok none => .ok none
  | .ok (some row) => row.root.map some

/-- The revision that a write goes on from, if there is a row. -/
def revisionOf : Option RootRow → Except Failure (Option Int)
  | none => .ok none
  | some row =>
    match countOf row.revision with
    | .error fault => .error (.value fault)
    | .ok revision => .ok (some revision)

/-- Writes the package root of a package with the next revision. -/
def putRoot (db : Database) (key : RootKey) (expected : Option String) (root : Root) :
    Except Failure Database :=
  match db.rootRow? key with
  | .error fault => .error (.database fault)
  | .ok row =>
    match revisionOf row with
    | .error failure => .error failure
    | .ok revision =>
      if guardAccepts expected revision then db.writeRoot (nextRow key revision root)
      else .error (.conflict key.2 (expected.getD "") (revision.map Decimal.integerText))

/-- The key of a package, which has a form in UTF-8. -/
def keyFor (db : Database) (repository : String) (id : Package.Id) : Except Failure RootKey :=
  match id.text.plain? with
  | some packageId => .ok (repository, packageId)
  | none =>
    match db.require .packageRoots with
    | .error fault => .error (.database fault)
    | .ok _ => .error (.value .notEncodable)

end Database

/-- The store in the database, as a unit of work sees it. -/
def databaseRoots : RootStore UnitOfWork where
  get repository id unit := do
    unit.current.getRoot (← unit.current.keyFor repository id)
  put repository id expected root unit := do
    let db ← unit.current.putRoot (← unit.current.keyFor repository id) expected root
    return unit.write db

/-- A write to the store in memory. -/
structure RootWrite where
  packageId : WideText
  expected : Option String
  document : Root

/-- Package roots in memory, with the writes so far. Reading or writing may be out of order. -/
structure RootMemory where
  /-- The texts of the documents by package id. -/
  documents : List (WideText × String)
  writes : List RootWrite := []
  getFault : Option FileFault := none
  putFault : Option FileFault := none

namespace RootMemory

/-- The document of a package. A null stands for none. -/
def get (memory : RootMemory) (packageId : WideText) : Except Failure (Option Root) :=
  match memory.getFault, memory.documents.lookup packageId with
  | some fault, _ => .error (.file fault)
  | none, none => .ok none
  | none, some text =>
    match Value.read text with
    | .ok .null => .ok none
    | .ok value => .ok (some value.members)
    | .error e => .error (.document e)

/-- Replaces the document of a package. -/
def put (memory : RootMemory) (packageId : WideText) (expected : Option String) (root : Root) :
    Except Failure RootMemory :=
  match memory.putFault with
  | some fault => .error (.file fault)
  | none => .ok { memory with
      documents := Assoc.insert packageId (Value.obj root).canonical memory.documents
      writes := memory.writes ++ [⟨packageId, expected, root⟩] }

end RootMemory

/-- The store in memory; it keeps the roots of one repository. -/
def memoryRoots : RootStore RootMemory where
  get _ id memory := memory.get id.text
  put _ id expected root memory := memory.put id.text expected root

end RegistryMend.Storage

import RegistryMend.Storage.Database

/-! # Filling tables

Rows can be put into the tables directly, without regard to the repositories that they name.
-/

namespace RegistryMend.Storage

/-- The largest id of an asset. -/
def largestAssetId : Int := 0x7fffffffffffffff

namespace Database

/-- Adds a repository under a new name. -/
def addRepository (db : Database) (row : RepositoryRow) : Except DatabaseFault Database := do
  db.require .repositories
  match db.repositories.insert? row with
  | none => .error .constraint
  | some repositories => .ok { db with repositories }

/-- Records the facts about a blob, in place of earlier ones. -/
def recordBlob (db : Database) (row : BlobRow) : Except DatabaseFault Database := do
  db.require .blobs
  .ok { db with blobs := db.blobs.put row }

/-- Adds an asset under a new id: the given one, or the one behind the largest id so far. -/
def addAsset (db : Database) (id : Option Int) (repository name : String)
    (blobRef : Option String) (attributes : String) : Except DatabaseFault (Int × Database) := do
  db.require .assets
  let last := db.assets.lastId
  if id.isNone && last == largestAssetId then .error .statement
  else
    let id := id.getD (last + 1)
    match db.assets.insert? ⟨id, repository, name, blobRef, attributes⟩ with
    | none => .error .constraint
    | some assets => .ok (id, { db with assets })

/-- Puts a package root into its row. -/
def fillRoot (db : Database) (row : RootRow) : Except DatabaseFault Database := do
  db.require .packageRoots
  if row.repository ∈ db.writeProtected then .error .constraint
  else .ok { db with roots := db.roots.put row }

/-- Forbids writing to the package roots of a repository. -/
def protectRoots (db : Database) (repository : String) : Except DatabaseFault Database := do
  db.require .packageRoots
  .ok { db with writeProtected := repository :: db.writeProtected }

/-- Allows writing to all package roots again. -/
def unprotectRoots (db : Database) : Database :=
  { db with writeProtected := [] }

end Database

end RegistryMend.Storage

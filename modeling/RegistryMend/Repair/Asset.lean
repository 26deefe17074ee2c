import RegistryMend.Json.Display
import RegistryMend.Storage.Database
import RegistryMend.Text.Casing

/-! # Repositories and assets

A repository is hosted, a proxy or a group. An asset is something that a repository holds; its
attributes say of which kind it is.
-/

namespace RegistryMend.Repair

open RegistryMend.Json (Members Value)
open RegistryMend.Storage (AssetRow RepositoryRow)

/-- The types of repositories. -/
inductive RepositoryType where
  | hosted
  | proxy
  | group
deriving DecidableEq, Repr

/-- The type with a name. -/
def RepositoryType.named? : String → Option RepositoryType
  | "hosted" => some hosted
  | "proxy" => some proxy
  | "group" => some group
  | _ => none

/-- The name of a type. -/
def RepositoryType.name : RepositoryType → String
  | hosted => "hosted"
  | proxy => "proxy"
  | group => "group"

/-- A repository. -/
structure Repository where
  name : String
  format : String
  type : RepositoryType
deriving DecidableEq, Repr

namespace Repository

/-- Whether a repository is repaired when packages of a format are. -/
def matchesFormat (repository : Repository) (format : String) : Bool :=
  repository.format == format && repository.type == .hosted

/-- A text without blanks around it in lower case. -/
def plain (text : String) : String :=
  Text.lowerCase (Text.trim text)

/-- The repository in a row, if its type is known. -/
def ofRow? (row : RepositoryRow) : Option Repository :=
  (RepositoryType.named? (plain row.type)).map fun type => ⟨row.name, plain row.format, type⟩

end Repository

/-- An asset. -/
structure Asset where
  id : Int
  repository : String
  name : String
  blobRef : Option String
  attributes : Members

/-- Reads the attributes of an asset. Blank text and values other than objects hold none. -/
def readAttributes (text : String) : Except Json.ReadError Members :=
  if Text.allBlank text then .ok []
  else (Value.readBounded text.toList).map Value.members

namespace Asset

/-- The kind of an asset, empty if it is not given. -/
def kind (asset : Asset) : WideText :=
  asset.attributes.givenText "asset_kind"

/-- The kind of assets that are tarballs. -/
def tarballKind : String := "TARBALL"

/-- Whether an asset is a tarball. -/
def isTarball (asset : Asset) : Bool :=
  asset.kind == tarballKind

/-- The asset in a row. -/
def ofRow (row : AssetRow) : Except Failure Asset :=
  match readAttributes row.attributes with
  | .ok attributes => .ok ⟨row.id, row.repository, row.name, row.blobRef, attributes⟩
  | .error e => .error (.document e)

/-- The blob that is checked against the package root: that of a tarball that has one. -/
def checkedBlob? (asset : Asset) : Option String :=
  if asset.isTarball then asset.blobRef.filter (· ≠ "") else none

end Asset

end RegistryMend.Repair

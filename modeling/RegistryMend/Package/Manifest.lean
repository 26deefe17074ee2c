import RegistryMend.Archive.Tar
import RegistryMend.Package.Root
import RegistryMend.Text.Blank

/-! # Manifests

The manifest of a package is the first file `package.json` in the top directory of its tarball. It
is a JSON object with a name and a version that are not blank.
-/

namespace RegistryMend.Package

open RegistryMend.Archive (Entry Tar)
open RegistryMend.Json (Members Value)

/-- The name of the file with the manifest. -/
def manifestFile : List UInt8 := RegistryMend.Archive.asciiBytes "package.json"

/-- The largest manifest in bytes. -/
def largestManifest : Int := 16 * 1024 * 1024

/-- A name without a dot and a slash before it. -/
def withoutDotSlash : List UInt8 → List UInt8
  | 46 :: 47 :: rest => rest
  | name => name

/-- Whether a name has two parts of which the second is that of the manifest. -/
def isManifestName (name : List UInt8) : Bool :=
  match (withoutDotSlash name).splitOn 47 with
  | [_, file] => file == manifestFile
  | _ => false

/-- Whether a member is the manifest. -/
def isManifest (entry : Entry) : Bool :=
  entry.kind.isFile && isManifestName entry.name

/-- A fault of an archive as the reason for having no manifest. Damage within the data of a member
is not taken as one. -/
def archiveFailure : ArchiveFault → Failure
  | .unreadable => .manifest (.unreadable (.archive .unreadable)) none
  | fault => .archive fault

/-- The bytes of the manifest in a tarball. -/
def manifestBytes (tarball : List UInt8) : Except Failure (List UInt8) :=
  let archive := Tar.ofBytes tarball
  let bound := archive.headerBound
  match Tar.find isManifest bound bound archive with
  | .error fault => .error (archiveFailure fault)
  | .ok (none, _) => .error (.manifest .absent none)
  | .ok (some entry, archive) =>
    if largestManifest < entry.size then .error (.manifest (.tooLarge entry.size) none)
    else
      match Tar.readData entry archive with
      | .error fault => .error (archiveFailure fault)
      | .ok (bytes, _) => .ok bytes

/-- Bytes without the mark that may stand before UTF-8 text. -/
def withoutMark : List UInt8 → List UInt8
  | 0xef :: 0xbb :: 0xbf :: rest => rest
  | bytes => bytes

/-- A document that cannot be read as the reason for having no manifest. One that is nested too deeply
is not taken as one. -/
def documentFailure : Json.ReadError → Failure
  | .tooDeep => .document .tooDeep
  | error => .manifest (.invalid (.json error)) none

/-- The document in the bytes of a manifest. -/
def manifestDocument (bytes : List UInt8) : Except Failure Members :=
  match Text.utf8Chars? (withoutMark bytes) with
  | none => .error (.manifest (.invalid .notText) none)
  | some text =>
    match Value.readBounded text with
    | .error e => .error (documentFailure e)
    | .ok (.obj members) => .ok members
    | .ok _ => .error (.manifest .notObject none)

/-- The text under a key, if it is not blank. -/
def requiredText (key : String) (manifest : Members) : Except Failure WideText :=
  match manifest.find? key with
  | some (.str text) =>
    if text.allBlank then .error (.manifest (.missingField key) none) else .ok text
  | _ => .error (.manifest (.missingField key) none)

/-- The manifest in bytes, with its name and its version. -/
def manifestOfBytes (bytes : List UInt8) : Except Failure (Members × WideText × WideText) := do
  let manifest ← manifestDocument bytes
  let name ← requiredText Root.nameKey manifest
  let version ← requiredText Root.versionKey manifest
  return (manifest, name, version)

/-- The manifest in a tarball, with its name and its version. -/
def readManifest (tarball : List UInt8) : Except Failure (Members × WideText × WideText) := do
  manifestOfBytes (← manifestBytes tarball)

end RegistryMend.Package

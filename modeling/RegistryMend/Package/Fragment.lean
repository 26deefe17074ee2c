import RegistryMend.Json.Display
import RegistryMend.Package.Id
import RegistryMend.Package.Root

/-! # The package root of a single version

The manifest in a tarball becomes a package root that knows one version. The name, the version id
and the place and checksum of the tarball are set, whatever the manifest says about them.
-/

namespace RegistryMend.Package

open RegistryMend.Json (Members Value)

/-- The name that a manifest gives. -/
def manifestName (manifest : Members) : WideText :=
  manifest.givenText Root.nameKey

/-- The version that a manifest gives. -/
def manifestVersion (manifest : Members) : WideText :=
  manifest.givenText Root.versionKey

/-- What a root says about one version: the fields of the manifest, an id, and the checksum and
place of the tarball. -/
def versionEntry (manifest : Members) (id : Id) (version : WideText) (repository sha1 : String) :
    Members :=
  let named := manifest.insert Root.idKey (.str (id.text ++ "@" ++ version))
  named.updateChild Root.distKey fun dist =>
    (dist.insert Root.shasumKey (.str sha1)).insert Root.tarballKey
      (.str (repository ++ "/" ++ id.tarballPath version))

/-- The root of the single version that a manifest describes. -/
def fragmentFor (manifest : Members) (id : Id) (version : WideText) (repository sha1 : String) :
    Root := [
  (Root.idKey, .str id.text),
  (Root.nameKey, .str id.text),
  (Root.tagsKey, .obj [(Root.latestKey, .str version)]),
  (Root.versionsKey, .obj [(version, .obj (versionEntry manifest id version repository sha1))])]

/-- The root of the single version that a manifest describes, if the name in it is an id. -/
def fragment (manifest : Members) (repository sha1 : String) : Except IdProblem Root := do
  let id ← Id.parse (manifestName manifest)
  return fragmentFor manifest id (manifestVersion manifest) repository sha1

end RegistryMend.Package

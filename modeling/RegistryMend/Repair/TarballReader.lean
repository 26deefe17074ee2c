import RegistryMend.Package.Manifest
import RegistryMend.Repair.Reconcile

/-! # Reading manifests from tarballs

The manifest is read from the content of a blob. A blob that cannot be opened or read is an
unreadable tarball.
-/

namespace RegistryMend.Repair

open RegistryMend.Storage (Opening)

/-- Reads the manifest in a tarball and reports its name and version. -/
def tarballReader : ManifestReader := fun (opening : Opening) =>
  match opening.bind Storage.Stream.content with
  | .error fault => .error (.manifest (.unreadable (.file fault)) none)
  | .ok tarball => do
    let (manifest, name, version) ← Package.readManifest tarball
    return (manifest, [.manifestRead name version])

end RegistryMend.Repair

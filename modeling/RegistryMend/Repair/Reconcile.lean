import RegistryMend.Package.Fragment
import RegistryMend.Package.Merge
import RegistryMend.Repair.Asset
import RegistryMend.Repair.Integrity
import RegistryMend.Storage.RootStore

/-! # Reconciling a package root with a tarball

The stored root of a package is corrected if its checksum for a version differs from the one that
is recorded for the tarball. A root is never created. An integrity text is hashed anew if the
stored root has one for the version.
-/

namespace RegistryMend.Repair

open RegistryMend.Json (Members)
open RegistryMend.Package (Id Root)
open RegistryMend.Storage (Blob Opening RootStore)

/-- How the manifest is read from what an opening of a tarball gives, with what is to be reported
about it. -/
abbrev ManifestReader := Opening → Except Failure (Members × List Event)

/-- The version of a package that a tarball holds. -/
structure Release where
  id : Id
  version : WideText
  fragment : Root

/-- The release that a manifest describes. -/
def releaseOf (repository : String) (asset : Asset) (blob : Blob) (manifest : Members) :
    Except Failure Release :=
  match Id.parse (Package.manifestName manifest) with
  | .error problem => .error (.manifest (.badName problem) (some asset.name))
  | .ok id =>
    let version := Package.manifestVersion manifest
    .ok ⟨id, version, Package.fragmentFor manifest id version repository blob.sha1⟩

/-- A root with the integrity of a version hashed anew, if the stored root has one for it. -/
def withIntegrity {σ : Type} (asset : Asset) (blob : Blob) (version : WideText)
    (stored merged : Root) : Work σ Root :=
  match Root.distText? version Root.integrityKey stored with
  | none => return merged
  | some integrity =>
    if integrity = "" then return merged
    else do
      let text ← recalculate asset.name blob (Digest.integrityTag integrity)
      return Root.updateDist version (Members.insert Root.integrityKey (.str text)) merged

/-- Corrects the stored root of a release, if it is there and has another checksum. The result is
the stored checksum if the root was corrected. -/
def correct {σ : Type} (roots : RootStore σ) (repository : String) (asset : Asset) (blob : Blob)
    (release : Release) : Work σ (Option (Option WideText)) := do
  match ← Work.ofExcept (roots.get repository release.id (← Work.store)) with
  | none => return none
  | some stored =>
    let old := Root.distText? release.version Root.shasumKey stored
    if old = some ↑blob.sha1 then return none
    else
      let merged := Package.merge stored release.fragment
      let root ← withIntegrity asset blob release.version stored merged
      let store ← Work.ofExcept (roots.put repository release.id none root (← Work.store))
      Work.setStore store
      return some old

/-- Whether a failure concerns the one asset at hand and does not end the batch. -/
def staysWithAsset : Failure → Bool
  | .rootUnreadable .. => true
  | failure => failure.isFileFault

/-- Brings the stored root of a tarball's package in line with the tarball. Says whether the root
was corrected. -/
def reconcile {σ : Type} (roots : RootStore σ) (reader : ManifestReader) (repository : String)
    (asset : Asset) (blob : Blob) : Work σ Bool := do
  let (manifest, events) ← Work.ofExcept (reader (← Work.openBlob blob))
  events.forM Work.report
  let release ← Work.ofExcept (releaseOf repository asset blob manifest)
  match ← Work.attempt (correct roots repository asset blob release) with
  | .ok none => return false
  | .ok (some old) =>
    Work.report (.rootRepaired repository release.id.text release.version old blob.sha1)
    return true
  | .error failure =>
    if staysWithAsset failure then
      Work.report (.updateFailed asset.name failure)
      return false
    else throw failure

end RegistryMend.Repair

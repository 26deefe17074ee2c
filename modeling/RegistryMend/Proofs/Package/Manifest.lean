import RegistryMend.Package.Manifest
import RegistryMend.Proofs.Json.Storable

/-! # Manifests that are read

A manifest is read from text, so it can be stored as it is.
-/

namespace RegistryMend.Package

open RegistryMend.Json (Members Value)

theorem storable_manifestDocument {bytes : List UInt8} {manifest : Members}
    (read : manifestDocument bytes = .ok manifest) : manifest.Storable := by
  rw [manifestDocument] at read
  split at read
  · cases read
  · split at read
    · cases read
    · next members found =>
      cases read
      exact Json.storable_readWithin found
    · cases read

theorem storable_manifestOfBytes {bytes : List UInt8} {manifest : Members}
    {name version : WideText} (read : manifestOfBytes bytes = .ok (manifest, name, version)) :
    manifest.Storable := by
  rw [manifestOfBytes] at read
  cases document : manifestDocument bytes with
  | error problem => rw [document] at read; cases read
  | ok found =>
    rw [document] at read
    dsimp only [bind, Except.bind] at read
    split at read
    · cases read
    · split at read
      · cases read
      · cases read
        exact storable_manifestDocument document

theorem storable_readManifest {tarball : List UInt8} {manifest : Members} {name version : WideText}
    (read : readManifest tarball = .ok (manifest, name, version)) : manifest.Storable := by
  rw [readManifest] at read
  cases found : manifestBytes tarball with
  | error failure => rw [found] at read; cases read
  | ok bytes =>
    rw [found] at read
    cases manifests : manifestOfBytes bytes with
    | error problem =>
      dsimp only [bind, Except.bind] at read
      rw [manifests] at read
      cases read
    | ok triple =>
      dsimp only [bind, Except.bind] at read
      rw [manifests] at read
      cases read
      exact storable_manifestOfBytes manifests

end RegistryMend.Package

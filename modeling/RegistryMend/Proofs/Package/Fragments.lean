import RegistryMend.Proofs.Package.Merge

/-! # What a fragment says

A manifest comes from outside and may have any fields. All of them are carried over into the entry
of its version, but for the id of the version and for the checksum and the place of its tarball,
which are set whatever stood there. Nothing of it reaches the fields beside the versions.
-/

namespace RegistryMend.Package

open RegistryMend.Json (Members Value)

/-! ## Putting a fragment together -/

/-- Copies the fields of one object into another. -/
def copyInto (target source : Members) : Members :=
  source.foldl (fun target field => target.insert field.1 field.2) target

/-- The root of a single version, put together step by step: an empty entry is made, the fields of
the manifest are copied into it in their order, and then the id of the version and the facts about
its tarball are set. -/
def assembled (manifest : Members) (id : Id) (version : WideText) (repository sha1 : String) : Root :=
  let named : Root := [
    (Root.idKey, .str id.text),
    (Root.nameKey, .str id.text),
    (Root.tagsKey, .obj [(Root.latestKey, .str version)])]
  Members.updateChild Root.versionsKey (Members.updateChild version fun entry =>
    let copied := copyInto entry manifest
    let identified := copied.insert Root.idKey (.str (id.text ++ "@" ++ version))
    identified.updateChild Root.distKey fun dist =>
      (dist.insert Root.shasumKey (.str sha1)).insert Root.tarballKey
        (.str (repository ++ "/" ++ id.tarballPath version))) named

/-- Copying fields that are new adds them in their order. -/
theorem copyInto_eq_append {target source : Members}
    (distinct : (Assoc.keys (target ++ source)).Nodup) :
    copyInto target source = target ++ source := by
  induction source generalizing target with
  | nil => exact (List.append_nil target).symm
  | cons field rest ih =>
    obtain ⟨key, value⟩ := field
    have fresh := Assoc.notMem_keys_of_nodup distinct
    have step : copyInto target ((key, value) :: rest) =
        copyInto (target.insert key value) rest := rfl
    rw [step, Members.insert, Assoc.insert_of_notMem fresh, ih (by simpa using distinct),
      List.append_assoc, List.singleton_append]

section

variable {manifest : Members} {id : Id} {version : WideText} {repository sha1 : String}

/-- Step by step the same fragment comes about. -/
theorem assembled_eq (distinct : (Assoc.keys manifest).Nodup) :
    assembled manifest id version repository sha1 =
      fragmentFor manifest id version repository sha1 := by
  have copied : copyInto [] manifest = manifest := copyInto_eq_append distinct
  have versions : Members.child Root.versionsKey [(Root.idKey, .str id.text),
      (Root.nameKey, .str id.text), (Root.tagsKey, .obj [(Root.latestKey, .str version)])] = [] :=
    rfl
  have entry : Members.child version [] = [] := rfl
  rw [assembled, Members.updateChild, versions, Members.updateChild, entry, copied]
  rfl

/-! ## The facts about a version -/

theorem find?_versionEntry_id :
    (versionEntry manifest id version repository sha1).find? Root.idKey =
      some (.str (id.text ++ "@" ++ version)) := by
  rw [versionEntry, Members.updateChild, Members.find?, Members.insert,
    Assoc.lookup_insert_of_ne (by decide), Members.insert, Assoc.lookup_insert_self]

/-- All other fields are those of the manifest. -/
theorem find?_versionEntry_of_ne {key : WideText} (noId : key ≠ Root.idKey)
    (noDist : key ≠ Root.distKey) :
    (versionEntry manifest id version repository sha1).find? key = manifest.find? key := by
  rw [versionEntry, Members.updateChild, Members.find?, Members.insert,
    Assoc.lookup_insert_of_ne noDist, Members.insert, Assoc.lookup_insert_of_ne noId,
    Members.find?]

theorem entryDist_eq : entryDist manifest id version repository sha1 =
    ((manifest.child Root.distKey).insert Root.shasumKey (.str sha1)).insert Root.tarballKey
      (.str (repository ++ "/" ++ id.tarballPath version)) := by
  have spared : (manifest.insert Root.idKey (.str (id.text ++ "@" ++ version))).child Root.distKey =
      manifest.child Root.distKey := by
    rw [Members.child, Members.child, Members.find?, Members.insert,
      Assoc.lookup_insert_of_ne (by decide), Members.find?]
  rw [entryDist, versionEntry, Members.child_updateChild_self, spared]

theorem find?_entryDist_tarball :
    (entryDist manifest id version repository sha1).find? Root.tarballKey =
      some (.str (repository ++ "/" ++ id.tarballPath version)) := by
  rw [entryDist_eq, Members.find?, Members.insert, Assoc.lookup_insert_self]

/-- All other facts about the tarball are those of the manifest. -/
theorem find?_entryDist_of_ne {key : WideText} (noShasum : key ≠ Root.shasumKey)
    (noTarball : key ≠ Root.tarballKey) :
    (entryDist manifest id version repository sha1).find? key =
      (manifest.child Root.distKey).find? key := by
  rw [entryDist_eq, Members.find?, Members.insert, Assoc.lookup_insert_of_ne noTarball,
    Members.insert, Assoc.lookup_insert_of_ne noShasum, Members.find?]

end

/-! ## Fragments -/

/-- A root says of a version what its manifest does, and names the package, the version, and the
checksum and place of the tarball itself. -/
structure Describes (manifest : Members) (id : Id) (version : WideText) (repository sha1 : String)
    (root : Root) (entry dist : Members) : Prop where
  keys : Assoc.keys root = (["_id", "name", "dist-tags", "versions"] : List WideText)
  rootId : Members.find? "_id" root = some (.str id.text)
  rootName : Members.find? "name" root = some (.str id.text)
  tags : Members.find? "dist-tags" root = some (.obj [("latest", .str version)])
  versions : Members.find? "versions" root = some (.obj [(version, .obj entry)])
  entryId : entry.find? "_id" = some (.str (id.text ++ "@" ++ version))
  entryDist : entry.find? "dist" = some (.obj dist)
  entryOthers : ∀ key : WideText, key ≠ "_id" → key ≠ "dist" → entry.find? key = manifest.find? key
  shasum : dist.find? "shasum" = some (.str sha1)
  tarball : dist.find? "tarball" =
    some (.str (repository ++ "/" ++ id.text ++ "/-/" ++ id.name ++ "-" ++ version ++ ".tgz"))
  distOthers : ∀ key : WideText, key ≠ "shasum" → key ≠ "tarball" →
    dist.find? key = match manifest.find? "dist" with
      | some (.obj inner) => Members.find? key inner
      | _ => none
  /-- No field stands twice if none does in the manifest. -/
  distinct : (Assoc.keys manifest).Nodup → (Assoc.keys entry).Nodup
  distDistinct : (∀ inner, manifest.find? "dist" = some (.obj inner) → (Assoc.keys inner).Nodup) →
    (Assoc.keys dist).Nodup
  found : Root.distText? version "shasum" root = some ↑sha1

theorem describes_fragmentFor (manifest : Members) (id : Id) (version : WideText) (repository sha1 : String) :
    Describes manifest id version repository sha1
      (fragmentFor manifest id version repository sha1)
      (versionEntry manifest id version repository sha1)
      (entryDist manifest id version repository sha1) where
  keys := rfl
  rootId := rfl
  rootName := rfl
  tags := rfl
  versions := rfl
  entryId := find?_versionEntry_id
  entryDist := find?_versionEntry
  entryOthers := fun key noId noDist => find?_versionEntry_of_ne noId noDist
  shasum := find?_entryDist
  tarball := by
    have place : repository ++ "/" ++ id.tarballPath version =
        repository ++ "/" ++ id.text ++ "/-/" ++ id.name ++ "-" ++ version ++ ".tgz" := by
      simp only [Id.tarballPath, Id.tarballName, WideText.append_assoc]
    rw [← place]
    exact find?_entryDist_tarball
  distOthers := by
    intro key noShasum noTarball
    apply (find?_entryDist_of_ne noShasum noTarball).trans
    rw [Members.child, Root.distKey]
    cases manifest.find? "dist" with
    | none => rfl
    | some value => cases value <;> rfl
  distinct := by
    intro distinct
    rw [versionEntry]
    apply Assoc.nodup_keys_insert
    exact Assoc.nodup_keys_insert distinct _ _
  distDistinct := by
    intro distinct
    have inner : (Assoc.keys (manifest.child Root.distKey)).Nodup := by
      rw [Members.child]
      cases found : manifest.find? Root.distKey with
      | none => exact List.nodup_nil
      | some value =>
        cases value with
        | obj members => exact distinct members found
        | _ => exact List.nodup_nil
    rw [entryDist_eq]
    apply Assoc.nodup_keys_insert
    exact Assoc.nodup_keys_insert inner _ _
  found := by
    have dist : Root.dist version (fragmentFor manifest id version repository sha1) =
        entryDist manifest id version repository sha1 := by
      have versions : Members.child Root.versionsKey
          (fragmentFor manifest id version repository sha1) =
            [(version, .obj (versionEntry manifest id version repository sha1))] := rfl
      have entry : Members.child version
          [(version, .obj (versionEntry manifest id version repository sha1))] =
            versionEntry manifest id version repository sha1 := by
        simp [Members.child, Value.object?]
      rw [Root.dist, versions, entry, Package.entryDist]
    rw [Root.distText?, dist]
    exact congrArg (Option.bind · Value.string?) find?_entryDist

/-- Whatever a manifest says, the root that is made of it has the id of the package, the checksum
and the place that are given. It comes about step by step, each field of the manifest being copied
before the others are set. -/
theorem fragment_describes {manifest : Members} {id : Id}
    (named : Id.parse (manifestName manifest) = .ok id) (repository sha1 : String) :
    ∃ root entry dist, fragment manifest repository sha1 = .ok root ∧
      Describes manifest id (manifestVersion manifest) repository sha1 root entry dist ∧
      ((Assoc.keys manifest).Nodup →
        root = assembled manifest id (manifestVersion manifest) repository sha1) := by
  refine ⟨_, _, _, ?_, describes_fragmentFor manifest id _ repository sha1, ?_⟩
  · rw [fragment, named]
    rfl
  · intro distinct
    exact (assembled_eq distinct).symm

/-- A manifest that claims another id, checksum and place, and has fields of a package root. -/
def forgedManifest : Members := [
  ("_id", .str "b@2"), ("_rev", .int 7), ("name", .str " @s/a "), ("dist-tags", .arr []),
  ("dist", .obj [("tarball", .null), ("integrity", .str "x"), ("shasum", .str "f")]),
  ("versions", .bool true), ("version", .str "1")]

theorem fragment_describes_forged : ∃ id root entry dist,
    Id.parse (manifestName forgedManifest) = .ok id ∧
    fragment forgedManifest "r" "e" = .ok root ∧
    Describes forgedManifest id (manifestVersion forgedManifest) "r" "e" root entry dist ∧
    Root.distText? "1" "shasum" root = some ("e" : WideText) := by
  have named : Id.parse (manifestName forgedManifest) =
      .ok ⟨some "s", "a", by decide, by decide⟩ := by decide +kernel
  obtain ⟨root, entry, dist, made, describes, -⟩ := fragment_describes named "r" "e"
  have version : manifestVersion forgedManifest = "1" := by decide +kernel
  have found := describes.found
  rw [version] at found
  exact ⟨_, root, entry, dist, named, made, describes, found⟩

end RegistryMend.Package

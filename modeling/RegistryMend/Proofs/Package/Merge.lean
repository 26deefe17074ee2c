import RegistryMend.Package.Fragment
import RegistryMend.Package.Merge
import RegistryMend.Proofs.Json.ReadBack

/-! # What a merge leaves behind

Laying a fragment over a stored root sets what the fragment says about its version and changes
nothing that is said about the tarball of another one. Roots stay such that they can be stored.
-/

namespace RegistryMend.Package

open RegistryMend.Json (Members MembersStorable Value)

/-! ## Overlays -/

mutual

/-- Laying values that can be stored over one another gives such a value. -/
theorem storable_overlayValue : ∀ {value : Value} {stored : Option Value}, value.Storable →
    (∀ below ∈ stored, below.Storable) → (overlayValue stored value).Storable
  | .obj top, none, new, _ => new
  | .obj top, some (.obj below), new, old => by
    rw [overlayValue]
    exact storable_overlay new.2 (old _ rfl)
  | .obj top, some .null, new, _ => new
  | .obj top, some (.bool _), new, _ => new
  | .obj top, some (.int _), new, _ => new
  | .obj top, some (.double _), new, _ => new
  | .obj top, some (.str _), new, _ => new
  | .obj top, some (.arr _), new, _ => new
  | .null, _, new, _ => new
  | .bool _, _, new, _ => new
  | .int _, _, new, _ => new
  | .double _, _, new, _ => new
  | .str _, _, new, _ => new
  | .arr _, _, new, _ => new

theorem storable_overlay : ∀ {top : List (WideText × Value)} {below : Members}, MembersStorable top →
    below.Storable → (overlay below top).Storable
  | [], _, _, old => old
  | (key, value) :: rest, below, ⟨new, others⟩, old => by
    rw [overlay]
    refine storable_overlay others (old.insert (storable_overlayValue new fun stored found => ?_) key)
    exact old.find? (Option.mem_def.mp found)

end

/-- What a key has after an overlay. -/
theorem find?_overlay {top : Members} (distinct : (Assoc.keys top).Nodup) (below : Members)
    (key : WideText) : (overlay below top).find? key =
      match top.find? key with
      | none => below.find? key
      | some value => some (overlayValue (below.find? key) value) := by
  induction top generalizing below with
  | nil => rfl
  | cons member rest ih =>
    obtain ⟨k, v⟩ := member
    rw [Assoc.keys_cons, List.nodup_cons] at distinct
    rw [overlay, ih distinct.2]
    by_cases same : key = k
    · subst same
      simp [Assoc.lookup_of_notMem distinct.1]
    · have later : Members.find? key ((k, v) :: rest) = Members.find? key rest := by
        rw [Members.find?, Members.find?, List.lookup_cons, beq_false_of_ne same]
      rw [later, Members.find?, Members.find?, Assoc.lookup_insert_of_ne same]

theorem find?_overlay_of_none {top : Members} (distinct : (Assoc.keys top).Nodup)
    (below : Members) {key : WideText} (absent : top.find? key = none) :
    (overlay below top).find? key = below.find? key := by
  rw [find?_overlay distinct, absent]

/-- Laying over nothing gives the value itself. -/
theorem overlayValue_none (value : Value) : overlayValue none value = value := by
  cases value <;> rfl

theorem overlay_append {top below : Members} (distinct : (Assoc.keys (below ++ top)).Nodup) :
    overlay below top = below ++ top := by
  induction top generalizing below with
  | nil => rw [overlay, List.append_nil]
  | cons member rest ih =>
    obtain ⟨key, value⟩ := member
    have fresh := Assoc.notMem_keys_of_nodup distinct
    rw [overlay, Members.find?, Assoc.lookup_of_notMem fresh, overlayValue_none, Members.insert,
      Assoc.insert_of_notMem fresh, ih (by simpa using distinct), List.append_assoc]
    rfl

/-- An object on top is laid over the object below it, whatever is there. -/
theorem child_overlay {top inner : Members} (distinct : (Assoc.keys top).Nodup) (below : Members)
    {key : WideText} (found : top.find? key = some (.obj inner))
    (distinct_ : (Assoc.keys inner).Nodup) :
    (overlay below top).child key = overlay (below.child key) inner := by
  have alone : overlay [] inner = inner := overlay_append distinct_
  rw [Members.child, Members.child, find?_overlay distinct, found]
  cases below.find? key with
  | none => exact alone.symm
  | some value =>
    cases value with
    | obj stored => rfl
    | _ => exact alone.symm

theorem child_overlay_of_none {top : Members} (distinct : (Assoc.keys top).Nodup)
    (below : Members) {key : WideText} (absent : top.find? key = none) :
    (overlay below top).child key = below.child key := by
  rw [Members.child, Members.child, find?_overlay_of_none distinct below absent]

/-! ## Versions -/

/-- What a document says about the tarball of a version depends on its versions alone. -/
theorem dist_congr {first second : Root}
    (same : Members.child Root.versionsKey first = Members.child Root.versionsKey second)
    (version : WideText) : Root.dist version first = Root.dist version second := by
  rw [Root.dist, Root.dist, same]

theorem child_merge (stored fragment : Root) :
    Members.child Root.versionsKey (merge stored fragment) =
      Members.child Root.versionsKey (overlay stored fragment) := by
  rw [merge]
  split
  · rfl
  · exact Members.child_updateChild_of_ne (by decide) _ _

theorem dist_updateDist_of_ne {version other : WideText} (differ : other ≠ version)
    (change : Members → Members) (root : Root) :
    Root.dist other (Root.updateDist version change root) = Root.dist other root := by
  rw [Root.dist, Root.dist, Root.updateDist, Members.child_updateChild_self,
    Members.child_updateChild_of_ne differ]

/-- A fact that is set leaves the others about the tarball as they are. -/
theorem distText?_updateDist_insert_of_ne {key other : WideText} (differ : key ≠ other)
    (version : WideText) (value : Value) (root : Root) :
    Root.distText? version key (Root.updateDist version (Members.insert other value) root) =
      Root.distText? version key root := by
  rw [Root.distText?, Root.dist_updateDist_self, Members.find?, Members.insert,
    Assoc.lookup_insert_of_ne differ]
  rfl

variable {manifest : Members} {id : Id} {version : WideText} {repository sha1 : String}

/-- What the entry of a version says about its tarball. -/
def entryDist (manifest : Members) (id : Id) (version : WideText) (repository sha1 : String) : Members :=
  Members.child Root.distKey (versionEntry manifest id version repository sha1)

theorem find?_versionEntry : (versionEntry manifest id version repository sha1).find? Root.distKey =
    some (.obj (entryDist manifest id version repository sha1)) := by
  simp [entryDist, versionEntry, Members.updateChild, Members.child, Json.Value.object?]

theorem find?_entryDist : (entryDist manifest id version repository sha1).find? Root.shasumKey =
    some (.str sha1) := by
  rw [entryDist, versionEntry, Members.child_updateChild_self, Members.find?,
    Assoc.lookup_insert_of_ne (by decide), Assoc.lookup_insert_self]

theorem storable_str (s : WideText) : (Value.str s).Storable := trivial

theorem storable_versionEntry (storable : manifest.Storable) :
    (versionEntry manifest id version repository sha1).Storable := by
  have named := storable.insert (storable_str (id.text ++ "@" ++ version)) Root.idKey
  have dist := ((named.child Root.distKey).insert (storable_str sha1) Root.shasumKey).insert
    (storable_str (repository ++ "/" ++ id.tarballPath version)) Root.tarballKey
  exact named.insert dist Root.distKey

theorem distinct_entryDist (storable : manifest.Storable) :
    (Assoc.keys (entryDist manifest id version repository sha1)).Nodup :=
  (Members.storable_iff.mp ((storable_versionEntry storable).child Root.distKey)).1

theorem keys_fragmentFor : Assoc.keys (fragmentFor manifest id version repository sha1) =
    ([Root.idKey, Root.nameKey, Root.tagsKey, Root.versionsKey] : List WideText) := rfl

theorem distinct_fragmentFor :
    (Assoc.keys (fragmentFor manifest id version repository sha1)).Nodup := by
  rw [keys_fragmentFor]
  decide

theorem find?_fragmentFor :
    Members.find? Root.versionsKey (fragmentFor manifest id version repository sha1) =
      some (.obj [(version, .obj (versionEntry manifest id version repository sha1))]) := rfl

theorem storable_fragmentFor (storable : manifest.Storable) :
    Members.Storable (fragmentFor manifest id version repository sha1) := by
  have one (key : WideText) {value : Value} (inner : value.Storable) :
      Members.Storable [(key, value)] :=
    Members.storable_nil.insert inner key
  refine ⟨distinct_fragmentFor, trivial, trivial, ?_, ?_, trivial⟩
  · exact one Root.latestKey trivial
  · exact one version (storable_versionEntry storable)

/-- The versions of a merged root are the stored ones with the entry laid over them. -/
theorem child_merge_fragmentFor (stored : Root) : Members.child Root.versionsKey
    (merge stored (fragmentFor manifest id version repository sha1)) =
      overlay (Members.child Root.versionsKey stored)
        [(version, .obj (versionEntry manifest id version repository sha1))] := by
  rw [child_merge, child_overlay distinct_fragmentFor stored find?_fragmentFor (by simp)]

/-- The merged root says about the version what its entry does, laid over what was stored. -/
theorem dist_merge_self (storable : manifest.Storable) (stored : Root) :
    Root.dist version (merge stored (fragmentFor manifest id version repository sha1)) =
      overlay (Root.dist version stored) (entryDist manifest id version repository sha1) := by
  have entry : (versionEntry manifest id version repository sha1).Storable :=
    storable_versionEntry storable
  have distinct := (Members.storable_iff.mp entry).1
  have found : Members.find? version
      [(version, Value.obj (versionEntry manifest id version repository sha1))] =
        some (.obj (versionEntry manifest id version repository sha1)) := by simp
  rw [Root.dist, child_merge_fragmentFor, child_overlay (by simp) _ found distinct,
    child_overlay distinct _ find?_versionEntry (distinct_entryDist storable)]
  rfl

/-- The merged root has the checksum of the fragment. -/
theorem distText?_merge_self (storable : manifest.Storable) (stored : Root) :
    Root.distText? version Root.shasumKey
      (merge stored (fragmentFor manifest id version repository sha1)) = some ↑sha1 := by
  have entry : (versionEntry manifest id version repository sha1).Storable :=
    storable_versionEntry storable
  have distinct : (Assoc.keys (entryDist manifest id version repository sha1)).Nodup :=
    (Members.storable_iff.mp (entry.child Root.distKey)).1
  rw [Root.distText?, dist_merge_self storable, find?_overlay distinct, find?_entryDist]
  rfl

/-- A merge changes nothing that is said about the tarball of another version. -/
theorem dist_merge_of_ne {other : WideText} (differ : other ≠ version) (stored : Root) :
    Root.dist other (merge stored (fragmentFor manifest id version repository sha1)) =
      Root.dist other stored := by
  have absent : Members.find? other
      [(version, Value.obj (versionEntry manifest id version repository sha1))] = none := by
    simp [differ]
  rw [Root.dist, Root.dist, child_merge_fragmentFor, child_overlay_of_none (by simp) _ absent]

theorem storable_merge {stored fragment : Root} (old : Members.Storable stored)
    (new : Members.Storable fragment) : Members.Storable (merge stored fragment) := by
  have merged := storable_overlay new.2 old
  rw [merge]
  split
  · exact merged
  · exact merged.updateChild ((merged.child _).insert (storable_str _) _)

theorem storable_updateDist {version : WideText} {change : Members → Members} {root : Root}
    (storable : Members.Storable root) (kept : (change (Root.dist version root)).Storable) :
    Members.Storable (Root.updateDist version change root) :=
  storable.updateChild ((storable.child _).updateChild (((storable.child _).child _).updateChild kept))

theorem storable_dist {root : Root} (storable : Members.Storable root) (version : WideText) :
    (Root.dist version root).Storable :=
  ((storable.child _).child _).child _

/-- Sorting the keys of a document changes no text about a tarball. -/
theorem distText?_sorted {root : Root} (storable : Members.Storable root) (version key : WideText) :
    Root.distText? version key root.sorted = Root.distText? version key root := by
  have distinct {members : Members} (storable : members.Storable) :=
    (Members.storable_iff.mp storable).1
  rw [Root.distText?, Root.distText?, Root.dist, Members.child_sorted (distinct storable),
    Members.child_sorted (distinct (storable.child _)),
    Members.child_sorted (distinct ((storable.child _).child _)),
    Members.find?_sorted (distinct (((storable.child _).child _).child _)), Root.dist]
  cases Members.find? key (((Members.child Root.versionsKey root).child version).child
      Root.distKey) with
  | none => rfl
  | some value => exact Value.string?_sorted value

/-! ## Documents alike but for one field -/

/-- Two documents have the same under every key but one. -/
def SameBut (key : WideText) (first second : Members) : Prop :=
  ∀ field, field ≠ key → first.find? field = second.find? field

section

variable {key : WideText} {first second : Members}

theorem sameBut_insert (key : WideText) (value : Value) (members : Members) :
    SameBut key (members.insert key value) members :=
  fun _ other => Assoc.lookup_insert_of_ne other value members

theorem SameBut.child (same : SameBut key first second) {field : WideText} (other : field ≠ key) :
    first.child field = second.child field := by
  rw [Members.child, Members.child, same field other]

theorem SameBut.overlay {top : Members} (distinct : (Assoc.keys top).Nodup)
    (same : SameBut key first second) : SameBut key (overlay first top) (overlay second top) := by
  intro field other
  rw [find?_overlay distinct, find?_overlay distinct, same field other]

theorem SameBut.updateChild (same : SameBut key first second) {field : WideText}
    (other : field ≠ key) (change : Members → Members) :
    SameBut key (first.updateChild field change) (second.updateChild field change) := by
  intro name other_
  have found : first.lookup name = second.lookup name := same name other_
  rw [Members.updateChild, Members.updateChild, same.child other, Members.find?, Members.find?,
    Assoc.lookup_insert, Assoc.lookup_insert, found]

/-- A merge carries a field over that it does not look at. -/
theorem SameBut.merge {fragment : Root} (distinct : (Assoc.keys fragment).Nodup)
    (same : SameBut key first second) (apart : Root.tagsKey ≠ key) :
    SameBut key (merge first fragment) (merge second fragment) := by
  have tag : latestTag first = latestTag second := by
    rw [latestTag, latestTag, same.child apart]
  rw [Package.merge, Package.merge, tag]
  split
  · exact same.overlay distinct
  · exact (same.overlay distinct).updateChild apart _

theorem SameBut.updateDist (same : SameBut key first second) (apart : Root.versionsKey ≠ key)
    (version : WideText) (change : Members → Members) :
    SameBut key (Root.updateDist version change first) (Root.updateDist version change second) :=
  same.updateChild apart _

end

end RegistryMend.Package

import RegistryMend.Proofs.Json.Alike
import RegistryMend.Proofs.Package.Merge

/-! # What is kept of a root

When versions are written into a stored root, the other versions, the other tags and all fields that
are not about the package itself are kept. Of a version that was there before, the fields that
the manifest does not have are kept as well. Values are compared up to the order of keys, since a
root is stored with sorted keys.
-/

namespace RegistryMend.Package

open RegistryMend.Json (Alike Members Value)

/-- What is kept of a stored root when some versions are written that carry some fields. -/
structure Root.Keeps (named : WideText → Prop) (carried : WideText → WideText → Prop)
    (stored root : Root) : Prop where
  fields : ∀ key, key ∉ ([idKey, nameKey, tagsKey, versionsKey, revisionKey] : List WideText) →
    Alike (Members.find? key stored) (Members.find? key root)
  versions : ∀ version, ¬named version →
    Alike ((Members.child versionsKey stored).find? version)
      ((Members.child versionsKey root).find? version)
  tags : ∀ tags, Members.find? tagsKey stored = some (.obj tags) →
    ∃ kept, Members.find? tagsKey root = some (.obj kept) ∧
      (∀ tag : WideText, tag ≠ latestKey → Alike (Members.find? tag tags) (Members.find? tag kept)) ∧
      ∀ latest : WideText, latest ≠ "" → Members.find? latestKey tags = some (.str latest) →
        Members.find? latestKey kept = some (.str latest)
  entries : ∀ version entry,
    (Members.child versionsKey stored).find? version = some (.obj entry) →
      ∃ kept, (Members.child versionsKey root).find? version = some (.obj kept) ∧
        ∀ field : WideText, field ≠ idKey → field ≠ distKey → ¬carried version field →
          Alike (Members.find? field entry) (Members.find? field kept)

/-! ## Keeping in general -/

section

variable {named : WideText → Prop} {carried : WideText → WideText → Prop} {stored middle root : Root}

theorem Root.Keeps.refl (root : Root) : Root.Keeps named carried root root where
  fields _ _ := rfl
  versions _ _ := rfl
  tags tags found := ⟨tags, found, fun _ _ => rfl, fun _ _ => id⟩
  entries _ entry found := ⟨entry, found, fun _ _ _ _ => rfl⟩

theorem Root.Keeps.trans (first : Root.Keeps named carried stored middle)
    (second : Root.Keeps named carried middle root) : Root.Keeps named carried stored root where
  fields key other := (first.fields key other).trans (second.fields key other)
  versions version unnamed := (first.versions version unnamed).trans (second.versions version unnamed)
  tags tags found := by
    obtain ⟨between, found_, others, latest⟩ := first.tags tags found
    obtain ⟨kept, found__, others_, latest_⟩ := second.tags between found_
    exact ⟨kept, found__, fun tag differ => (others tag differ).trans (others_ tag differ),
      fun text given stored => latest_ text given (latest text given stored)⟩
  entries version entry found := by
    obtain ⟨between, found_, fields⟩ := first.entries version entry found
    obtain ⟨kept, found__, fields_⟩ := second.entries version between found_
    exact ⟨kept, found__, fun field noId noDist free =>
      (fields field noId noDist free).trans (fields_ field noId noDist free)⟩

/-- A root that differs in the facts about the package itself alone is kept. -/
theorem Root.Keeps.of_eq (same : ∀ key, key ∉ ([idKey, nameKey, revisionKey] : List WideText) →
    Members.find? key root = Members.find? key stored) : Root.Keeps named carried stored root where
  fields key other := .of_eq (same key fun member => other (by
    simp only [List.mem_cons, List.not_mem_nil, or_false] at member ⊢
    tauto)).symm
  versions version _ := by
    rw [Members.child, Members.child, same versionsKey (by decide)]
    exact .of_eq rfl
  tags tags found := by
    rw [same tagsKey (by decide)]
    exact (@Root.Keeps.refl named carried stored).tags tags found
  entries version entry found := by
    rw [Members.child, same versionsKey (by decide)]
    exact (@Root.Keeps.refl named carried stored).entries version entry found

/-- Sorting keys loses nothing. -/
theorem Root.keeps_sorted (storable : Members.Storable root) :
    Root.Keeps named carried root root.sorted := by
  have distinct {members : Members} (storable : members.Storable) :=
    (Members.storable_iff.mp storable).1
  have versions := Members.child_sorted (distinct storable) versionsKey
  have inner := distinct (storable.child versionsKey)
  constructor
  · exact fun key _ => Members.alike_sorted (distinct storable) key
  · intro version _
    rw [versions]
    exact Members.alike_sorted inner version
  · intro tags found
    have distinct_ := distinct (storable.find? found)
    refine ⟨Members.sorted tags, ?_, fun tag _ => Members.alike_sorted distinct_ tag,
      fun latest _ given => ?_⟩
    · rw [Members.find?_sorted (distinct storable), found]
      rfl
    · rw [Members.find?_sorted distinct_, given]
      rfl
  · intro version entry found
    refine ⟨Members.sorted entry, ?_, fun field _ _ _ =>
      Members.alike_sorted (distinct ((storable.child versionsKey).find? found)) field⟩
    rw [versions, Members.find?_sorted inner, found]
    rfl

end

/-! ## Writing a version -/

section

variable {named : WideText → Prop} {carried : WideText → WideText → Prop} {manifest : Members} {id : Id}
  {version : WideText} {repository sha1 : String}

/-- An entry has no fields but those of the manifest, its id and what it says about the tarball. -/
theorem find?_versionEntry_of_absent {field : WideText} (noId : field ≠ Root.idKey)
    (noDist : field ≠ Root.distKey) (absent : manifest.find? field = none) :
    (versionEntry manifest id version repository sha1).find? field = none := by
  rw [versionEntry, Members.updateChild, Members.find?, Assoc.lookup_insert_of_ne noDist,
    Assoc.lookup_insert_of_ne noId]
  exact absent

/-- A merge keeps the stored tags. The tag `latest` is kept only if it is a text that is not empty. -/
theorem tags_merge {stored : Root} {tags : Members}
    (found : Members.find? Root.tagsKey stored = some (.obj tags)) :
    ∃ kept, Members.find? Root.tagsKey
        (merge stored (fragmentFor manifest id version repository sha1)) = some (.obj kept) ∧
      (∀ tag : WideText, tag ≠ Root.latestKey → Members.find? tag kept = Members.find? tag tags) ∧
      ∀ latest : WideText, latest ≠ "" → Members.find? Root.latestKey tags = some (.str latest) →
        Members.find? Root.latestKey kept = some (.str latest) := by
  have tagged : Members.find? Root.tagsKey (fragmentFor manifest id version repository sha1) =
      some (.obj [(Root.latestKey, .str version)]) := rfl
  have laid : Members.find? Root.tagsKey
      (overlay stored (fragmentFor manifest id version repository sha1)) =
        some (.obj (tags.insert Root.latestKey (.str version))) := by
    rw [find?_overlay distinct_fragmentFor, tagged, found]
    rfl
  have latest_ {latest : WideText} (given : Members.find? Root.latestKey tags = some (.str latest)) :
      latestTag stored = latest := by
    rw [latestTag, Members.child, found]
    change Members.givenText Root.latestKey tags = latest
    rw [Members.givenText, given, Option.map_some, Value.givenText_str]
    rfl
  rw [merge]
  split
  · next blank =>
    refine ⟨_, laid, fun tag differ => Assoc.lookup_insert_of_ne differ .., fun latest some_ given => ?_⟩
    -- A tag that is given does not count as blank.
    rw [latest_ given, keptTag, if_neg some_] at blank
    exact absurd blank some_
  · refine ⟨_, Assoc.lookup_insert_self .., fun tag differ => ?_, fun latest some_ given => ?_⟩
    · rw [Members.child, laid, Members.find?, Assoc.lookup_insert_of_ne differ]
      exact Assoc.lookup_insert_of_ne differ ..
    · rw [latest_ given, keptTag, if_neg some_]
      exact Assoc.lookup_insert_self ..

/-- A merge keeps a root but for the version and the fields that the manifest carries. -/
theorem keeps_merge (storable : manifest.Storable) (names : named version)
    (carries : ∀ field, (manifest.find? field).isSome → carried version field) (stored : Root) :
    Root.Keeps named carried stored
      (merge stored (fragmentFor manifest id version repository sha1)) := by
  have entry : (versionEntry manifest id version repository sha1).Storable :=
    storable_versionEntry storable
  have single : (Assoc.keys [(version, Value.obj
      (versionEntry manifest id version repository sha1))]).Nodup := List.nodup_singleton _
  have apart (version_ : WideText) (unnamed : ¬named version_) : version_ ≠ version := by
    rintro rfl
    exact unnamed names
  have other {version_ : WideText} (differ : version_ ≠ version) :
      Members.find? version_ (Members.child Root.versionsKey
        (merge stored (fragmentFor manifest id version repository sha1))) =
          Members.find? version_ (Members.child Root.versionsKey stored) := by
    rw [child_merge_fragmentFor, find?_overlay_of_none single]
    simp [differ]
  constructor
  · intro key free
    have absent : Members.find? key (fragmentFor manifest id version repository sha1) = none := by
      refine Assoc.lookup_of_notMem fun member => free ?_
      rw [keys_fragmentFor] at member
      simp only [List.mem_cons, List.not_mem_nil, or_false] at member ⊢
      tauto
    have noTags : key ≠ Root.tagsKey := fun same => free (by simp [same])
    rw [merge]
    split
    · rw [find?_overlay_of_none distinct_fragmentFor _ absent]
      exact .of_eq rfl
    · rw [Members.updateChild, Members.find?, Members.find?, Assoc.lookup_insert_of_ne noTags]
      exact .of_eq (find?_overlay_of_none distinct_fragmentFor _ absent).symm
  · exact fun version_ unnamed => .of_eq (other (apart version_ unnamed)).symm
  · intro tags found
    obtain ⟨kept, merged, others, latest⟩ := tags_merge found
    exact ⟨kept, merged, fun tag differ => .of_eq (others tag differ).symm, latest⟩
  · intro version_ stored_ found
    by_cases same : version_ = version
    · subst same
      refine ⟨overlay stored_ (versionEntry manifest id version_ repository sha1), ?_,
        fun field noId noDist free => .of_eq (find?_overlay_of_none
          (Members.storable_iff.mp entry).1 _ (find?_versionEntry_of_absent noId noDist ?_)).symm⟩
      · rw [child_merge_fragmentFor, find?_overlay single, found]
        simp [overlayValue]
      · exact Option.not_isSome_iff_eq_none.mp fun given => free (carries field given)
    · exact ⟨stored_, (other same).trans found, fun _ _ _ _ => .of_eq rfl⟩

/-- A change of what is said about the tarball of a version keeps all else. -/
theorem keeps_updateDist (names : named version) (change : Members → Members) (root : Root) :
    Root.Keeps named carried root (Root.updateDist version change root) := by
  have elsewhere {key : WideText} (differ : key ≠ Root.versionsKey) :
      Members.find? key (Root.updateDist version change root) = Members.find? key root :=
    Assoc.lookup_insert_of_ne differ ..
  have versions : Members.child Root.versionsKey (Root.updateDist version change root) =
      Members.updateChild version (Members.updateChild Root.distKey change)
        (Members.child Root.versionsKey root) :=
    Members.child_updateChild_self ..
  have apart (version_ : WideText) (unnamed : ¬named version_) : version_ ≠ version := by
    rintro rfl
    exact unnamed names
  have other {version_ : WideText} (differ : version_ ≠ version) :
      Members.find? version_ (Members.child Root.versionsKey (Root.updateDist version change root)) =
        Members.find? version_ (Members.child Root.versionsKey root) := by
    rw [versions]
    exact Assoc.lookup_insert_of_ne differ ..
  constructor
  · exact fun key free => .of_eq (elsewhere fun same => free (by simp [same])).symm
  · exact fun version_ unnamed => .of_eq (other (apart version_ unnamed)).symm
  · rw [elsewhere (by decide)]
    exact (@Root.Keeps.refl named carried root).tags
  · intro version_ stored found
    by_cases same : version_ = version
    · subst same
      refine ⟨Members.updateChild Root.distKey change stored, ?_, fun field _ noDist _ =>
        .of_eq (Assoc.lookup_insert_of_ne noDist ..).symm⟩
      rw [versions, Members.updateChild, Members.child, found]
      exact Assoc.lookup_insert_self ..
    · exact ⟨stored, (other same).trans found, fun _ _ _ _ => .of_eq rfl⟩

end

end RegistryMend.Package

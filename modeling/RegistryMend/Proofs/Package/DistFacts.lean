import RegistryMend.Proofs.Package.Paths

/-! # Setting a fact about a tarball

What a document says about the tarball of a version is set by putting objects in the place of
whatever stands on the way there, and read by following a path that may end anywhere. The two fit
together: a text that is set is read again, and every other one is read as before. Beside the path
nothing changes, whatever stood on it, and making room where there is room changes nothing at all.
-/

namespace RegistryMend.Package

open RegistryMend.Json (Members Value)

/-! ## Objects under a key -/

/-- What a path finds below a key it finds in the object that is taken to stand there. -/
theorem at?_child (key inner : WideText) (rest : List WideText) (members : Members) :
    (Value.obj (members.child key)).at? (inner :: rest) =
      (Value.obj members).at? (key :: inner :: rest) := by
  rw [Members.child, Value.at?_obj_cons members]
  cases Members.find? key members with
  | none => rfl
  | some value => cases value <;> rfl

/-- A path that goes on below a key goes through an object. -/
theorem find?_of_at? {key inner : WideText} {rest : List WideText} {members : Members} {value : Value}
    (found : (Value.obj members).at? (key :: inner :: rest) = some value) :
    members.find? key = some (.obj (members.child key)) := by
  rw [Value.at?_obj_cons, Option.bind_eq_some_iff] at found
  obtain ⟨below, here, found⟩ := found
  cases below with
  | obj below =>
    rw [Members.child, here]
    rfl
  | _ => cases found

theorem at?_singleton (key : WideText) (members : Members) :
    (Value.obj members).at? [key] = members.find? key :=
  Option.bind_fun_some _

theorem at?_updateChild_self (key : WideText) (change : Members → Members) (members : Members)
    (rest : List WideText) : (Value.obj (members.updateChild key change)).at? (key :: rest) =
      (Value.obj (change (members.child key))).at? rest :=
  at?_insert_self ..

theorem at?_updateChild_of_ne {key first : WideText} (differ : first ≠ key)
    (change : Members → Members) (members : Members) (rest : List WideText) :
    (Value.obj (members.updateChild key change)).at? (first :: rest) =
      (Value.obj members).at? (first :: rest) :=
  at?_insert_of_ne differ ..

/-- Where an object stands already, a change that keeps it changes nothing. -/
theorem updateChild_of_find? {key : WideText} {members : Members} {change : Members → Members}
    (found : members.find? key = some (.obj (members.child key)))
    (same : change (members.child key) = members.child key) :
    members.updateChild key change = members := by
  rw [Members.updateChild, same]
  exact Assoc.insert_of_lookup found

/-! ## The path to the facts -/

/-- The path to what a document says about the tarball of a version. -/
def Root.distPath (version : WideText) : List WideText :=
  [versionsKey, version, distKey]

section

variable {version : WideText} {root : Root}

theorem at?_dist (key : WideText) (rest : List WideText) :
    (Value.obj (Root.dist version root)).at? (key :: rest) =
      (Value.obj root).at? (Root.distPath version ++ key :: rest) := by
  rw [Root.dist, at?_child, at?_child, at?_child]
  rfl

theorem at?_updateDist_dist (change : Members → Members) (rest : List WideText) :
    (Value.obj (Root.updateDist version change root)).at? (Root.distPath version ++ rest) =
      (Value.obj (change (Root.dist version root))).at? rest := by
  rw [Root.updateDist, Root.distPath, List.cons_append, at?_updateChild_self, List.cons_append,
    at?_updateChild_self, List.cons_append, at?_updateChild_self]
  rfl

/-- A text about a tarball is read off the end of its path, and there is none if the path ends
before. -/
theorem distText?_eq_at? (version key : WideText) (root : Root) :
    Root.distText? version key root =
      ((Value.obj root).at? (Root.distPath version ++ [key])).bind Value.string? := by
  rw [← at?_dist, at?_singleton, Root.distText?]

/-- Where there is an object for the facts about a tarball, a change that keeps them changes
nothing. -/
theorem updateDist_of_hasObject {change : Members → Members}
    (object : HasObject (Value.obj root).at? (Root.distPath version))
    (same : change (Root.dist version root) = Root.dist version root) :
    Root.updateDist version change root = root := by
  obtain ⟨dist, found⟩ := object
  -- The path goes through two objects before it comes to the one for the facts.
  have throughVersions := find?_of_at? found
  rw [Root.distPath, ← at?_child] at found
  have throughEntry := find?_of_at? found
  rw [← at?_child, at?_singleton] at found
  have atDist : Root.dist version root = dist := by
    rw [Root.dist, Members.child, found]
    rfl
  rw [← atDist] at found
  have kept := updateChild_of_find? found same
  exact updateChild_of_find? throughVersions (updateChild_of_find? throughEntry kept)

end

/-! ## Setting a text -/

/-- What setting a text about the tarball of a version makes of a document. -/
structure Root.FactSet (version key text : WideText) (root written : Root) : Prop where
  read : Root.distText? version key written = some text
  others : ∀ version_ key_, (version_, key_) ≠ (version, key) →
    Root.distText? version_ key_ written = Root.distText? version_ key_ root
  fields : ∀ field : WideText, field ≠ versionsKey →
    Members.find? field written = Members.find? field root
  versions : ∀ other, other ≠ version →
    (Value.obj written).at? [versionsKey, other] = (Value.obj root).at? [versionsKey, other]
  entry : ∀ field : WideText, field ≠ distKey →
    (Value.obj written).at? [versionsKey, version, field] =
      (Value.obj root).at? [versionsKey, version, field]
  facts : ∀ other, other ≠ key →
    (Value.obj written).at? (distPath version ++ [other]) =
      (Value.obj root).at? (distPath version ++ [other])

theorem factSet_updateDist (version key text : WideText) (root : Root) :
    Root.FactSet version key text root
      (Root.updateDist version (Members.insert key (.str text)) root) where
  read := by
    rw [distText?_eq_at?, at?_updateDist_dist, at?_insert_self]
    rfl
  others version_ key_ differ := by
    by_cases same : version_ = version
    · subst same
      have other : key_ ≠ key := fun same => differ (by rw [same])
      exact distText?_updateDist_insert_of_ne other ..
    · rw [Root.distText?, dist_updateDist_of_ne same]
      rfl
  fields field other := Assoc.lookup_insert_of_ne other ..
  versions other differ := by
    rw [Root.updateDist, at?_updateChild_self, at?_updateChild_of_ne differ, at?_child]
  entry field differ := by
    rw [Root.updateDist, at?_updateChild_self, at?_updateChild_self, at?_updateChild_of_ne differ,
      at?_child, at?_child]
  facts other differ := by
    rw [at?_updateDist_dist, at?_insert_of_ne differ, at?_dist]

/-- Setting a text about a tarball and reading texts about tarballs form a lens: what is set is
read, all else is as before, and where there are objects for it already, making them changes
nothing. -/
theorem updateDist_lens (version key text : WideText) (root : Root) :
    Root.FactSet version key text root
        (Root.updateDist version (Members.insert key (.str text)) root) ∧
      (HasObject (Value.obj root).at? (Root.distPath version) →
        Root.updateDist version id root = root) := by
  refine ⟨factSet_updateDist version key text root, ?_⟩
  intro object
  exact updateDist_of_hasObject object rfl

theorem updateDist_lens_published :
    let written := Root.updateDist "1" (Members.insert "integrity" (.str "sha1-x")) publishedRoot
    HasObject (Value.obj publishedRoot).at? (Root.distPath "1") ∧
      Root.updateDist "1" id publishedRoot = publishedRoot ∧
      Root.distText? "1" "integrity" written = some ("sha1-x" : WideText) ∧
      (("1", "shasum") : WideText × WideText) ≠ (("1", "integrity") : WideText × WideText) ∧
      Root.distText? "1" "shasum" written = some ("old" : WideText) := by
  intro written
  have object : HasObject (Value.obj publishedRoot).at? (Root.distPath "1") := ⟨_, rfl⟩
  have differ : (("1", "shasum") : WideText × WideText) ≠ (("1", "integrity") : WideText × WideText) :=
    by decide
  obtain ⟨set, made⟩ := updateDist_lens "1" "integrity" "sha1-x" publishedRoot
  exact ⟨object, made object, set.read, differ, (set.others "1" "shasum" differ).trans rfl⟩

end RegistryMend.Package

import RegistryMend.Proofs.Json.Reordering
import RegistryMend.Proofs.Package.Merge

/-! # Writing single versions

What is written into a root for one version depends on the entry of that version alone. Writing two
versions of one package therefore gives the same root in either order, up to the order of keys, if
the root has a tag `latest` that is kept.
-/

namespace RegistryMend.Package

open RegistryMend.Json (Members MembersStorable Value)

/-! ## Overlays of what matches -/

/-- The object under a key, if there is one. -/
def object? (value : Option Value) : Option Members :=
  value.bind Value.object?

/-- Values that match are both objects, which match, or both are not. -/
theorem object?_matches {first second : Option Value}
    (same : Option.Rel Value.Matches first second) :
    Option.Rel Members.Matches (object? first) (object? second) := by
  cases same with
  | none => exact .none
  | @some first second same =>
    have sorted := same.sorted
    cases first <;> cases second <;> first
      | exact .some same
      | exact .none
      | cases sorted

theorem overlayValue_obj (stored : Option Value) (top : Members) :
    overlayValue stored (.obj top) =
      .obj (match object? stored with
        | some below => overlay below top
        | none => top) := by
  cases stored with
  | none => rfl
  | some value => cases value <;> rfl

mutual

/-- A value is laid alike over values that match. -/
theorem overlayValue_matches : ∀ {value : Value}, value.Storable →
    ∀ {first second : Option Value}, Option.Rel Value.Matches first second →
      Value.Matches (overlayValue first value) (overlayValue second value)
  | .obj top, storable, first, second, same => by
    rw [overlayValue_obj, overlayValue_obj]
    have objects := object?_matches same
    generalize object? first = below, object? second = other at objects ⊢
    cases objects with
    | none => exact .refl storable
    | some below => exact overlay_matches storable.2 below
  | .null, storable, _, _, _ => .refl storable
  | .bool _, storable, _, _, _ => .refl storable
  | .int _, storable, _, _, _ => .refl storable
  | .double _, storable, _, _, _ => .refl storable
  | .str _, storable, _, _, _ => .refl storable
  | .arr _, storable, _, _, _ => .refl storable

theorem overlay_matches : ∀ {top : List (WideText × Value)}, MembersStorable top →
    ∀ {below below_ : Members}, Members.Matches below below_ →
      Members.Matches (overlay below top) (overlay below_ top)
  | [], _, _, _, same => same
  | (key, _) :: _, ⟨new, others⟩, _, _, same => by
    rw [overlay, overlay]
    exact overlay_matches others (same.insert (overlayValue_matches new (same.find? key)) key)

end

/-! ## Entries of versions -/

/-- A text in what the entry of a version says about its tarball. -/
def entryText? (key : WideText) (entry : Option Value) : Option WideText :=
  ((Members.child Root.distKey ((object? entry).getD [])).find? key).bind Value.string?

theorem distText?_eq (version key : WideText) (root : Root) : Root.distText? version key root =
    entryText? key ((Members.child Root.versionsKey root).find? version) := rfl

theorem getD_object?_matches {first second : Option Value}
    (same : Option.Rel Value.Matches first second) :
    Members.Matches ((object? first).getD []) ((object? second).getD []) := by
  have objects := object?_matches same
  generalize object? first = inner, object? second = other at objects ⊢
  cases objects with
  | none => exact .refl Members.storable_nil
  | some inner => exact inner

theorem entryText?_matches {first second : Option Value}
    (same : Option.Rel Value.Matches first second) (key : WideText) :
    entryText? key first = entryText? key second :=
  Value.Matches.string? (((getD_object?_matches same).child Root.distKey).find? key)

theorem distText?_matches {root root_ : Root} (same : Members.Matches root root_)
    (version key : WideText) : Root.distText? version key root = Root.distText? version key root_ :=
  entryText?_matches ((same.child Root.versionsKey).find? version) key

/-- The entry that stands for a version after another one was laid over it. Its integrity is hashed
anew if the stored entry has one. -/
def renewedEntry (hash : WideText → WideText) (top : Members) (stored : Option Value) : Value :=
  let laid := overlayValue stored (.obj top)
  match entryText? Root.integrityKey stored with
  | none => laid
  | some integrity =>
    if integrity = "" then laid
    else .obj (Members.updateChild Root.distKey
      (Members.insert Root.integrityKey (.str (hash integrity))) ((object? (some laid)).getD []))

/-- The new entry of a version from the stored one: entries that match give such entries. -/
def Renews (entry : Option Value → Value) : Prop :=
  ∀ {first second : Option Value}, Option.Rel Value.Matches first second →
    Value.Matches (entry first) (entry second)

theorem Renews.storable {entry : Option Value → Value} (renews : Renews entry) {members : Members}
    (storable : members.Storable) (key : WideText) : (entry (members.find? key)).Storable := by
  have same : Members.Matches members members := .refl storable
  exact (renews (same.find? key)).left

theorem renews_renewedEntry (hash : WideText → WideText) {top : Members} (storable : top.Storable) :
    Renews (renewedEntry hash top) := by
  intro first second same
  have laid : Value.Matches (overlayValue first (.obj top)) (overlayValue second (.obj top)) :=
    overlayValue_matches storable same
  rw [renewedEntry, renewedEntry, entryText?_matches same]
  cases entryText? Root.integrityKey second with
  | none => exact laid
  | some integrity =>
    dsimp only
    split
    · exact laid
    · have inner := getD_object?_matches (.some laid)
      exact inner.insert ((inner.child Root.distKey).insert (.refl (storable_str _)) _) _

/-! ## Writing an entry -/

/-- The root of a package with a new entry for a version. -/
def Root.writeVersion (name version : WideText) (entry : Option Value → Value) (root : Root) : Root :=
  let versions := Members.child versionsKey root
  ((Members.insert idKey (.str name) root).insert nameKey (.str name)).insert versionsKey
    (.obj (versions.insert version (entry (versions.find? version))))

section Write

variable {name version other : WideText} {entry entry_ : Option Value → Value} {root root_ : Root}

/-- A look-up in a root with a new entry for a version. -/
theorem find?_writeVersion (key : WideText) :
    Members.find? key (root.writeVersion name version entry) =
      if key = Root.versionsKey then
        some (.obj ((Members.child Root.versionsKey root).insert version
          (entry ((Members.child Root.versionsKey root).find? version))))
      else if key = Root.nameKey ∨ key = Root.idKey then some (.str name)
      else Members.find? key root := by
  simp only [Root.writeVersion, Members.find?, Members.insert, Assoc.lookup_insert, ite_or]

theorem child_writeVersion : Members.child Root.versionsKey (root.writeVersion name version entry) =
    (Members.child Root.versionsKey root).insert version
      (entry ((Members.child Root.versionsKey root).find? version)) := by
  rw [Members.child, find?_writeVersion, if_pos rfl]
  rfl

theorem writeVersion_matches (renews : Renews entry) (same : Members.Matches root root_) :
    Members.Matches (root.writeVersion name version entry)
      (root_.writeVersion name version entry) := by
  have versions := same.child Root.versionsKey
  have named := (same.insert (.refl (storable_str name)) Root.idKey).insert
    (.refl (storable_str name)) Root.nameKey
  exact named.insert (versions.insert (renews (versions.find? version)) version) _

theorem storable_writeVersion (renews : Renews entry) (storable : Members.Storable root) :
    Members.Storable (root.writeVersion name version entry) :=
  (writeVersion_matches renews (.refl storable)).left

/-- Another field may be written before or after a version. -/
theorem writeVersion_insert (renews : Renews entry) (storable : Members.Storable root)
    {key : WideText} {value : Value}
    (apart : key ∉ ([Root.idKey, Root.nameKey, Root.versionsKey] : List WideText))
    (new : value.Storable) :
    Members.Matches (Root.writeVersion name version entry (Members.insert key value root))
      (Members.insert key value (root.writeVersion name version entry)) := by
  simp only [List.mem_cons, List.not_mem_nil, or_false, not_or] at apart
  have versions : Members.child Root.versionsKey (Members.insert key value root) =
      Members.child Root.versionsKey root := by
    rw [Members.child, Members.child, Members.find?, Members.find?, Members.insert,
      Assoc.lookup_insert_of_ne (Ne.symm apart.2.2)]
  have found (field : WideText) (members : Members) : Members.find? field
      (Members.insert key value members) =
        if field = key then some value else Members.find? field members :=
    Assoc.lookup_insert key field value members
  refine .ext (storable_writeVersion renews (storable.insert new key))
    ((storable_writeVersion renews storable).insert new key) fun field => .of_eq ?_
  rw [find?_writeVersion, versions, found, found, find?_writeVersion]
  by_cases same : field = key
  · subst same
    simp [apart]
  · simp [same]

/-- Two versions of a package may be written in either order. -/
theorem writeVersion_comm (renews : Renews entry) (renews_ : Renews entry_)
    (storable : Members.Storable root) (differ : version ≠ other) :
    Members.Matches
      (Root.writeVersion name other entry_ (root.writeVersion name version entry))
      (Root.writeVersion name version entry (root.writeVersion name other entry_)) := by
  have versions := storable.child Root.versionsKey
  have apart (value : Value) (members : Members) :
      Members.find? other (members.insert version value) = Members.find? other members :=
    Assoc.lookup_insert_of_ne (Ne.symm differ) value members
  have apart_ (value : Value) (members : Members) :
      Members.find? version (members.insert other value) = Members.find? version members :=
    Assoc.lookup_insert_of_ne differ value members
  refine .ext (storable_writeVersion renews_ (storable_writeVersion renews storable))
    (storable_writeVersion renews (storable_writeVersion renews_ storable)) fun key => ?_
  by_cases same : key = Root.versionsKey
  · simp only [find?_writeVersion, child_writeVersion, if_pos same, apart, apart_]
    exact congrArg some (Members.matches_insert_insert versions differ
      (renews.storable versions version) (renews_.storable versions other)).sorted
  · simp only [find?_writeVersion, if_neg same]
    exact .of_eq (by split <;> rfl)

/-- Only the stored entry of the version matters for the new one. -/
theorem writeVersion_congr
    (same : entry ((Members.child Root.versionsKey root).find? version) =
      entry_ ((Members.child Root.versionsKey root).find? version)) :
    root.writeVersion name version entry = root.writeVersion name version entry_ := by
  rw [Root.writeVersion, Root.writeVersion, same]

/-- Changing what is said about the tarball of a written version changes its entry. -/
theorem updateDist_writeVersion (change : Members → Members) :
    Root.updateDist version change (root.writeVersion name version entry) =
      root.writeVersion name version fun stored => .obj (Members.updateChild Root.distKey change
        ((object? (some (entry stored))).getD [])) := by
  rw [Root.updateDist, Members.updateChild, child_writeVersion, Members.updateChild, Members.child,
    Members.find?, Members.insert, Assoc.lookup_insert_self, Members.insert,
    Assoc.insert_insert_self, Root.writeVersion, Members.insert, Assoc.insert_insert_self]
  rfl

end Write

/-! ## Merges into tagged roots -/

/-- The tag `latest` of a root, if it is a text. -/
def Root.latest? (root : Root) : Option WideText :=
  ((object? (Members.find? tagsKey root)).bind (Members.find? latestKey)).bind Value.string?

/-- A root has a tag `latest` that is a text and not empty. -/
def Root.Tagged (root : Root) : Prop :=
  ∃ latest ∈ root.latest?, latest ≠ ""

instance (root : Root) : Decidable root.Tagged :=
  inferInstanceAs (Decidable (∃ latest ∈ root.latest?, latest ≠ ""))

theorem latest?_matches {root root_ : Root} (same : Members.Matches root root_) :
    root.latest? = root_.latest? := by
  have tags := object?_matches (same.find? Root.tagsKey)
  rw [Root.latest?, Root.latest?]
  generalize object? (Members.find? Root.tagsKey root) = first,
    object? (Members.find? Root.tagsKey root_) = second at tags ⊢
  cases tags with
  | none => rfl
  | some tags => exact Value.Matches.string? (tags.find? Root.latestKey)

/-- Writing a version keeps the tags. -/
theorem latest?_writeVersion (name version : WideText) (entry : Option Value → Value) (root : Root) :
    (root.writeVersion name version entry).latest? = root.latest? := by
  rw [Root.latest?, Root.latest?, find?_writeVersion, if_neg (by decide), if_neg (by decide)]

theorem tags_of_latest? {root : Root} {latest : WideText} (tagged : latest ∈ root.latest?) :
    ∃ tags, Members.find? Root.tagsKey root = some (.obj tags) ∧
      Members.find? Root.latestKey tags = some (.str latest) := by
  rw [Option.mem_def, Root.latest?] at tagged
  obtain ⟨tag, found, text⟩ := Option.bind_eq_some_iff.mp tagged
  obtain ⟨tags, object, found⟩ := Option.bind_eq_some_iff.mp found
  obtain ⟨value, found_, object⟩ := Option.bind_eq_some_iff.mp object
  cases value <;> cases object
  cases tag <;> cases text
  exact ⟨tags, found_, found⟩

section Merge

variable {manifest : Members} {id : Id} {version : WideText} {repository sha1 : String} {stored : Root}

/-- A merge into a tagged root keeps its tags. -/
theorem merge_tagged {tags : Members} {latest : WideText}
    (found : Members.find? Root.tagsKey stored = some (.obj tags))
    (text : Members.find? Root.latestKey tags = some (.str latest)) (given : latest ≠ "") :
    merge stored (fragmentFor manifest id version repository sha1) =
      Members.insert Root.tagsKey (.obj tags)
        (overlay stored (fragmentFor manifest id version repository sha1)) := by
  have own : Members.child Root.tagsKey stored = tags := by
    rw [Members.child, found]
    rfl
  have tag : latestTag stored = latest := by
    rw [latestTag, own, Members.givenText, text, Option.map_some, Option.getD_some,
      Json.Value.givenText_str]
  have under : Members.find? Root.tagsKey (fragmentFor manifest id version repository sha1) =
      some (.obj [(Root.latestKey, .str version)]) := rfl
  have laid : overlay tags [(Root.latestKey, .str version)] =
      Members.insert Root.latestKey (.str version) tags := rfl
  rw [merge, tag, keptTag, if_neg given, if_neg given, Members.updateChild, child_overlay distinct_fragmentFor stored under (by simp),
    own, laid, Members.insert, Members.insert, Assoc.insert_insert_self, Assoc.insert_of_lookup text]

/-- An entry is laid over the one of its version, whatever stands in place of the versions. -/
theorem overlayValue_entry (versions : Option Value) (version : WideText) (entry : Value) :
    overlayValue versions (.obj [(version, entry)]) =
      .obj (Members.insert version (overlayValue (Members.find? version ((object? versions).getD []))
        entry) ((object? versions).getD [])) := by
  rw [overlayValue_obj]
  cases object? versions with
  | some below => rfl
  | none =>
    dsimp only [Option.getD_none]
    rw [Members.find?, List.lookup_nil, overlayValue_none, Members.insert, Assoc.insert_nil]

/-- A merge into a tagged root lays the entry of the version over the stored one. -/
theorem find?_merge (tagged : stored.Tagged) (key : WideText) :
    Members.find? key (merge stored (fragmentFor manifest id version repository sha1)) =
      Members.find? key (stored.writeVersion id.text version fun below =>
        overlayValue below (.obj (versionEntry manifest id version repository sha1))) := by
  obtain ⟨latest, kept, given⟩ := tagged
  obtain ⟨tags, found, text⟩ := tags_of_latest? kept
  rw [merge_tagged found text given, find?_writeVersion, Members.find?, Members.insert,
    Assoc.lookup_insert, ← Members.find?, find?_overlay distinct_fragmentFor]
  by_cases tagged : key = Root.tagsKey
  · subst tagged
    rw [if_pos rfl, if_neg (by decide), if_neg (by decide), found]
  rw [if_neg tagged]
  by_cases listed : key = Root.versionsKey
  · subst listed
    rw [if_pos rfl, find?_fragmentFor]
    exact congrArg some (overlayValue_entry ..)
  rw [if_neg listed]
  by_cases named : key = Root.nameKey ∨ key = Root.idKey
  · rw [if_pos named]
    rcases named with rfl | rfl <;> rfl
  · rw [not_or] at named
    have absent : key ∉ Assoc.keys (fragmentFor manifest id version repository sha1) := by
      simp [keys_fragmentFor, tagged, listed, named]
    rw [if_neg (by simp [named]), Members.find?, Assoc.lookup_of_notMem absent]

theorem merge_matches (readable : manifest.Storable) (storable : Members.Storable stored)
    (tagged : stored.Tagged) :
    Members.Matches (merge stored (fragmentFor manifest id version repository sha1))
      (stored.writeVersion id.text version fun below =>
        overlayValue below (.obj (versionEntry manifest id version repository sha1))) := by
  refine .ext (storable_merge storable (storable_fragmentFor readable)) ?_ fun key =>
    .of_eq (find?_merge tagged key)
  exact storable_writeVersion (fun same => overlayValue_matches (storable_versionEntry readable) same)
    storable

end Merge

/-- Hashing the integrity of a written version anew belongs to its entry. -/
theorem writeVersion_renewedEntry (name version : WideText) (hash : WideText → WideText) (top : Members)
    (stored : Root) : stored.writeVersion name version (renewedEntry hash top) =
      let laid := stored.writeVersion name version fun below => overlayValue below (.obj top)
      match Root.distText? version Root.integrityKey stored with
      | none => laid
      | some integrity =>
        if integrity = "" then laid
        else Root.updateDist version (Members.insert Root.integrityKey (.str (hash integrity)))
          laid := by
  rw [distText?_eq]
  dsimp only
  cases integrity : entryText? Root.integrityKey
      ((Members.child Root.versionsKey stored).find? version) with
  | none => exact writeVersion_congr (by rw [renewedEntry, integrity])
  | some integrity_ =>
    dsimp only
    by_cases empty : integrity_ = ""
    · rw [if_pos empty]
      exact writeVersion_congr (by rw [renewedEntry, integrity]; exact if_pos empty)
    · rw [if_neg empty, updateDist_writeVersion]
      exact writeVersion_congr (by rw [renewedEntry, integrity]; exact if_neg empty)

theorem updateDist_matches {root root_ : Root} (same : Members.Matches root root_)
    (version text : WideText) :
    Members.Matches (Root.updateDist version (Members.insert Root.integrityKey (.str text)) root)
      (Root.updateDist version (Members.insert Root.integrityKey (.str text)) root_) := by
  have versions := same.child Root.versionsKey
  have entry := versions.child version
  have dist := (entry.child Root.distKey).insert (.refl (storable_str text)) Root.integrityKey
  exact same.insert (versions.insert (entry.insert dist Root.distKey) version) Root.versionsKey

end RegistryMend.Package

import RegistryMend.Proofs.Package.Versions

/-! # A merge, path by path

A path is a list of keys that leads from object to object. An overlay has at a path what the
document on top has there. Where that one has nothing, the way ends at the longest part of the path
that it knows, and the document below shows through if both are objects at that place. A merge
does the same everywhere but at the tag `latest` and what would stand below it: that tag is always
given as a text.
-/

namespace RegistryMend.Json

/-- What stands at a path of keys. -/
def Value.at? : Value → List WideText → Option Value
  | value, [] => some value
  | value, key :: rest => (value.object?.bind (Members.find? key)).bind fun inner => inner.at? rest

namespace Value

@[simp] theorem at?_nil (value : Value) : value.at? [] = some value := rfl

@[simp] theorem at?_obj_cons (members : Members) (key : WideText) (rest : List WideText) :
    (obj members).at? (key :: rest) = (members.find? key).bind (·.at? rest) := rfl

theorem at?_cons_of_not_object {value : Value} (plain : value.isObject = false) (key : WideText)
    (rest : List WideText) : value.at? (key :: rest) = none := by
  cases value with
  | obj members => cases plain
  | _ => rfl

/-- Every object that a path leads to has distinct keys. -/
def Distinct (value : Value) : Prop :=
  ∀ path members, value.at? path = some (.obj members) → (Assoc.keys members).Nodup

theorem Distinct.keys {members : Members} (distinct : (obj members).Distinct) :
    (Assoc.keys members).Nodup :=
  distinct [] members rfl

theorem Distinct.find? {members : Members} (distinct : (obj members).Distinct) {key : WideText}
    {inner : Value} (found : members.find? key = some inner) : inner.Distinct := by
  intro path below here
  apply distinct (key :: path)
  rw [at?_obj_cons, found]
  exact here

/-- A value that can be stored has distinct keys wherever a path leads. -/
theorem Storable.distinct {value : Value} (storable : value.Storable) : value.Distinct := by
  intro path members
  induction path generalizing value with
  | nil =>
    intro here
    cases here
    exact (Members.storable_iff.mp storable).1
  | cons key rest ih =>
    intro here
    cases value with
    | obj outer =>
      rw [at?_obj_cons, Option.bind_eq_some_iff] at here
      obtain ⟨inner, found, here⟩ := here
      exact ih (Members.Storable.find? storable found) here
    | _ => cases here

end Value

end RegistryMend.Json

namespace RegistryMend.Package

open RegistryMend.Json (Members Value)

/-! ## Overlays -/

/-- The longest part of a path, from its start, at which a document has a value. -/
structure Reaches (document : List WideText → Option Value) (path reached : List WideText) : Prop where
  along : reached <+: path
  present : (document reached).isSome
  longest : ∀ other, other <+: path → (document other).isSome → other.length ≤ reached.length

/-- There is an object at a path. -/
def HasObject (document : List WideText → Option Value) (path : List WideText) : Prop :=
  ∃ members, document path = some (.obj members)

/-- What a document says at a path when one document is laid over another. Documents are given by
what they have at every path. -/
structure LaidOver (below top merged : List WideText → Option Value) (path : List WideText) : Prop where
  plain : ∀ value, top path = some value → value.isObject = false → merged path = some value
  object : HasObject top path → HasObject merged path
  absent : top path = none → ∃ reached, Reaches top path reached ∧
    (HasObject top reached → HasObject below reached → merged path = below path) ∧
    (¬(HasObject top reached ∧ HasObject below reached) → merged path = none)

section

variable {below top merged : List WideText → Option Value} {path reached : List WideText} {key : WideText}

/-- The whole document is all that a path knows of if its first key leads nowhere. -/
theorem Reaches.nil (present : (top []).isSome) (ends : ∀ rest, top (key :: rest) = none) :
    Reaches top (key :: path) [] where
  along := List.nil_prefix
  present := present
  longest other along present := by
    cases other with
    | nil => exact Nat.le_refl _
    | cons first rest =>
      obtain ⟨rfl, -⟩ := List.cons_prefix_cons.mp along
      rw [ends rest] at present
      cases present

/-- A path is followed from its second key on. -/
theorem Reaches.cons (inner : Reaches (fun rest => top (key :: rest)) path reached) :
    Reaches top (key :: path) (key :: reached) where
  along := List.cons_prefix_cons.mpr ⟨rfl, inner.along⟩
  present := inner.present
  longest other along present := by
    cases other with
    | nil => exact Nat.zero_le _
    | cons first rest =>
      obtain ⟨rfl, inside⟩ := List.cons_prefix_cons.mp along
      exact Nat.succ_le_succ (inner.longest rest inside present)

theorem LaidOver.cons (inner : LaidOver (fun rest => below (key :: rest))
    (fun rest => top (key :: rest)) (fun rest => merged (key :: rest)) path) :
    LaidOver below top merged (key :: path) where
  plain := inner.plain
  object := inner.object
  absent nothing := by
    obtain ⟨reached, reaches, both, other⟩ := inner.absent nothing
    exact ⟨key :: reached, reaches.cons, both, other⟩

/-- Where the document on top does not know the first key, the whole documents decide. -/
theorem LaidOver.of_unknown (present : (top []).isSome) (ends : ∀ rest, top (key :: rest) = none)
    (both : HasObject top [] → HasObject below [] → merged (key :: path) = below (key :: path))
    (other : ¬(HasObject top [] ∧ HasObject below []) → merged (key :: path) = none) :
    LaidOver below top merged (key :: path) where
  plain value here := by
    rw [ends path] at here
    cases here
  object := by
    rintro ⟨members, here⟩
    rw [ends path] at here
    cases here
  absent _ := ⟨[], .nil present ends, both, other⟩

/-- Where both the document on top and the result have objects nothing is left to say. -/
theorem LaidOver.of_objects (above : HasObject top path) (result : HasObject merged path) :
    LaidOver below top merged path where
  plain value here isPlain := by
    obtain ⟨members, found⟩ := above
    rw [found] at here
    cases here
    cases isPlain
  object _ := result
  absent nothing := by
    obtain ⟨members, found⟩ := above
    rw [found] at nothing
    cases nothing

theorem LaidOver.congr {merged_ : List WideText → Option Value} (same : merged_ path = merged path)
    (law : LaidOver below top merged path) : LaidOver below top merged_ path where
  plain value here isPlain := same.trans (law.plain value here isPlain)
  object here := by
    rw [HasObject, same]
    exact law.object here
  absent nothing := by
    rw [same]
    exact law.absent nothing

end

theorem overlayValue_of_plain {value : Value} (plain : value.isObject = false)
    (stored : Option Value) : overlayValue stored value = value := by
  cases value with
  | obj members => cases plain
  | _ => rfl

/-- An object is laid over the members that were stored, of which there may be none. -/
theorem overlayValue_obj_of_distinct {members : Members} (distinct : (Assoc.keys members).Nodup)
    (stored : Option Value) :
    overlayValue stored (.obj members) = .obj (overlay ((object? stored).getD []) members) := by
  have alone : overlay [] members = members := overlay_append distinct
  rw [overlayValue_obj]
  cases object? stored with
  | none => exact congrArg Value.obj alone.symm
  | some below => rfl

/-- What was stored under a key, if it was an object. -/
def memberBelow (stored : Option Value) (key : WideText) : Option Value :=
  (object? stored).bind (Members.find? key)

theorem at?_cons_of_memberBelow (stored : Option Value) (key : WideText) (rest : List WideText) :
    stored.bind (·.at? (key :: rest)) = (memberBelow stored key).bind (·.at? rest) := by
  cases stored <;> rfl

/-- One step along a path through an object that is laid over whatever was stored. -/
theorem at?_overlayValue_cons {members : Members} (distinct : (Assoc.keys members).Nodup)
    (stored : Option Value) (key : WideText) (rest : List WideText) :
    (overlayValue stored (.obj members)).at? (key :: rest) =
      match members.find? key with
      | none => (memberBelow stored key).bind (·.at? rest)
      | some value => (overlayValue (memberBelow stored key) value).at? rest := by
  have below : Members.find? key ((object? stored).getD []) = memberBelow stored key := by
    rw [memberBelow]
    cases object? stored <;> rfl
  rw [overlayValue_obj_of_distinct distinct, Value.at?_obj_cons, find?_overlay distinct, below]
  cases members.find? key <;> rfl

/-- An overlay has at every path what the two documents say there. -/
theorem laidOver_overlayValue (path : List WideText) (stored : Option Value) {top : Value}
    (distinct : top.Distinct) :
    LaidOver (fun path => stored.bind (·.at? path)) top.at? (overlayValue stored top).at? path := by
  induction path generalizing stored top with
  | nil =>
    constructor
    · rintro value ⟨⟩ plain
      exact congrArg some (overlayValue_of_plain plain stored)
    · rintro ⟨members, ⟨⟩⟩
      exact ⟨_, congrArg some (overlayValue_obj_of_distinct distinct.keys stored)⟩
    · intro nothing
      cases nothing
  | cons key rest ih =>
    cases top with
    | obj members =>
      have step := at?_overlayValue_cons distinct.keys stored key
      cases found : Members.find? key members with
      | none =>
        have ends (rest : List WideText) : (Value.obj members).at? (key :: rest) = none := by
          rw [Value.at?_obj_cons, found]
          rfl
        refine .of_unknown rfl ends (fun _ _ => ?_) fun unlike => ?_
        · rw [step, found, at?_cons_of_memberBelow]
        · rw [step, found]
          have nothing : object? stored = none := by
            rw [object?, Option.bind_eq_none_iff]
            intro value isStored
            cases value with
            | obj below => exact absurd ⟨⟨members, rfl⟩, below, by rw [isStored]; rfl⟩ unlike
            | _ => rfl
          rw [memberBelow, nothing]
          rfl
      | some value =>
        have inner := ih (memberBelow stored key) (distinct.find? found)
        refine .cons ?_
        simp only [step, at?_cons_of_memberBelow, Value.at?_obj_cons, found, Option.bind_some]
        exact inner
    | _ =>
      refine .of_unknown rfl (fun rest => Value.at?_cons_of_not_object rfl key rest) ?_ fun _ => ?_
      · rintro ⟨members, ⟨⟩⟩
      · exact Value.at?_cons_of_not_object rfl key rest

/-! ## Merges -/

/-- What a merge leaves at every path: what an overlay does, but for the tag `latest`. -/
structure MergedAtPaths (stored fragment merged : Value) : Prop where
  fields : ∀ path, path.head? ≠ some (Root.tagsKey : WideText) →
    LaidOver stored.at? fragment.at? merged.at? path
  tags : HasObject fragment.at? [Root.tagsKey] → ∀ path, path.head? ≠ some (Root.latestKey : WideText) →
    LaidOver stored.at? fragment.at? merged.at? (Root.tagsKey :: path)
  storedLatest : ∀ latest : WideText, latest ≠ "" →
    stored.at? [Root.tagsKey, Root.latestKey] = some (.str latest) →
    merged.at? [Root.tagsKey, Root.latestKey] = some (.str latest)
  newLatest : ∀ latest, fragment.at? [Root.tagsKey, Root.latestKey] = some (.str latest) →
    stored.at? [Root.tagsKey, Root.latestKey] ∈ [none, some .null, some (.str "")] →
    merged.at? [Root.tagsKey, Root.latestKey] = some (.str latest)

theorem at?_insert_of_ne {key first : WideText} (differ : first ≠ key) (value : Value)
    (members : Members) (rest : List WideText) :
    (Value.obj (members.insert key value)).at? (first :: rest) =
      (Value.obj members).at? (first :: rest) := by
  rw [Value.at?_obj_cons, Value.at?_obj_cons, Members.find?, Assoc.lookup_insert_of_ne differ]

theorem at?_insert_self (key : WideText) (value : Value) (members : Members) (rest : List WideText) :
    (Value.obj (members.insert key value)).at? (key :: rest) = value.at? rest := by
  rw [Value.at?_obj_cons, Members.find?, Assoc.lookup_insert_self]
  rfl

/-- The tag `latest` of a document by its path. -/
theorem latestTag_eq (root : Root) : latestTag root =
    (((Value.obj root).at? [Root.tagsKey, Root.latestKey]).map Value.givenText).getD "" := by
  rw [latestTag, Members.child, Value.at?_obj_cons]
  cases Members.find? Root.tagsKey root with
  | none => rfl
  | some value =>
    cases value with
    | obj tags =>
      change Members.givenText Root.latestKey tags =
        (((Members.find? Root.latestKey tags).bind some).map Value.givenText).getD ""
      rw [Option.bind_fun_some, Members.givenText]
    | _ => rfl

section

variable {stored fragment : Root}

theorem at?_merge_of_field {first : WideText} (field : first ≠ Root.tagsKey) (rest : List WideText) :
    (Value.obj (merge stored fragment)).at? (first :: rest) =
      (Value.obj (overlay stored fragment)).at? (first :: rest) := by
  rw [merge]
  split
  · rfl
  · exact at?_insert_of_ne field _ _ _

theorem at?_merge_of_tag {tag : WideText} (other : tag ≠ Root.latestKey)
    (tagged : HasObject (Value.obj (overlay stored fragment)).at? [Root.tagsKey])
    (rest : List WideText) :
    (Value.obj (merge stored fragment)).at? (Root.tagsKey :: tag :: rest) =
      (Value.obj (overlay stored fragment)).at? (Root.tagsKey :: tag :: rest) := by
  obtain ⟨tags, found⟩ := tagged
  rw [Value.at?_obj_cons, Option.bind_eq_some_iff] at found
  obtain ⟨value, found, same⟩ := found
  cases same
  rw [merge]
  split
  · rfl
  · rw [Members.updateChild, at?_insert_self, at?_insert_of_ne other, Members.child, found,
      Value.at?_obj_cons (overlay stored fragment), found]
    rfl

theorem hasObject_merge_tags
    (tagged : HasObject (Value.obj (overlay stored fragment)).at? [Root.tagsKey]) :
    HasObject (Value.obj (merge stored fragment)).at? [Root.tagsKey] := by
  rw [merge]
  split
  · exact tagged
  · exact ⟨_, at?_insert_self _ _ _ _⟩

/-- The tag that is kept is the one of the result, unless it is empty. -/
theorem at?_merge_latest (given : keptTag (latestTag stored) (latestTag fragment) ≠ "") :
    (Value.obj (merge stored fragment)).at? [Root.tagsKey, Root.latestKey] =
      some (.str (keptTag (latestTag stored) (latestTag fragment))) := by
  rw [merge, if_neg given, Members.updateChild, at?_insert_self, at?_insert_self, Value.at?_nil]

/-- A merge has at every path what the fragment says there, and what was stored where the fragment
has no say. The tag `latest` is the stored one unless there was none. -/
theorem merge_atPaths (distinct : (Value.obj fragment).Distinct) :
    MergedAtPaths (.obj stored) (.obj fragment) (.obj (merge stored fragment)) where
  fields path field := by
    cases path with
    | nil => exact .of_objects ⟨fragment, rfl⟩ ⟨_, rfl⟩
    | cons first rest =>
      have other : first ≠ Root.tagsKey := fun same => field (by rw [same]; rfl)
      exact (laidOver_overlayValue _ (some (.obj stored)) distinct).congr
        (at?_merge_of_field other rest)
  tags tagged path free := by
    have law := laidOver_overlayValue (Root.tagsKey :: path) (some (.obj stored)) distinct
    have kept : HasObject (Value.obj (overlay stored fragment)).at? [Root.tagsKey] :=
      (laidOver_overlayValue [Root.tagsKey] (some (.obj stored)) distinct).object tagged
    cases path with
    | nil => exact .of_objects tagged (hasObject_merge_tags kept)
    | cons tag rest =>
      have other : tag ≠ Root.latestKey := fun same => free (by rw [same]; rfl)
      exact law.congr (at?_merge_of_tag other kept rest)
  storedLatest latest given old := by
    have tag : latestTag stored = latest := by
      rw [latestTag_eq, old]
      exact Value.givenText_str latest
    have kept : keptTag (latestTag stored) (latestTag fragment) = latest := by
      rw [tag, keptTag, if_neg given]
    rw [at?_merge_latest (by rwa [kept]), kept]
  newLatest latest new blank := by
    have none_ : latestTag stored = "" := by
      rw [latestTag_eq]
      simp only [List.mem_cons, List.not_mem_nil, or_false] at blank
      rcases blank with absent | null | empty
      · rw [absent]
        rfl
      · rw [null]
        rfl
      · rw [empty]
        exact Value.givenText_str ""
    have own : latestTag fragment = latest := by
      rw [latestTag_eq, new]
      exact Value.givenText_str latest
    have kept : keptTag (latestTag stored) (latestTag fragment) = latest := by
      rw [none_, own, keptTag, if_pos rfl]
    by_cases empty : latest = ""
    · have law := laidOver_overlayValue [Root.tagsKey, Root.latestKey] (some (.obj stored)) distinct
      rw [merge, if_pos (kept.trans empty)]
      exact law.plain _ new rfl
    · rw [at?_merge_latest (by rwa [kept]), kept]

end

/-- A root with one version and one more tag. -/
def publishedRoot : Root :=
  [("dist-tags", .obj [("latest", .str ""), ("beta", .str "1")]),
    ("versions", .obj [("1", .obj [("dist", .obj [("shasum", .str "old"), ("size", .int 7)])])])]

/-- What a later version and a new checksum of the first one are announced with. -/
def laterFragment : Root :=
  [("dist-tags", .obj [("latest", .str "2")]),
    ("versions", .obj [("1", .obj [("dist", .obj [("shasum", .str "new")])]), ("2", .obj [])])]

theorem merge_atPaths_later_version : (Value.obj laterFragment).Distinct ∧
    MergedAtPaths (.obj publishedRoot) (.obj laterFragment)
      (.obj (merge publishedRoot laterFragment)) := by
  have storable : (Value.obj laterFragment).Storable := by
    refine ⟨by decide, ⟨by decide, trivial, trivial⟩, ⟨by decide, ?_, ?_, trivial⟩, trivial⟩
    · exact ⟨by decide, ⟨by decide, trivial, trivial⟩, trivial⟩
    · exact ⟨by decide, trivial⟩
  exact ⟨storable.distinct, merge_atPaths storable.distinct⟩

/-- An object under the tag `latest` is kept as its text, so nothing stands below it any more. -/
theorem not_laidOver_below_latest :
    let fragment : Root := [("dist-tags", .obj [("latest", .obj [("x", .int 1)])])]
    ¬(∀ path : List WideText, path ≠ [↑Root.latestKey] →
      LaidOver (Value.obj []).at? (Value.obj fragment).at? (Value.obj (merge [] fragment)).at?
        (Root.tagsKey :: path)) := by
  intro fragment law
  have lost : ((Value.obj (merge [] fragment)).at?
      [Root.tagsKey, Root.latestKey, "x"]).isNone = true := by decide +kernel
  have kept := (law [Root.latestKey, "x"] (by decide)).plain (.int 1) rfl rfl
  rw [kept] at lost
  cases lost

end RegistryMend.Package

import RegistryMend.Proofs.Package.Paths

/-! # Merging twice

What a fragment says is settled once it is laid over a root: laying it there again finds every
member as it would put it. The tag `latest` is the one member that a merge may set to something
else; it was a text before the second merge and is set to the same text again.
-/

namespace RegistryMend.Package

open RegistryMend.Json (Members Value)

/-! ## Overlays -/

/-- Members on top are settled if each would leave what is below it as it is. -/
def Settled (below top : Members) : Prop :=
  ∀ member ∈ top, ∃ value, below.find? member.1 = some value ∧
    overlayValue (some value) member.2 = value

theorem Settled.tail {below rest : Members} {member : WideText × Value}
    (settled : Settled below (member :: rest)) : Settled below rest :=
  fun other inside => settled other (List.mem_cons_of_mem _ inside)

theorem Settled.overlay_eq {below top : Members} (settled : Settled below top) :
    overlay below top = below := by
  induction top with
  | nil => rfl
  | cons member rest ih =>
    obtain ⟨key, value⟩ := member
    obtain ⟨old, found, same⟩ := settled (key, value) (List.mem_cons_self ..)
    rw [overlay, found, same, Members.insert, Assoc.insert_of_lookup found]
    exact ih settled.tail

/-- A member that is set anyway may be anything while settled members are laid over the others. -/
theorem Settled.insert_overlay {below top : Members} (settled : Settled below top) (key : WideText)
    (before after : Value) :
    (overlay (below.insert key before) top).insert key after = below.insert key after := by
  induction top generalizing before with
  | nil => exact Assoc.insert_insert_self key before after below
  | cons member rest ih =>
    obtain ⟨other, value⟩ := member
    rw [overlay]
    by_cases same : other = key
    · subst same
      rw [Members.insert, Members.insert, Assoc.insert_insert_self]
      exact ih settled.tail _
    · obtain ⟨old, found, kept⟩ := settled (other, value) (List.mem_cons_self ..)
      have there : (below.insert key before).find? other = some old := by
        rw [Members.find?, Assoc.lookup_insert_of_ne same]
        exact found
      have unchanged : (below.insert key before).insert other old = below.insert key before :=
        Assoc.insert_of_lookup there
      rw [there, kept, unchanged]
      exact ih settled.tail _

/-- Members laid over others are settled there if the value of each is. -/
theorem settled_overlay {top : Members} (distinct : (Assoc.keys top).Nodup)
    (again : ∀ member ∈ top, ∀ stored,
      overlayValue (some (overlayValue stored member.2)) member.2 = overlayValue stored member.2)
    (below : Members) : Settled (overlay below top) top := by
  rintro ⟨key, value⟩ inside
  have found : top.find? key = some value := (Assoc.lookup_eq_some_iff distinct).mpr inside
  refine ⟨overlayValue (below.find? key) value, ?_, again _ inside _⟩
  rw [find?_overlay distinct, found]

mutual

/-- A value laid over the result of laying it there changes nothing. -/
theorem overlayValue_again : ∀ {value : Value}, value.Distinct → ∀ stored : Option Value,
    overlayValue (some (overlayValue stored value)) value = overlayValue stored value
  | .obj top, distinct, stored => by
    have inner : ∀ member ∈ top, member.2.Distinct := fun member inside =>
      distinct.find? ((Assoc.lookup_eq_some_iff distinct.keys).mpr inside)
    have settled := settled_overlay distinct.keys (members_again inner)
      ((object? stored).getD [])
    rw [overlayValue_obj_of_distinct distinct.keys stored, overlayValue, settled.overlay_eq]
  | .null, _, _ => rfl
  | .bool _, _, _ => rfl
  | .int _, _, _ => rfl
  | .double _, _, _ => rfl
  | .str _, _, _ => rfl
  | .arr _, _, _ => rfl

theorem members_again : ∀ {members : List (WideText × Value)},
    (∀ member ∈ members, member.2.Distinct) → ∀ member ∈ members, ∀ stored : Option Value,
      overlayValue (some (overlayValue stored member.2)) member.2 = overlayValue stored member.2
  | (key, value) :: rest, distinct, member, inside, stored => by
    rcases List.mem_cons.mp inside with rfl | later
    · exact overlayValue_again (distinct _ (List.mem_cons_self ..)) stored
    · exact members_again (fun other inner => distinct other (List.mem_cons_of_mem _ inner))
        member later stored

end

theorem Settled.of_distinct {top : Members} (distinct : (Value.obj top).Distinct)
    (below : Members) : Settled (overlay below top) top :=
  settled_overlay distinct.keys (members_again fun _ inside =>
    distinct.find? ((Assoc.lookup_eq_some_iff distinct.keys).mpr inside)) below

/-! ## Merges -/

/-- A tag that is set stands in the result whatever it was before, and where the fragment puts no
object over the tags they are the same each time. -/
theorem tags_again {fragment : Root} (distinct : (Value.obj fragment).Distinct) (stored : Root)
    (before after : Value) :
    (Members.child Root.tagsKey (overlay ((overlay stored fragment).updateChild Root.tagsKey
      (Members.insert Root.latestKey before)) fragment)).insert Root.latestKey after =
      ((overlay stored fragment).child Root.tagsKey).insert Root.latestKey after := by
  cases found : Members.find? Root.tagsKey fragment with
  | none =>
    rw [child_overlay_of_none distinct.keys _ found, Members.child_updateChild_self,
      Members.insert, Members.insert, Assoc.insert_insert_self]
  | some value =>
    by_cases isObject : ∃ tags, value = .obj tags
    · obtain ⟨tags, rfl⟩ := isObject
      have inner := distinct.find? found
      rw [child_overlay distinct.keys _ found inner.keys, Members.child_updateChild_self,
        child_overlay distinct.keys _ found inner.keys]
      exact (Settled.of_distinct inner _).insert_overlay _ _ _
    · have plain : value.isObject = false := by
        cases value with
        | obj tags => exact absurd ⟨tags, rfl⟩ isObject
        | _ => rfl
      have none_ (below : Members) : (overlay below fragment).child Root.tagsKey = [] := by
        rw [Members.child, find?_overlay distinct.keys, found]
        dsimp only
        rw [overlayValue_of_plain plain]
        cases value with
        | obj tags => cases plain
        | _ => rfl
      rw [none_, none_]

theorem givenText_overlayValue {stored : Option Value} {value : Value}
    (below : ∀ old ∈ stored, old.givenText = "") (top : value.givenText = "") :
    (overlayValue stored value).givenText = "" := by
  cases value with
  | obj members =>
    cases members with
    | nil =>
      cases stored with
      | none => rfl
      | some old =>
        cases old with
        | obj inner => exact below _ rfl
        | _ => rfl
    | cons member rest =>
      -- an object with a member is shown between braces
      have shown := WideText.ofString_injective top
      simp [Value.shownInside] at shown
  | _ => exact top

/-- Where neither document gives a text, their overlay does not give it either. -/
theorem givenText_overlay {below top : Members} (distinct : (Assoc.keys top).Nodup) {key : WideText}
    (old : below.givenText key = "") (new : top.givenText key = "") :
    Members.givenText key (overlay below top) = "" := by
  rw [Members.givenText, find?_overlay distinct]
  cases found : top.find? key with
  | none => exact old
  | some value =>
    have own : value.givenText = "" := by
      rwa [Members.givenText, found] at new
    refine givenText_overlayValue (fun stored isStored => ?_) own
    rwa [Members.givenText, Option.mem_def.mp isStored] at old

theorem latestTag_overlay {stored fragment : Root} (distinct : (Value.obj fragment).Distinct)
    (below : latestTag stored = "") (top : latestTag fragment = "") :
    latestTag (overlay stored fragment) = "" := by
  cases found : Members.find? Root.tagsKey fragment with
  | none => rwa [latestTag, child_overlay_of_none distinct.keys _ found]
  | some value =>
    cases value with
    | obj tags =>
      rw [latestTag, Members.child, found] at top
      rw [latestTag, child_overlay distinct.keys _ found (distinct.find? found).keys]
      exact givenText_overlay (distinct.find? found).keys below top
    | _ =>
      rw [latestTag, Members.child, find?_overlay distinct.keys, found]
      rfl

theorem latestTag_insert_child (latest : WideText) (root : Root) :
    latestTag (root.updateChild Root.tagsKey (Members.insert Root.latestKey (.str latest))) =
      latest := by
  rw [latestTag, Members.child_updateChild_self, Members.givenText, Members.find?,
    Assoc.lookup_insert_self]
  exact Value.givenText_str latest

/-- A fragment that was merged into a root changes nothing when it is merged again. -/
theorem merge_merge (stored : Root) {fragment : Root} (distinct : (Value.obj fragment).Distinct) :
    merge (merge stored fragment) fragment = merge stored fragment := by
  have settled : Settled (overlay stored fragment) fragment := .of_distinct distinct stored
  by_cases given : keptTag (latestTag stored) (latestTag fragment) = ""
  · have below : latestTag stored = "" := by
      by_contra own
      rw [keptTag, if_neg own] at given
      exact own given
    have top : latestTag fragment = "" := by rwa [keptTag, if_pos below] at given
    have merged : merge stored fragment = overlay stored fragment := by rw [merge, if_pos given]
    have none_ := latestTag_overlay distinct below top
    rw [merged, merge, none_, top, keptTag, if_pos rfl, if_pos rfl, settled.overlay_eq]
  · let latest := keptTag (latestTag stored) (latestTag fragment)
    have merged : merge stored fragment = (overlay stored fragment).updateChild Root.tagsKey
        (Members.insert Root.latestKey (.str latest)) := by
      rw [merge, if_neg given]
    have tag : latestTag (merge stored fragment) = latest := by
      rw [merged, latestTag_insert_child]
    have kept : keptTag (latestTag (merge stored fragment)) (latestTag fragment) = latest := by
      rw [tag, keptTag, if_neg given]
    rw [merge, kept, if_neg given, merged, Members.updateChild, tags_again distinct stored]
    exact settled.insert_overlay _ _ _

/-- Tags in every shape: what is stored under `latest` is no text, and the fragment would put
another object in its place. -/
theorem merge_merge_odd_tags :
    let stored : Root := [("dist-tags", .obj [("latest", .obj [("x", .int 1)])])]
    let fragment : Root :=
      [("dist-tags", .obj [("latest", .obj [("x", .null), ("y", .arr [])]), ("beta", .str "2")])]
    (Value.obj fragment).Distinct ∧
      merge (merge stored fragment) fragment = merge stored fragment := by
  intro stored fragment
  have storable : (Value.obj fragment).Storable :=
    ⟨by decide, ⟨by decide, ⟨by decide, trivial, trivial, trivial⟩, trivial, trivial⟩, trivial⟩
  exact ⟨storable.distinct, merge_merge stored storable.distinct⟩

end RegistryMend.Package

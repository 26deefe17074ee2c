import RegistryMend.Proofs.Json.Alike

/-! # Reordering keys

A value is reordered by listing the keys of any object in it in another order. Values that differ in
nothing else are the same once all keys are sorted, so they have one canonical text, and that text
reads back as one of them.
-/

namespace RegistryMend.Json

/-! ## Members with the same look-ups -/

/-- Members with distinct keys are sorted by key in one way only. -/
theorem sortByKey_congr {α : Type} {members others : List (WideText × α)}
    (distinct : (Assoc.keys members).Nodup) (perm : members.Perm others) :
    sortByKey members = sortByKey others := by
  have same : (sortByKey members).Perm (sortByKey others) :=
    (sortByKey_perm members).trans (perm.trans (sortByKey_perm others).symm)
  have distinct_ : (Assoc.keys (sortByKey members)).Nodup :=
    ((sortByKey_perm members).map _).nodup_iff.mpr distinct
  refine same.eq_of_pairwise ?_ (pairwise_sortByKey members) (pairwise_sortByKey others)
  -- Entries that may stand before each other have one key, and a key has one entry.
  rintro ⟨key, first⟩ ⟨key_, second⟩ member member_ before behind
  rw [decide_eq_true_eq] at before behind
  obtain rfl := WideText.le_antisymm before behind
  have found := (Assoc.lookup_eq_some_iff distinct_).mpr member
  rw [(Assoc.lookup_eq_some_iff distinct_).mpr (same.mem_iff.mpr member_)] at found
  rw [Option.some.inj found]

namespace Members

theorem keys_sortedMembers (members : Members) :
    Assoc.keys (sortedMembers members) = Assoc.keys members := by
  rw [sortedMembers_eq_map, Assoc.keys, List.map_map]
  rfl

/-- Members that are alike under every key are the same once all keys are sorted. -/
theorem sorted_ext {members others : Members} (distinct : (Assoc.keys members).Nodup)
    (distinct_ : (Assoc.keys others).Nodup)
    (alike : ∀ key, Alike (members.find? key) (others.find? key)) :
    members.sorted = others.sorted := by
  rw [← keys_sortedMembers] at distinct distinct_
  refine sortByKey_congr distinct (Assoc.perm_of_lookup distinct distinct_ ?_)
  intro key
  rw [sortedMembers_eq_map, sortedMembers_eq_map, Assoc.lookup_map, Assoc.lookup_map]
  exact alike key

/-- Members that are the same once all keys are sorted are alike under every key. -/
theorem alike_of_sorted {members others : Members} (distinct : (Assoc.keys members).Nodup)
    (distinct_ : (Assoc.keys others).Nodup) (same : members.sorted = others.sorted)
    (key : WideText) : Alike (members.find? key) (others.find? key) := by
  rw [Alike, ← find?_sorted distinct, same, find?_sorted distinct_]

end Members

/-! ## Canonical text -/

theorem joinMembers_sortByKey (members : List (WideText × List Char)) :
    joinMembers (sortByKey members) = joinMembers members := by
  rw [joinMembers, joinMembers, sortByKey_sortByKey]

mutual

/-- Sorting keys first does not change the canonical text. -/
@[simp] theorem Value.canonicalChars_sorted : ∀ value : Value,
    value.sorted.canonicalChars = value.canonicalChars
  | .arr items => by
    rw [Value.sorted, Value.canonicalChars, Value.canonicalChars, canonicalItems_sorted items]
  | .obj members => by
    rw [Value.sorted, Value.canonicalChars, Value.canonicalChars, canonicalMembers_eq_map,
      ← sortByKey_map, ← canonicalMembers_eq_map, joinMembers_sortByKey,
      canonicalMembers_sorted members]
  | .null | .bool _ | .int _ | .double _ | .str _ => rfl

theorem canonicalItems_sorted : ∀ items : List Value,
    canonicalItems (sortedItems items) = canonicalItems items
  | [] => rfl
  | item :: rest => by
    rw [sortedItems, canonicalItems, canonicalItems, item.canonicalChars_sorted,
      canonicalItems_sorted rest]

theorem canonicalMembers_sorted : ∀ members : List (WideText × Value),
    canonicalMembers (sortedMembers members) = canonicalMembers members
  | [] => rfl
  | (key, value) :: rest => by
    rw [sortedMembers, canonicalMembers, canonicalMembers, value.canonicalChars_sorted,
      canonicalMembers_sorted rest]

end

/-- Values that are the same once all keys are sorted have one canonical text. -/
theorem canonical_of_sorted {first second : Value} (same : first.sorted = second.sorted) :
    first.canonical = second.canonical := by
  rw [Value.canonical, Value.canonical, ← first.canonicalChars_sorted, same,
    second.canonicalChars_sorted]

/-! ## Reordered values -/

/-- Two values that differ in nothing but the order in which objects at any depth list their
keys. -/
inductive Reordered : Value → Value → Prop
  | refl (value : Value) : Reordered value value
  | trans {first second third : Value} (one : Reordered first second)
      (other : Reordered second third) : Reordered first third
  | keys {members others : Members} (perm : members.Perm others) :
      Reordered (.obj members) (.obj others)
  | item {first second : Value} (before after : List Value) (within : Reordered first second) :
      Reordered (.arr (before ++ first :: after)) (.arr (before ++ second :: after))
  | member {first second : Value} (before : Members) (key : WideText) (after : Members)
      (within : Reordered first second) :
      Reordered (.obj (before ++ (key, first) :: after)) (.obj (before ++ (key, second) :: after))

namespace Reordered

theorem symm {first second : Value} (same : Reordered first second) : Reordered second first := by
  induction same with
  | refl value => exact .refl value
  | trans _ _ ih ih_ => exact .trans ih_ ih
  | keys perm => exact .keys perm.symm
  | item before after _ ih => exact .item before after ih
  | member before key after _ ih => exact .member before key after ih

/-- A reordered value can be stored, and sorting its keys gives the same value. -/
theorem sorted_eq {first second : Value} (same : Reordered first second)
    (storable : first.Storable) : second.Storable ∧ first.sorted = second.sorted := by
  induction same with
  | refl value => exact ⟨storable, rfl⟩
  | trans _ _ ih ih_ =>
    obtain ⟨storable, one⟩ := ih storable
    obtain ⟨storable, other⟩ := ih_ storable
    exact ⟨storable, one.trans other⟩
  | @keys members others perm =>
    obtain ⟨distinct, values⟩ := Members.storable_iff.mp storable
    constructor
    · refine Members.storable_iff.mpr ⟨(perm.map _).nodup_iff.mp distinct, ?_⟩
      intro member present
      exact values member (perm.mem_iff.mpr present)
    · rw [Value.sorted, Value.sorted, sortedMembers_eq_map, sortedMembers_eq_map,
        sortByKey_map, sortByKey_map, sortByKey_congr distinct perm]
  | @item first second before after _ ih =>
    have items := itemsStorable_iff.mp storable
    obtain ⟨kept, inner⟩ := ih (items first (by simp))
    constructor
    · refine itemsStorable_iff.mpr fun other present => ?_
      rcases List.mem_append.mp present with earlier | later
      · exact items other (by simp [earlier])
      rcases List.mem_cons.mp later with rfl | later
      · exact kept
      · exact items other (by simp [later])
    · rw [Value.sorted, Value.sorted, sortedItems_eq_map, sortedItems_eq_map]
      simp [inner]
  | @member first second before key after _ ih =>
    obtain ⟨distinct, values⟩ := Members.storable_iff.mp storable
    obtain ⟨kept, inner⟩ := ih (values (key, first) (by simp))
    constructor
    · refine Members.storable_iff.mpr ⟨by simpa [Assoc.keys] using distinct, ?_⟩
      intro other present
      rcases List.mem_append.mp present with earlier | later
      · exact values other (by simp [earlier])
      rcases List.mem_cons.mp later with rfl | later
      · exact kept
      · exact values other (by simp [later])
    · rw [Value.sorted, Value.sorted, sortedMembers_eq_map, sortedMembers_eq_map]
      simp [inner]

/-- Items may be reordered one by one. -/
theorem items {items others : List Value} (each : List.Forall₂ Reordered items others)
    (before : List Value) : Reordered (.arr (before ++ items)) (.arr (before ++ others)) := by
  induction each generalizing before with
  | nil => exact .refl _
  | @cons first second rest _ within _ ih =>
    refine .trans (.item before rest within) ?_
    simpa using ih (before ++ [second])

/-- The values of members may be reordered one by one. -/
theorem members {members others : Members}
    (each : List.Forall₂ (fun one other => one.1 = other.1 ∧ Reordered one.2 other.2)
      members others) (before : Members) :
    Reordered (.obj (before ++ members)) (.obj (before ++ others)) := by
  induction each generalizing before with
  | nil => exact .refl _
  | @cons first second rest _ within _ ih =>
    obtain ⟨key, value⟩ := first
    obtain ⟨key_, value_⟩ := second
    obtain ⟨rfl, within⟩ := within
    refine .trans (.member before key rest within) ?_
    simpa using ih (before ++ [(key, value_)])

end Reordered

mutual

/-- Sorting keys only reorders. -/
theorem reordered_sorted : ∀ value : Value, Reordered value value.sorted
  | .arr items => .items (reordered_sortedItems items) []
  | .obj members =>
    .trans (.members (reordered_sortedMembers members) []) (.keys (sortByKey_perm _).symm)
  | .null | .bool _ | .int _ | .double _ | .str _ => .refl _

theorem reordered_sortedItems : ∀ items : List Value,
    List.Forall₂ Reordered items (sortedItems items)
  | [] => .nil
  | item :: rest => .cons (reordered_sorted item) (reordered_sortedItems rest)

theorem reordered_sortedMembers : ∀ members : List (WideText × Value),
    List.Forall₂ (fun one other => one.1 = other.1 ∧ Reordered one.2 other.2)
      members (sortedMembers members)
  | [] => .nil
  | (_, value) :: rest => .cons ⟨rfl, reordered_sorted value⟩ (reordered_sortedMembers rest)

end

/-- Values that can be stored differ in the order of keys alone exactly if sorting their keys gives
the same value. -/
theorem reordered_iff {first second : Value} (storable : first.Storable) :
    Reordered first second ↔ first.sorted = second.sorted := by
  constructor
  · intro same
    exact (same.sorted_eq storable).2
  · intro same
    refine .trans (reordered_sorted first) ?_
    rw [same]
    exact (reordered_sorted second).symm

/-- The values that can be stored are those that are read back from their canonical text, up to the
order of keys. -/
theorem storable_iff_read_canonical {value : Value} :
    value.Storable ↔ ∃ found, Value.read value.canonical = .ok found ∧ Reordered value found := by
  constructor
  · intro storable
    exact ⟨value.sorted, read_canonical storable, reordered_sorted value⟩
  · rintro ⟨found, read, same⟩
    exact (same.symm.sorted_eq (storable_read read)).1

/-- A double can be stored if its text reads as the same double. -/
theorem storable_double_iff {d : Decimal.Double} :
    (Value.double d).Storable ↔ Value.read (Value.double d).canonical = .ok (.double d) := by
  constructor
  · exact read_canonical
  · exact storable_read

/-! ## Values that match -/

/-- Two values that can be stored and differ at most in the order of keys. -/
structure Value.Matches (first second : Value) : Prop where
  left : first.Storable
  right : second.Storable
  sorted : first.sorted = second.sorted

namespace Value.Matches

theorem refl {value : Value} (storable : value.Storable) : Matches value value :=
  ⟨storable, storable, rfl⟩

theorem symm {first second : Value} (same : Matches first second) : Matches second first :=
  ⟨same.right, same.left, same.sorted.symm⟩

theorem trans {first second third : Value} (one : Matches first second)
    (other : Matches second third) : Matches first third :=
  ⟨one.left, other.right, one.sorted.trans other.sorted⟩

theorem canonical {first second : Value} (same : Matches first second) :
    first.canonical = second.canonical :=
  canonical_of_sorted same.sorted

/-- Values that differ in the order of keys alone match. -/
theorem of_reordered {first second : Value} (storable : first.Storable)
    (same : Reordered first second) : Matches first second :=
  ⟨storable, (same.sorted_eq storable).1, (same.sorted_eq storable).2⟩

/-- Texts match only themselves. -/
theorem string? {first second : Option Value} (same : Option.Rel Matches first second) :
    first.bind Value.string? = second.bind Value.string? := by
  cases same with
  | none => rfl
  | @some first second same =>
    rw [Option.bind_some, Option.bind_some, ← first.string?_sorted, same.sorted,
      second.string?_sorted]

end Value.Matches

namespace Members

/-- Two objects that can be stored and differ at most in the order of keys. -/
def Matches (members others : Members) : Prop :=
  Value.Matches (.obj members) (.obj others)

namespace Matches

variable {members others : Members}

theorem distinct (same : Matches members others) :
    (Assoc.keys members).Nodup ∧ (Assoc.keys others).Nodup :=
  ⟨(storable_iff.mp same.left).1, (storable_iff.mp same.right).1⟩

theorem sorted_eq (same : Matches members others) : members.sorted = others.sorted :=
  Value.obj.inj same.sorted

theorem sorted_self (storable : members.Storable) : Matches members.sorted members :=
  (Value.Matches.of_reordered storable (reordered_sorted (.obj members))).symm

/-- Objects match if what they have under each key does. -/
theorem ext (left : members.Storable) (right : others.Storable)
    (each : ∀ key, Alike (members.find? key) (others.find? key)) : Matches members others :=
  ⟨left, right, congrArg Value.obj
    (sorted_ext (storable_iff.mp left).1 (storable_iff.mp right).1 each)⟩

theorem alike (same : Matches members others) (key : WideText) :
    Alike (members.find? key) (others.find? key) :=
  alike_of_sorted same.distinct.1 same.distinct.2 same.sorted_eq key

theorem find? (same : Matches members others) (key : WideText) :
    Option.Rel Value.Matches (members.find? key) (others.find? key) := by
  have alike := same.alike key
  cases found : members.find? key with
  | none =>
    rw [found] at alike
    rw [Option.map_eq_none_iff.mp alike.symm]
    exact .none
  | some first =>
    rw [found] at alike
    obtain ⟨second, found_, sorted⟩ := Option.map_eq_some_iff.mp alike.symm
    rw [found_]
    exact .some ⟨Storable.find? same.left found, Storable.find? same.right found_, sorted.symm⟩

theorem insert (same : Matches members others) {first second : Value}
    (new : Value.Matches first second) (key : WideText) :
    Matches (members.insert key first) (others.insert key second) := by
  refine ext (Storable.insert same.left new.left key) (Storable.insert same.right new.right key)
    fun other => ?_
  rw [Members.find?, Members.find?, Members.insert, Members.insert, Assoc.lookup_insert,
    Assoc.lookup_insert]
  by_cases equal : other = key
  · rw [if_pos equal, if_pos equal]
    exact congrArg some new.sorted
  · rw [if_neg equal, if_neg equal]
    exact same.alike other

theorem child (same : Matches members others) (key : WideText) :
    Matches (members.child key) (others.child key) := by
  refine ⟨Storable.child same.left key, Storable.child same.right key, congrArg Value.obj ?_⟩
  rw [← Members.sorted, ← Members.sorted, ← child_sorted same.distinct.1, same.sorted_eq,
    child_sorted same.distinct.2]

end Matches

/-- Insertions under different keys may change places. -/
theorem matches_insert_insert {members : Members} (storable : members.Storable) {key other : WideText}
    (differ : key ≠ other) {first second : Value} (new : first.Storable) (new_ : second.Storable) :
    Matches ((members.insert key first).insert other second)
      ((members.insert other second).insert key first) := by
  refine Matches.ext ((storable.insert new key).insert new_ other)
    ((storable.insert new_ other).insert new key) fun field => ?_
  refine .of_eq ?_
  simp only [Members.find?, Members.insert, Assoc.lookup_insert]
  by_cases one : field = key
  · rw [if_pos one, if_pos one, if_neg (one.trans_ne differ)]
  · rw [if_neg one, if_neg one]

end Members

end RegistryMend.Json

import RegistryMend.Proofs.Json.ReadBack

/-! # Values up to the order of keys

Two values are alike if they differ at most in the order in which objects list their keys. That is
so exactly if both are the same once all keys are sorted, and nothing is changed by sorting twice.
-/

namespace RegistryMend.Json

theorem pairwise_sortByKey {α : Type} (members : List (WideText × α)) :
    (sortByKey members).Pairwise fun a b => decide (a.1 ≤ b.1) = true := by
  refine List.pairwise_mergeSort ?_ ?_ members
  · intro a b c first second
    rw [decide_eq_true_eq] at first second ⊢
    exact WideText.le_trans first second
  · intro a b
    rw [Bool.or_eq_true, decide_eq_true_eq, decide_eq_true_eq]
    exact WideText.le_total a.1 b.1

theorem sortByKey_sortByKey {α : Type} (members : List (WideText × α)) :
    sortByKey (sortByKey members) = sortByKey members :=
  List.mergeSort_of_pairwise (pairwise_sortByKey members)

mutual

@[simp] theorem Value.sorted_sorted : ∀ value : Value, value.sorted.sorted = value.sorted
  | .arr items => congrArg Value.arr (sortedItems_sortedItems items)
  | .obj members => by
    rw [Value.sorted, Value.sorted, sortedMembers_eq_map (sortByKey _), ← sortByKey_map,
      ← sortedMembers_eq_map, sortedMembers_sortedMembers members, sortByKey_sortByKey]
  | .null | .bool _ | .int _ | .double _ | .str _ => rfl

theorem sortedItems_sortedItems : ∀ items : List Value,
    sortedItems (sortedItems items) = sortedItems items
  | [] => rfl
  | item :: rest => by
    rw [sortedItems, sortedItems, item.sorted_sorted, sortedItems_sortedItems rest]

theorem sortedMembers_sortedMembers : ∀ members : List (WideText × Value),
    sortedMembers (sortedMembers members) = sortedMembers members
  | [] => rfl
  | (key, value) :: rest => by
    rw [sortedMembers, sortedMembers, value.sorted_sorted, sortedMembers_sortedMembers rest]

end

/-- Two values, or none, that differ at most in the order of keys. -/
def Alike (first second : Option Value) : Prop :=
  first.map Value.sorted = second.map Value.sorted

theorem Alike.of_eq {first second : Option Value} (same : first = second) : Alike first second :=
  congrArg (Option.map Value.sorted) same

theorem Alike.trans {first second third : Option Value} (one : Alike first second)
    (other : Alike second third) : Alike first third :=
  Eq.trans one other

/-- Sorting keys gives members that are alike. -/
theorem Members.alike_sorted {members : Members} (distinct : (Assoc.keys members).Nodup)
    (key : WideText) : Alike (members.find? key) (members.sorted.find? key) := by
  rw [Alike, find?_sorted distinct, Option.map_map]
  exact congrArg (fun change => (members.find? key).map change)
    (funext fun value => value.sorted_sorted.symm)

end RegistryMend.Json

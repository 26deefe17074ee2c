import Mathlib.Algebra.Ring.Int.Defs
import Mathlib.Data.List.Forall2
import RegistryMend.Storage.Table

/-! # Rows before and after a write

A write replaces the row with its key where it stands. A selection of rows by their keys is
written in the same way, or not at all if the key is not selected.
-/

namespace RegistryMend.Storage

variable {ρ κ : Type} {key : ρ → κ} [DecidableEq κ]

/-- The row that is found under a key has it. -/
theorem Table.key_of_find? {table : Table ρ key} {k : κ} {row : ρ}
    (found : table.find? k = some row) : key row = k := by
  rw [Table.find?] at found
  simpa using List.find?_some found

/-- Keys are distinct, so every row is found under its own. -/
theorem Table.find?_of_mem {table : Table ρ key} {row : ρ} (member : row ∈ table.rows) :
    table.find? (key row) = some row := by
  have distinct := table.distinct
  rw [Table.find?]
  generalize table.rows = rows at member distinct ⊢
  induction rows with
  | nil => cases member
  | cons r rest ih =>
    rw [List.map_cons, List.nodup_cons] at distinct
    rcases List.mem_cons.mp member with rfl | member
    · exact List.find?_cons_of_pos (decide_eq_true rfl)
    · have differ : key r ≠ key row := fun same =>
        distinct.1 (List.mem_map.mpr ⟨row, member, same.symm⟩)
      rw [List.find?_cons_of_neg (by simpa using differ)]
      exact ih member distinct.2

/-- A write to a key that is in use replaces its row and keeps all others. -/
theorem Table.rows_put {table : Table ρ key} {row old : ρ}
    (found : table.find? (key row) = some old) :
    (table.put row).rows = table.rows.map fun r => if key r = key row then row else r := by
  have distinct := table.distinct
  rw [Table.find?] at found
  change putRow key row table.rows = _
  generalize table.rows = rows at found distinct ⊢
  induction rows with
  | nil => cases found
  | cons r rest ih =>
    rw [List.map_cons, List.nodup_cons] at distinct
    by_cases same : key r = key row
    · have others : ∀ other ∈ rest, (if key other = key row then row else other) = other := by
        intro other member
        refine if_neg fun equal => distinct.1 ?_
        exact List.mem_map.mpr ⟨other, member, equal.trans same.symm⟩
      rw [putRow, if_pos same, List.map_cons, if_pos same, List.map_congr_left others,
        List.map_id']
    · rw [List.find?_cons_of_neg (by simpa using same)] at found
      rw [putRow, if_neg same, List.map_cons, if_neg same, ih found distinct.2]

/-- A write to a key that is in use relates the rows before and after it one by one. -/
theorem Table.forall₂_put {R : ρ → ρ → Prop} (refl : ∀ row, R row row) {table : Table ρ key}
    {row old : ρ} (found : table.find? (key row) = some old) (related : R old row) :
    List.Forall₂ R table.rows (table.put row).rows := by
  rw [Table.rows_put found, List.forall₂_map_right_iff]
  refine List.forall₂_same.mpr fun r member => ?_
  by_cases same : key r = key row
  · have found_ := Table.find?_of_mem member
    rw [same, found] at found_
    rw [if_pos same, ← Option.some.inj found_]
    exact related
  · rw [if_neg same]
    exact refl r

/-- A write adds to a sum over the rows what its row has more than the row that it replaces. -/
theorem Table.sum_put (table : Table ρ key) (row : ρ) (amount : ρ → Int) :
    ((table.put row).rows.map amount).sum + ((table.find? (key row)).map amount).getD 0 =
      (table.rows.map amount).sum + amount row := by
  change ((putRow key row table.rows).map amount).sum +
    ((table.rows.find? fun r => key r = key row).map amount).getD 0 = _
  generalize table.rows = rows
  induction rows with
  | nil => simp [putRow]
  | cons r rest ih =>
    by_cases same : key r = key row
    · rw [putRow, if_pos same, List.find?_cons_of_pos (by simpa using same)]
      simp only [List.map_cons, List.sum_cons, Option.map_some, Option.getD_some]
      omega
    · rw [putRow, if_neg same, List.find?_cons_of_neg (by simpa using same)]
      simp only [List.map_cons, List.sum_cons]
      omega

theorem forall₂_trans {R : ρ → ρ → Prop} (trans : ∀ {a b c}, R a b → R b c → R a c)
    {first second third : List ρ} (one : List.Forall₂ R first second)
    (other : List.Forall₂ R second third) : List.Forall₂ R first third := by
  induction one generalizing third with
  | nil => exact other
  | cons related _ ih =>
    cases other with
    | cons related_ rest => exact .cons (trans related related_) (ih rest)

/-! ## Selections -/

/-- The rows whose keys are selected. -/
def Table.select (keep : κ → Bool) (table : Table ρ key) : Table ρ key where
  rows := table.rows.filter fun row => keep (key row)
  distinct := table.distinct.sublist (List.filter_sublist.map key)

theorem Table.find?_select {keep : κ → Bool} (table : Table ρ key) {k : κ}
    (selected : keep k = true) : (table.select keep).find? k = table.find? k := by
  rw [Table.find?, Table.find?, Table.select, List.find?_filter]
  congr 1
  funext row
  by_cases same : key row = k <;> simp [same, selected]

theorem Table.find?_select_of_not {keep : κ → Bool} (table : Table ρ key) {k : κ}
    (beside : keep k = false) : (table.select keep).find? k = none := by
  rw [Table.find?, Table.select, List.find?_filter, List.find?_eq_none]
  intro row _
  by_cases same : key row = k <;> simp [same, beside]

theorem Table.select_put {keep : κ → Bool} (table : Table ρ key) {row : ρ}
    (selected : keep (key row) = true) :
    (table.put row).select keep = (table.select keep).put row := by
  refine Table.ext_rows ?_
  simp only [Table.select, Table.put]
  induction table.rows with
  | nil => simp [putRow, selected]
  | cons r rest ih =>
    by_cases same : key r = key row
    · simp [putRow, same, selected]
    · by_cases kept : keep (key r) = true
      · simp [putRow, same, kept, ih]
      · simp [putRow, same, kept, ih]

/-- A write beside a selection does not change it. -/
theorem Table.select_put_of_not {keep : κ → Bool} (table : Table ρ key) {row : ρ}
    (beside : keep (key row) = false) : (table.put row).select keep = table.select keep := by
  refine Table.ext_rows ?_
  simp only [Table.select, Table.put]
  induction table.rows with
  | nil => simp [putRow, beside]
  | cons r rest ih =>
    by_cases same : key r = key row
    · simp [putRow, same, beside]
    · by_cases kept : keep (key r) = true
      · simp [putRow, same, kept, ih]
      · simp [putRow, same, kept, ih]

end RegistryMend.Storage

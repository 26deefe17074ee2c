/-! # Tables

The rows of a table are kept in the order of their insertion, and no two of them have the same
key. Assets are numbered and kept in the order of their numbers.
-/

namespace RegistryMend.Storage

/-- Replaces the row with the same key, or adds the row at the end. -/
def putRow {ρ κ : Type} [DecidableEq κ] (key : ρ → κ) (row : ρ) : List ρ → List ρ
  | [] => [row]
  | r :: rest => if key r = key row then row :: rest else r :: putRow key row rest

theorem map_putRow {ρ κ : Type} [DecidableEq κ] (key : ρ → κ) (row : ρ) (rows : List ρ) :
    (putRow key row rows).map key =
      if key row ∈ rows.map key then rows.map key else rows.map key ++ [key row] := by
  induction rows with
  | nil => simp [putRow]
  | cons r rest ih =>
    by_cases same : key r = key row
    · simp [putRow, same]
    · have differ : key row ≠ key r := fun equal => same equal.symm
      simp only [putRow, same, if_false, List.map_cons, ih, List.mem_cons, differ, false_or]
      split <;> simp

/-- A table whose rows have different keys. -/
structure Table (ρ : Type) {κ : Type} (key : ρ → κ) where
  rows : List ρ
  distinct : (rows.map key).Nodup
deriving Repr

namespace Table

variable {ρ κ : Type} {key : ρ → κ}

/-- The table without rows. -/
def empty : Table ρ key := ⟨[], List.nodup_nil⟩

theorem ext_rows {first second : Table ρ key} (same : first.rows = second.rows) :
    first = second := by
  cases first; cases second; simp_all

variable [DecidableEq κ]

/-- The row with a key. -/
def find? (table : Table ρ key) (k : κ) : Option ρ :=
  table.rows.find? fun row => key row = k

/-- Whether a key is in use. -/
def holds (table : Table ρ key) (k : κ) : Bool :=
  (table.find? k).isSome

/-- Replaces the row with the same key, or adds the row. -/
def put (table : Table ρ key) (row : ρ) : Table ρ key where
  rows := putRow key row table.rows
  distinct := by
    rw [map_putRow]
    split
    · exact table.distinct
    · next absent =>
      rw [List.nodup_append]
      exact ⟨table.distinct, by simp, by grind⟩

/-- Adds a row, unless its key is in use. -/
def insert? (table : Table ρ key) (row : ρ) : Option (Table ρ key) :=
  if table.holds (key row) then none else some (table.put row)

@[simp] theorem find?_put_self (table : Table ρ key) (row : ρ) :
    (table.put row).find? (key row) = some row := by
  simp only [find?, put]
  induction table.rows with
  | nil => simp [putRow]
  | cons r rest ih =>
    by_cases same : key r = key row
    · simp [putRow, same]
    · simp [putRow, same, ih]

theorem find?_put_of_ne (table : Table ρ key) (row : ρ) {k : κ} (differ : k ≠ key row) :
    (table.put row).find? k = table.find? k := by
  simp only [find?, put]
  induction table.rows with
  | nil => simp [putRow, differ.symm]
  | cons r rest ih =>
    by_cases same : key r = key row
    · simp [putRow, same, differ.symm]
    · by_cases wanted : key r = k
      · simp [putRow, wanted, differ]
      · simp [putRow, same, wanted, ih]

end Table

end RegistryMend.Storage

/-! # Lists of keys and values

Keys stand in the order in which they first came in, and each has the value that came last. A value
is found by `List.lookup`.
-/

namespace RegistryMend.Assoc

variable {κ α : Type} [BEq κ]

/-- Replaces the value of a key, or adds the key behind all others. -/
def insert (key : κ) (value : α) : List (κ × α) → List (κ × α)
  | [] => [(key, value)]
  | (k, v) :: rest => if key == k then (key, value) :: rest else (k, v) :: insert key value rest

@[simp] theorem insert_nil (key : κ) (value : α) : insert key value [] = [(key, value)] := rfl

variable [LawfulBEq κ]

@[simp] theorem lookup_insert_self (key : κ) (value : α) (entries : List (κ × α)) :
    (insert key value entries).lookup key = some value := by
  induction entries with
  | nil => simp
  | cons entry rest ih =>
    obtain ⟨k, v⟩ := entry
    by_cases same : key = k
    · simp [insert, same]
    · simp [insert, List.lookup_cons, beq_false_of_ne same, ih]

theorem lookup_insert_of_ne {key other : κ} (differ : other ≠ key) (value : α)
    (entries : List (κ × α)) : (insert key value entries).lookup other = entries.lookup other := by
  induction entries with
  | nil => simp [List.lookup_cons, beq_false_of_ne differ]
  | cons entry rest ih =>
    obtain ⟨k, v⟩ := entry
    by_cases same : key = k
    · subst same
      simp [insert, List.lookup_cons, beq_false_of_ne differ]
    · simp [insert, List.lookup_cons, beq_false_of_ne same, ih]

/-- Writing a key twice leaves the second value. -/
theorem insert_insert_self (key : κ) (first second : α) (entries : List (κ × α)) :
    insert key second (insert key first entries) = insert key second entries := by
  induction entries with
  | nil => simp [insert]
  | cons entry rest ih =>
    obtain ⟨k, v⟩ := entry
    by_cases same : key = k
    · simp [insert, same]
    · simp [insert, beq_false_of_ne same, ih]

end RegistryMend.Assoc

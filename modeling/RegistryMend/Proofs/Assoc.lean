import Mathlib.Data.List.Nodup
import RegistryMend.Assoc

/-! # Lists with distinct keys

Inserting keeps keys distinct. Where they are, a key has a value exactly if the two stand in the
list together, whatever the order of the entries.
-/

namespace RegistryMend.Assoc

variable {κ α : Type}

/-- The keys of a list, in its order. -/
def keys (entries : List (κ × α)) : List κ :=
  entries.map (·.1)

@[simp] theorem keys_nil : keys ([] : List (κ × α)) = [] := rfl

@[simp] theorem keys_cons (entry : κ × α) (rest : List (κ × α)) :
    keys (entry :: rest) = entry.1 :: keys rest := rfl

theorem mem_keys {key : κ} {entries : List (κ × α)} :
    key ∈ keys entries ↔ ∃ value, (key, value) ∈ entries := by
  simp [keys]

/-- A key that stands behind others is none of them, if no key stands twice. -/
theorem notMem_keys_of_nodup {key : κ} {value : α} {entries rest : List (κ × α)}
    (distinct : (keys (entries ++ (key, value) :: rest)).Nodup) : key ∉ keys entries := by
  intro before
  simp only [keys, List.map_append, List.map_cons, List.nodup_append] at distinct
  exact distinct.2.2 key before key (List.mem_cons_self ..) rfl

section

variable [BEq κ] [LawfulBEq κ]

theorem eq_or_mem_of_mem_insert {key : κ} {value : α} {entry : κ × α} {entries : List (κ × α)}
    (member : entry ∈ insert key value entries) : entry = (key, value) ∨ entry ∈ entries := by
  induction entries with
  | nil => simpa [insert] using member
  | cons first rest ih =>
    obtain ⟨k, v⟩ := first
    by_cases same : key = k
    · simp only [insert, same, beq_self_eq_true, if_true, List.mem_cons] at member
      rw [same]
      exact member.imp_right (List.mem_cons_of_mem _)
    · simp only [insert, beq_false_of_ne same, Bool.false_eq_true, if_false,
        List.mem_cons] at member
      rcases member with rfl | member
      · exact .inr (List.mem_cons_self ..)
      · exact (ih member).imp_right (List.mem_cons_of_mem _)

/-- What is found under a key stands in the list. -/
theorem mem_of_lookup {key : κ} {value : α} {entries : List (κ × α)}
    (found : entries.lookup key = some value) : (key, value) ∈ entries := by
  induction entries with
  | nil => simp at found
  | cons entry rest ih =>
    obtain ⟨k, v⟩ := entry
    by_cases same : key = k
    · simp only [same, List.lookup_cons, beq_self_eq_true, Option.some.injEq] at found
      rw [same, found]
      exact List.mem_cons_self ..
    · simp only [List.lookup_cons, beq_false_of_ne same] at found
      exact List.mem_cons_of_mem _ (ih found)

end

variable [DecidableEq κ]

/-- A look-up after an insertion. -/
theorem lookup_insert (key other : κ) (value : α) (entries : List (κ × α)) :
    (insert key value entries).lookup other =
      if other = key then some value else entries.lookup other := by
  split
  · next same => rw [same, lookup_insert_self]
  · next differ => exact lookup_insert_of_ne differ value entries

/-- A new key comes last. -/
theorem insert_of_notMem {key : κ} {entries : List (κ × α)} (fresh : key ∉ keys entries)
    (value : α) : insert key value entries = entries ++ [(key, value)] := by
  induction entries with
  | nil => rfl
  | cons entry rest ih =>
    obtain ⟨k, v⟩ := entry
    rw [keys_cons, List.mem_cons, not_or] at fresh
    rw [insert, if_neg (by simpa using fresh.1), ih fresh.2, List.cons_append]

theorem keys_insert (key : κ) (value : α) (entries : List (κ × α)) :
    keys (insert key value entries) =
      if key ∈ keys entries then keys entries else keys entries ++ [key] := by
  induction entries with
  | nil => rfl
  | cons entry rest ih =>
    obtain ⟨k, v⟩ := entry
    by_cases same : key = k
    · simp [insert, same]
    · simp only [insert, beq_false_of_ne same, keys_cons, List.mem_cons, same, false_or, ih,
        Bool.false_eq_true, if_false]
      split <;> rfl

theorem nodup_keys_insert {entries : List (κ × α)} (distinct : (keys entries).Nodup) (key : κ)
    (value : α) : (keys (insert key value entries)).Nodup := by
  rw [keys_insert]
  split
  · exact distinct
  · next fresh =>
    rw [List.nodup_append]
    exact ⟨distinct, List.nodup_singleton key, by grind⟩

theorem lookup_of_notMem {key : κ} {entries : List (κ × α)} (fresh : key ∉ keys entries) :
    entries.lookup key = none := by
  cases found : entries.lookup key with
  | none => rfl
  | some value => exact absurd (mem_keys.mpr ⟨value, mem_of_lookup found⟩) fresh

/-- Inserting what is found already changes nothing. -/
theorem insert_of_lookup {key : κ} {value : α} {entries : List (κ × α)}
    (found : entries.lookup key = some value) : insert key value entries = entries := by
  induction entries with
  | nil => cases found
  | cons entry rest ih =>
    obtain ⟨k, v⟩ := entry
    by_cases same : key = k
    · simp only [same, List.lookup_cons, beq_self_eq_true, Option.some.injEq] at found
      simp [insert, same, found]
    · rw [List.lookup_cons, beq_false_of_ne same] at found
      simp [insert, same, ih found]

/-- With distinct keys everything in the list is found. -/
theorem lookup_eq_some_iff {key : κ} {value : α} {entries : List (κ × α)}
    (distinct : (keys entries).Nodup) :
    entries.lookup key = some value ↔ (key, value) ∈ entries := by
  refine ⟨mem_of_lookup, fun member => ?_⟩
  induction entries with
  | nil => simp at member
  | cons entry rest ih =>
    obtain ⟨k, v⟩ := entry
    rw [keys_cons, List.nodup_cons] at distinct
    rcases List.mem_cons.mp member with same | later
    · cases same
      simp
    · have differ : key ≠ k := by
        rintro rfl
        exact distinct.1 (mem_keys.mpr ⟨value, later⟩)
      rw [List.lookup_cons, beq_false_of_ne differ]
      exact ih distinct.2 later

/-- With distinct keys the order of the entries does not matter. -/
theorem lookup_perm {entries others : List (κ × α)} (distinct : (keys entries).Nodup)
    (same : entries.Perm others) (key : κ) : others.lookup key = entries.lookup key := by
  have distinct_ : (keys others).Nodup := (same.map _).nodup_iff.mp distinct
  ext value
  rw [lookup_eq_some_iff distinct_, lookup_eq_some_iff distinct, same.mem_iff]

/-- With distinct keys the same look-ups make the same entries, up to their order. -/
theorem perm_of_lookup {entries others : List (κ × α)} (distinct : (keys entries).Nodup)
    (distinct_ : (keys others).Nodup)
    (same : ∀ key, entries.lookup key = others.lookup key) : entries.Perm others := by
  refine (List.perm_ext_iff_of_nodup (.of_map _ distinct) (.of_map _ distinct_)).mpr ?_
  rintro ⟨key, value⟩
  rw [← lookup_eq_some_iff distinct, ← lookup_eq_some_iff distinct_, same]

/-- Changing every value changes the values that are found. -/
theorem lookup_map {β : Type} (change : α → β) (key : κ) (entries : List (κ × α)) :
    (entries.map fun entry => (entry.1, change entry.2)).lookup key =
      (entries.lookup key).map change := by
  induction entries with
  | nil => rfl
  | cons entry rest ih =>
    obtain ⟨k, v⟩ := entry
    by_cases same : key = k
    · simp [same]
    · simp [List.lookup_cons, beq_false_of_ne same, ih]

end RegistryMend.Assoc

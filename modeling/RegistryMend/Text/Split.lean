/-! # Cutting text at a character

A text is cut at the first occurrence of a character.
-/

namespace RegistryMend.Text

variable {α : Type} [DecidableEq α]

/-- The characters before the first occurrence of a separator and those behind it, if it occurs. -/
def splitFirst? (separator : α) : List α → Option (List α × List α)
  | [] => none
  | c :: rest =>
    if c = separator then some ([], rest)
    else (splitFirst? separator rest).map fun (before, after) => (c :: before, after)

/-- The characters before the first occurrence of a separator, or all of them. -/
def before (separator : α) (cs : List α) : List α :=
  cs.takeWhile (· ≠ separator)

theorem splitFirst?_eq_none_iff {separator : α} {cs : List α} :
    splitFirst? separator cs = none ↔ separator ∉ cs := by
  induction cs with
  | nil => simp [splitFirst?]
  | cons c rest ih =>
    by_cases same : c = separator
    · simp [splitFirst?, same]
    · simp [splitFirst?, same, ih, Ne.symm same]

theorem splitFirst?_eq_some {separator : α} {cs left right : List α}
    (found : splitFirst? separator cs = some (left, right)) :
    cs = left ++ separator :: right ∧ separator ∉ left := by
  induction cs generalizing left with
  | nil => simp [splitFirst?] at found
  | cons c rest ih =>
    by_cases same : c = separator
    · simp only [splitFirst?, same, if_true, Option.some.injEq, Prod.mk.injEq] at found
      obtain ⟨rfl, rfl⟩ := found
      simp [same]
    · simp only [splitFirst?, same, if_false, Option.map_eq_some_iff] at found
      obtain ⟨⟨first, second⟩, inner, pair⟩ := found
      simp only [Prod.mk.injEq] at pair
      obtain ⟨rfl, rfl⟩ := pair
      have parts := ih inner
      refine ⟨by rw [parts.1]; rfl, ?_⟩
      simp only [List.mem_cons, not_or]
      exact ⟨fun equal => same equal.symm, parts.2⟩

/-- The cut is the one at the first separator. -/
theorem splitFirst?_append {separator : α} {left : List α} (apart : separator ∉ left)
    (right : List α) : splitFirst? separator (left ++ separator :: right) =
      some (left, right) := by
  induction left with
  | nil => simp [splitFirst?]
  | cons c rest ih =>
    rw [List.mem_cons, not_or] at apart
    simp [splitFirst?, Ne.symm apart.1, ih apart.2]

/-- What stands before a separator that occurs is the first part of the cut. -/
theorem before_eq_of_splitFirst? {separator : α} {cs left right : List α}
    (found : splitFirst? separator cs = some (left, right)) : before separator cs = left := by
  obtain ⟨rfl, apart⟩ := splitFirst?_eq_some found
  have all : ∀ c ∈ left, decide (c ≠ separator) = true := by
    intro c member
    exact decide_eq_true fun equal => apart (equal ▸ member)
  rw [before, List.takeWhile_append_of_pos all]
  simp

end RegistryMend.Text

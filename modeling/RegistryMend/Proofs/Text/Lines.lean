import Mathlib.Data.List.Basic
import RegistryMend.Text.Lines

/-! # Lines of joined texts

Unifying the line ends of a text changes none of its lines. Two texts with a line feed between them
have the lines of the one and then those of the other, with an empty line between them if the first
has ended its last line already.
-/

namespace RegistryMend.Text

theorem linesFrom_carriage (line rest : List Char) :
    linesFrom line ('\r' :: '\n' :: rest) = line.reverse :: linesFrom [] rest := by
  rw [linesFrom]

/-- A character other than a carriage return before a line feed ends the line on its own or
belongs to it. -/
theorem linesFrom_cons {c : Char} {rest : List Char} (line : List Char)
    (alone : c = '\r' → rest.head? ≠ some '\n') :
    linesFrom line (c :: rest) =
      if isLineBoundary c then line.reverse :: linesFrom [] rest
      else linesFrom (c :: line) rest := by
  rw [linesFrom]
  rintro later rfl rfl
  exact alone rfl rfl

/-- A character that makes no line end together with the next one. -/
theorem alone_of_apart {c : Char} {rest : List Char}
    (apart : ∀ later, c = '\r' → rest = '\n' :: later → False) :
    c = '\r' → rest.head? ≠ some '\n' := by
  intro carriage starts
  obtain ⟨later, same⟩ := List.head?_eq_some_iff.mp starts
  exact apart later carriage same

theorem alone_append {c : Char} {rest : List Char} {b : List Char}
    (apart : ∀ later, c = '\r' → rest = '\n' :: later → False) (more : c = '\r' → rest ≠ []) :
    c = '\r' → (rest ++ b).head? ≠ some '\n' := by
  intro carriage
  rw [List.head?_append_of_ne_nil _ (more carriage)]
  exact alone_of_apart apart carriage

/-- A line feed that no carriage return goes before ends a line. -/
theorem linesFrom_newline (line rest : List Char) :
    linesFrom line ('\n' :: rest) = line.reverse :: lines rest := by
  rw [linesFrom_cons line fun same => absurd same (by decide), if_pos (by decide)]
  rfl

/-- The induction is on the line ends; a line may be open. -/
theorem linesFrom_unifyLineEnds (line cs : List Char) :
    linesFrom line (unifyLineEnds cs) = linesFrom line cs := by
  induction cs using unifyLineEnds.induct generalizing line with
  | case1 rest ih =>
    rw [unifyLineEnds, linesFrom_carriage, linesFrom_newline, lines, ih]
  | case2 rest apart ih =>
    have alone := alone_of_apart (c := '\r') fun later _ => apart later
    rw [unifyLineEnds.eq_2 _ apart, linesFrom_newline, lines, linesFrom_cons line alone,
      if_pos (by decide), ih]
  | case3 c rest apart other ih =>
    have alone (later : List Char) : c = '\r' → later.head? ≠ some '\n' :=
      fun same => (other same).elim
    rw [unifyLineEnds.eq_3 _ _ apart other, linesFrom_cons line (alone _),
      linesFrom_cons line (alone _), ih, ih]
  | case4 => rfl

@[simp] theorem lines_unifyLineEnds (cs : List Char) : lines (unifyLineEnds cs) = lines cs :=
  linesFrom_unifyLineEnds [] cs

/-- A line feed behind a text ends its last line. If that was ended already, there is an empty line
before the next text. -/
theorem linesFrom_append_newline (line a b : List Char) :
    ∃ gap, (∀ between ∈ gap, between = []) ∧
      linesFrom line (a ++ '\n' :: b) = linesFrom line a ++ (gap ++ lines b) := by
  induction line, a using linesFrom.induct with
  | case1 => exact ⟨[[]], by simp, linesFrom_newline [] b⟩
  | case2 line someLine =>
    refine ⟨[], nofun, ?_⟩
    rw [linesFrom.eq_2 _ someLine]
    exact linesFrom_newline line b
  | case3 line rest ih =>
    obtain ⟨gap, empty, same⟩ := ih
    refine ⟨gap, empty, ?_⟩
    rw [List.cons_append, List.cons_append, linesFrom_carriage, linesFrom_carriage, same]
    rfl
  | case4 line c rest apart boundary ih =>
    by_cases ending : c = '\r' ∧ rest = []
    · -- A carriage return at the very end and the line feed behind it are one line end.
      obtain ⟨rfl, rfl⟩ := ending
      refine ⟨[], nofun, ?_⟩
      rw [linesFrom_cons line (by simp), if_pos boundary]
      exact linesFrom_carriage line b
    · obtain ⟨gap, empty, same⟩ := ih
      refine ⟨gap, empty, ?_⟩
      rw [List.cons_append, linesFrom_cons line (alone_of_apart apart), if_pos boundary,
        linesFrom_cons line (alone_append apart fun same none => ending ⟨same, none⟩),
        if_pos boundary, same]
      rfl
  | case5 line c rest apart inner ih =>
    obtain ⟨gap, empty, same⟩ := ih
    refine ⟨gap, empty, ?_⟩
    have other : c ≠ '\r' := by
      rintro rfl
      exact inner (by decide)
    rw [List.cons_append, linesFrom_cons line (alone_of_apart apart), if_neg inner,
      linesFrom_cons line fun same => absurd same other, if_neg inner, same]

/-- Two texts with a line feed between them have the lines of both, but for empty ones between. -/
theorem lines_append_newline (a b : List Char) :
    ∃ gap, (∀ between ∈ gap, between = []) ∧
      lines (a ++ '\n' :: b) = lines a ++ (gap ++ lines b) :=
  linesFrom_append_newline [] a b

end RegistryMend.Text

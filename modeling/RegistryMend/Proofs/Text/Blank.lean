import Mathlib.Data.List.TakeWhile
import RegistryMend.Text.Blank

/-! # Trimmed texts and words

A trimmed text neither starts nor ends with a character that trimming removes, and texts of that
kind are what trimming leaves alone. The words of a text are solid, which means that they are not
empty and hold no blanks, and solid texts with single spaces between them have themselves as words.
-/

namespace RegistryMend.Text

/-! ## Trimming -/

section

variable {α : Type} {drop : α → Bool} {c : α} {cs : List α}

theorem head?_dropWhile (first : (cs.dropWhile drop).head? = some c) : drop c = false := by
  have not := List.head?_dropWhile_not drop cs
  rw [first] at not
  simpa using not

theorem getLast?_trimBy (last : (trimBy drop cs).getLast? = some c) : drop c = false := by
  rw [trimBy, List.getLast?_reverse] at last
  exact head?_dropWhile last

/-- What is removed from the end leaves the first character, if it leaves any. -/
theorem head?_trimBy (first : (trimBy drop cs).head? = some c) : drop c = false := by
  obtain ⟨removed, split⟩ := List.dropWhile_suffix drop (l := (cs.dropWhile drop).reverse)
  have rest : cs.dropWhile drop = trimBy drop cs ++ removed.reverse := by
    rw [trimBy, ← List.reverse_append, split, List.reverse_reverse]
  have kept : (cs.dropWhile drop).head? = some c := by
    rw [rest, List.head?_append, first]
    rfl
  exact head?_dropWhile kept

theorem trimBy_eq_self (first : ∀ c, cs.head? = some c → drop c = false)
    (last : ∀ c, cs.getLast? = some c → drop c = false) : trimBy drop cs = cs := by
  have front : cs.dropWhile drop = cs := by
    cases cs with
    | nil => rfl
    | cons c rest => exact List.dropWhile_cons_of_neg (by simp [first c rfl])
  have back : cs.reverse.dropWhile drop = cs.reverse := by
    cases reversed : cs.reverse with
    | nil => rfl
    | cons c rest =>
      have isLast : cs.getLast? = some c := by rw [← List.head?_reverse, reversed]; rfl
      exact List.dropWhile_cons_of_neg (by simp [last c isLast])
  rw [trimBy, front, back, List.reverse_reverse]

@[simp] theorem trimBy_trimBy (drop : α → Bool) (cs : List α) :
    trimBy drop (trimBy drop cs) = trimBy drop cs :=
  trimBy_eq_self (fun _ => head?_trimBy) fun _ => getLast?_trimBy

/-- What is left stands together in the text. -/
theorem isInfix_trimBy (drop : α → Bool) (cs : List α) : trimBy drop cs <:+: cs := by
  have front : trimBy drop cs <+: cs.dropWhile drop := by
    rw [← List.reverse_suffix, trimBy, List.reverse_reverse]
    exact List.dropWhile_suffix drop
  exact front.isInfix.trans (List.dropWhile_suffix drop).isInfix

theorem mem_of_mem_trimBy (member : c ∈ trimBy drop cs) : c ∈ cs :=
  (isInfix_trimBy drop cs).subset member

theorem mem_dropWhile_of_mem (member : c ∈ cs) (kept : drop c = false) :
    c ∈ cs.dropWhile drop := by
  rw [← List.takeWhile_append_dropWhile (p := drop) (l := cs), List.mem_append] at member
  rcases member with taken | rest
  · rw [List.mem_takeWhile_imp taken] at kept
    cases kept
  · exact rest

/-- Trimming removes no character but those that it is to remove. -/
theorem mem_trimBy (member : c ∈ cs) (kept : drop c = false) : c ∈ trimBy drop cs := by
  rw [trimBy, List.mem_reverse]
  apply mem_dropWhile_of_mem _ kept
  exact List.mem_reverse.mpr (mem_dropWhile_of_mem member kept)

/-- Nothing is left of a text of characters that are to be removed, and of no other text. -/
theorem trimBy_eq_nil_iff : trimBy drop cs = [] ↔ ∀ c ∈ cs, drop c = true := by
  constructor
  · intro empty c member
    by_contra kept
    have left := mem_trimBy member (by simpa using kept)
    rw [empty] at left
    cases left
  · intro all
    rw [trimBy, List.dropWhile_eq_nil_iff.mpr all]
    rfl

end

/-- Texts are trimmed before or after their entries are changed alike. -/
theorem trimBy_map {α β : Type} (change : α → β) (drop : β → Bool) (cs : List α) :
    trimBy drop (cs.map change) = (trimBy (fun c => drop (change c)) cs).map change := by
  rw [trimBy, trimBy, List.dropWhile_map, ← List.map_reverse, List.dropWhile_map, List.map_reverse]
  rfl

theorem trim_eq_empty_iff {s : String} : trim s = "" ↔ allBlank s = true := by
  rw [trim, ← String.toList_eq_nil_iff, String.toList_ofList, trimBlanks, trimBy_eq_nil_iff,
    allBlank, List.all_eq_true]

@[simp] theorem trim_trim (s : String) : trim (trim s) = trim s := by
  rw [trim, trim, String.toList_ofList, trimBlanks, trimBlanks, trimBy_trimBy]

/-! ## Runs -/

section

variable {p : Char → Bool} {run rest : List Char}

/-- A run ends before what does not belong to it. -/
theorem takeWhile_append_of_apart (all : ∀ c ∈ run, p c = true)
    (apart : ∀ c, rest.head? = some c → p c = false) : (run ++ rest).takeWhile p = run := by
  rw [List.takeWhile_append_of_pos all]
  cases rest with
  | nil => exact List.append_nil run
  | cons c rest => rw [List.takeWhile_cons_of_neg (by simp [apart c rfl]), List.append_nil]

theorem dropWhile_append_of_apart (all : ∀ c ∈ run, p c = true)
    (apart : ∀ c, rest.head? = some c → p c = false) : (run ++ rest).dropWhile p = rest := by
  rw [List.dropWhile_append_of_pos all]
  cases rest with
  | nil => rfl
  | cons c rest => exact List.dropWhile_cons_of_neg (by simp [apart c rfl])

end

/-! ## Words -/

/-- A text that is not empty and holds no blanks. -/
def Solid (word : List Char) : Prop :=
  word ≠ [] ∧ ∀ c ∈ word, isBlank c = false

variable {cs word : List Char}

/-- Every word is solid; the induction is on the text behind the words before it. -/
theorem solid_of_mem_words (member : word ∈ words cs) : Solid word := by
  induction h : cs.length using Nat.strongRecOn generalizing cs with
  | ind n ih =>
    subst h
    cases cs with
    | nil => simp at member
    | cons c rest =>
      cases blank : isBlank c with
      | true =>
        rw [words_cons_blank blank] at member
        exact ih rest.length (by simp) member rfl
      | false =>
        rw [words_cons blank, List.mem_cons] at member
        rcases member with rfl | later
        · refine ⟨List.cons_ne_nil _ _, ?_⟩
          intro d inside
          rcases List.mem_cons.mp inside with rfl | inside
          · exact blank
          · simpa using List.mem_takeWhile_imp inside
        · have shorter := (List.dropWhile_suffix (l := rest) fun c => !isBlank c).length_le
          exact ih _ (by simp only [List.length_cons]; omega) later rfl

/-- There are words in a text unless it holds nothing but blanks. -/
theorem words_eq_nil_iff : words cs = [] ↔ ∀ c ∈ cs, isBlank c = true := by
  induction cs with
  | nil => simp
  | cons c rest ih =>
    cases blank : isBlank c with
    | true => rw [words_cons_blank blank, ih, List.forall_mem_cons, blank, eq_self, true_and]
    | false => simp [words_cons blank, blank]

/-- A solid text that stands alone or before a blank is the first word. -/
theorem words_append (solid : Solid word) (rest : List Char)
    (apart : ∀ c, rest.head? = some c → isBlank c = true) :
    words (word ++ rest) = word :: words rest := by
  obtain ⟨some_, clean⟩ := solid
  cases word with
  | nil => exact absurd rfl some_
  | cons c tail =>
    have kept : ∀ d ∈ tail, (!isBlank d) = true := by
      intro d inside
      rw [clean d (List.mem_cons_of_mem _ inside), Bool.not_false]
    have stops : ∀ d, rest.head? = some d → (!isBlank d) = false := by
      intro d first
      rw [apart d first, Bool.not_true]
    rw [List.cons_append, words_cons (clean c List.mem_cons_self),
      takeWhile_append_of_apart kept stops, dropWhile_append_of_apart kept stops]

/-- Solid texts with single spaces between them are the words of the whole. -/
theorem words_intercalate {fields : List (List Char)} (solid : ∀ field ∈ fields, Solid field) :
    words ([' '].intercalate fields) = fields := by
  induction fields with
  | nil => rfl
  | cons field rest ih =>
    have first := solid field List.mem_cons_self
    have others := ih fun other member => solid other (List.mem_cons_of_mem _ member)
    cases rest with
    | nil =>
      have alone := words_append first [] nofun
      simpa using alone
    | cons next rest =>
      have spaced : [' '].intercalate (field :: next :: rest) =
          field ++ ' ' :: [' '].intercalate (next :: rest) := by
        simp [List.intercalate]
      have space : ∀ c, (' ' :: [' '].intercalate (next :: rest)).head? = some c →
          isBlank c = true := by
        rintro c ⟨⟩
        rfl
      rw [spaced, words_append first _ space, words_cons_blank rfl, others]

end RegistryMend.Text

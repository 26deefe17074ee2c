import Mathlib.Data.List.Basic
import RegistryMend.Proofs.Text.Blank
import RegistryMend.Text.Casing

/-! # Lower case once and again

No lower-case form has another one, so that a text in lower case stays as it is. As no form is a
blank either, a trimmed text is still trimmed in lower case. Both rest on the table of runs, which
is checked run against run: the forms that a run gives lie apart from every other run.
-/

namespace RegistryMend.Text

/-- The code points of blanks. -/
def blankSpans : Ranges := [
  (0x09, 0x0d), (0x1c, 0x20), (0x85, 0x85), (0xa0, 0xa0), (0x1680, 0x1680), (0x2000, 0x200a),
  (0x2028, 0x2029), (0x202f, 0x202f), (0x205f, 0x205f), (0x3000, 0x3000)]

theorem isBlank_iff (c : Char) : isBlank c = true ↔ blankSpans.contains c = true := by
  simp only [isBlank, Ranges.contains, blankSpans, List.any_cons, List.any_nil, Bool.or_eq_true,
    Bool.and_eq_true, decide_eq_true_eq, beq_iff_eq, Bool.false_eq_true, or_false]
  omega

namespace CaseRun

/-- A code point is one that the run moves. -/
def Holds (run : CaseRun) (n : Nat) : Prop :=
  run.first ≤ n ∧ n ≤ run.last ∧ (n - run.first) % run.step = 0

/-- Where a run moves a code point to. -/
def moved (run : CaseRun) (n : Nat) : Nat :=
  n + run.up - run.down

/-- Whether all forms that a run gives lie outside a range. -/
def avoids (run : CaseRun) (low high : Nat) : Bool :=
  high < run.moved run.first || run.moved run.last < low

/-- Whether no form that a run gives is moved by another one: the two lie apart, or the other holds
every second code point and the forms are those between. -/
def apart (run other : CaseRun) : Bool :=
  run.avoids other.first other.last ||
    (other.step == 2 && (run.step == 2 || run.first == run.last) &&
      run.moved run.first % 2 != other.first % 2)

/-- Whether the forms that a run gives are characters, and neither blanks nor the one letter that
has a lower-case form of two characters. -/
def plain (run : CaseRun) : Bool :=
  run.down ≤ run.first && run.avoids 0xd800 0xdfff && run.moved run.last < 0x110000 &&
    run.avoids 0x130 0x130 && blankSpans.all fun span => run.avoids span.1 span.2

variable {run other : CaseRun} {n : Nat}

theorem moved_of_holds (small : run.down ≤ run.first) (holds : run.Holds n) :
    run.moved run.first ≤ run.moved n ∧ run.moved n ≤ run.moved run.last := by
  obtain ⟨low, high, -⟩ := holds
  simp only [moved]
  omega

theorem outside_of_avoids {low high : Nat} (avoids : run.avoids low high = true)
    (small : run.down ≤ run.first) (holds : run.Holds n) :
    run.moved n < low ∨ high < run.moved n := by
  have bounds := moved_of_holds small holds
  simp only [CaseRun.avoids, Bool.or_eq_true, decide_eq_true_eq] at avoids
  omega

theorem not_holds_moved (apart : run.apart other = true) (small : run.down ≤ run.first)
    (holds : run.Holds n) : ¬ other.Holds (run.moved n) := by
  intro again
  simp only [CaseRun.apart, Bool.or_eq_true, Bool.and_eq_true, beq_iff_eq, bne_iff_ne] at apart
  rcases apart with avoids | ⟨⟨second, thin⟩, parity⟩
  · have outside := outside_of_avoids avoids small holds
    have low := again.1
    have high := again.2.1
    omega
  · obtain ⟨low, high, even⟩ := holds
    obtain ⟨low_, -, even_⟩ := again
    rw [second] at even_
    -- Every second code point: the one moved has the parity of the first of its run.
    have same : n % 2 = run.first % 2 := by
      rcases thin with two | single
      · rw [two] at even
        omega
      · omega
    simp only [moved] at parity low_ even_
    omega

end CaseRun

theorem lowerRuns_apart : ∀ run ∈ lowerRuns, ∀ other ∈ lowerRuns, run.apart other = true := by
  have checked : (lowerRuns.all fun run => lowerRuns.all run.apart) = true := by decide +kernel
  simpa only [List.all_eq_true] using checked

theorem lowerRuns_plain : ∀ run ∈ lowerRuns, run.plain = true := by
  have checked : lowerRuns.all CaseRun.plain = true := by decide +kernel
  simpa only [List.all_eq_true] using checked

/-! ## Characters -/

/-- A character that is its own lower-case form. -/
def IsLower (c : Char) : Prop :=
  c ≠ 'İ' ∧ ∀ run ∈ lowerRuns, ¬ run.Holds c.toNat

instance (run : CaseRun) (n : Nat) : Decidable (run.Holds n) :=
  inferInstanceAs (Decidable (_ ∧ _))

instance (c : Char) : Decidable (IsLower c) :=
  inferInstanceAs (Decidable (_ ∧ _))

/-- The forms of a character: that of a run that holds it, or itself. -/
theorem lowerChar_cases (c : Char) :
    (c = 'İ' ∧ lowerChar c = ['i', Char.ofNat 0x307]) ∨
    (∃ run ∈ lowerRuns, run.Holds c.toNat ∧ lowerChar c = [Char.ofNat (run.moved c.toNat)]) ∨
    (IsLower c ∧ lowerChar c = [c]) := by
  by_cases dotted : c = 'İ'
  · exact .inl ⟨dotted, by rw [lowerChar, if_pos dotted]⟩
  · rw [lowerChar, if_neg dotted]
    split
    · next run found =>
      have holds := List.find?_some found
      simp only [Bool.and_eq_true, decide_eq_true_eq, beq_iff_eq] at holds
      exact .inr (.inl ⟨run, List.mem_of_find?_eq_some found, ⟨holds.1.1, holds.1.2, holds.2⟩, rfl⟩)
    · next missing =>
      refine .inr (.inr ⟨⟨dotted, ?_⟩, rfl⟩)
      intro run member holds
      have passed := List.find?_eq_none.mp missing run member
      simp [holds.1, holds.2.1, holds.2.2] at passed

theorem lowerChar_of_isLower {c : Char} (lower : IsLower c) : lowerChar c = [c] := by
  rcases lowerChar_cases c with ⟨dotted, -⟩ | ⟨run, member, holds, -⟩ | ⟨-, same⟩
  · exact absurd dotted lower.1
  · exact absurd holds (lower.2 run member)
  · exact same

theorem ne_sigma_of_isLower {c : Char} (lower : IsLower c) : c ≠ 'Σ' := by
  rintro rfl
  revert lower
  decide +kernel

/-- A form that a run gives is in lower case and no blank. -/
theorem moved_settled {run : CaseRun} {n : Nat} (member : run ∈ lowerRuns) (holds : run.Holds n) :
    IsLower (Char.ofNat (run.moved n)) ∧ isBlank (Char.ofNat (run.moved n)) = false := by
  have plain := lowerRuns_plain run member
  simp only [CaseRun.plain, Bool.and_eq_true, decide_eq_true_eq, List.all_eq_true] at plain
  obtain ⟨⟨⟨⟨small, surrogates⟩, bound⟩, dotted⟩, blanks⟩ := plain
  have bounds := CaseRun.moved_of_holds small holds
  have between := CaseRun.outside_of_avoids surrogates small holds
  have valid : (run.moved n).isValidChar := by
    simp only [Nat.isValidChar]
    omega
  have code : (Char.ofNat (run.moved n)).toNat = run.moved n := by
    rw [Char.ofNat, dif_pos valid]
    rfl
  refine ⟨⟨?_, ?_⟩, ?_⟩
  · intro same
    have outside := CaseRun.outside_of_avoids dotted small holds
    rw [← code, same] at outside
    revert outside
    decide
  · intro other member_
    rw [code]
    exact CaseRun.not_holds_moved (lowerRuns_apart run member other member_) small holds
  · rw [Bool.eq_false_iff]
    intro blank
    obtain ⟨span, inside, low, high⟩ := Ranges.contains_iff.mp ((isBlank_iff _).mp blank)
    have outside := CaseRun.outside_of_avoids (blanks span inside) small holds
    omega

/-- The forms of a character are in lower case, and are no blanks if it is none. -/
theorem settled_of_mem_lowerChar {c d : Char} (member : d ∈ lowerChar c) :
    IsLower d ∧ (isBlank c = false → isBlank d = false) := by
  rcases lowerChar_cases c with ⟨-, forms⟩ | ⟨run, inside, holds, forms⟩ | ⟨lower, forms⟩
  · rw [forms] at member
    simp only [List.mem_cons, List.not_mem_nil, or_false] at member
    have letter : IsLower 'i' ∧ isBlank 'i' = false := by decide +kernel
    have dot : IsLower (Char.ofNat 0x307) ∧ isBlank (Char.ofNat 0x307) = false := by decide +kernel
    rcases member with rfl | rfl
    · exact ⟨letter.1, fun _ => letter.2⟩
    · exact ⟨dot.1, fun _ => dot.2⟩
  · rw [forms, List.mem_singleton] at member
    rw [member]
    exact ⟨(moved_settled inside holds).1, fun _ => (moved_settled inside holds).2⟩
  · rw [forms, List.mem_singleton] at member
    rw [member]
    exact ⟨lower, id⟩

theorem lowerChar_ne_nil (c : Char) : lowerChar c ≠ [] := by
  rcases lowerChar_cases c with ⟨-, forms⟩ | ⟨run, -, -, forms⟩ | ⟨-, forms⟩ <;> simp [forms]

/-! ## Texts -/

/-- The first character becomes one or more in lower case; what they are may hang on what stands
around it. -/
theorem lowerFrom_cons (before : List Char) (c : Char) (rest : List Char) :
    ∃ forms, lowerFrom before (c :: rest) = forms ++ lowerFrom (c :: before) rest ∧ forms ≠ [] ∧
      ∀ d ∈ forms, IsLower d ∧ (isBlank c = false → isBlank d = false) := by
  by_cases sigma : c = 'Σ'
  · refine ⟨_, by rw [lowerFrom, if_pos sigma], List.cons_ne_nil _ _, ?_⟩
    intro d member
    rw [List.mem_singleton] at member
    rw [member]
    have final : IsLower 'ς' ∧ isBlank 'ς' = false := by decide +kernel
    have inner : IsLower 'σ' ∧ isBlank 'σ' = false := by decide +kernel
    split
    · exact ⟨final.1, fun _ => final.2⟩
    · exact ⟨inner.1, fun _ => inner.2⟩
  · exact ⟨_, by rw [lowerFrom, if_neg sigma], lowerChar_ne_nil c,
      fun _ member => settled_of_mem_lowerChar member⟩

theorem isLower_of_mem_lowerFrom {before cs : List Char} {d : Char}
    (member : d ∈ lowerFrom before cs) : IsLower d := by
  induction cs generalizing before with
  | nil => simp [lowerFrom] at member
  | cons c rest ih =>
    obtain ⟨forms, split, -, settled⟩ := lowerFrom_cons before c rest
    rw [split, List.mem_append] at member
    exact member.elim (fun first => (settled d first).1) ih

theorem lowerFrom_eq_self {before cs : List Char} (lower : ∀ c ∈ cs, IsLower c) :
    lowerFrom before cs = cs := by
  induction cs generalizing before with
  | nil => rfl
  | cons c rest ih =>
    have first := lower c List.mem_cons_self
    rw [lowerFrom, if_neg (ne_sigma_of_isLower first), lowerChar_of_isLower first,
      ih fun d member => lower d (List.mem_cons_of_mem _ member)]
    rfl

@[simp] theorem lowerCase_lowerCase (s : String) : lowerCase (lowerCase s) = lowerCase s := by
  rw [lowerCase, lowerCase, String.toList_ofList]
  exact congrArg String.ofList (lowerFrom_eq_self fun _ => isLower_of_mem_lowerFrom)

theorem lowerFrom_eq_nil_iff {before cs : List Char} : lowerFrom before cs = [] ↔ cs = [] := by
  cases cs with
  | nil => exact iff_of_true rfl rfl
  | cons c rest =>
    obtain ⟨forms, split, some_, -⟩ := lowerFrom_cons before c rest
    simp [split, some_]

theorem lowerCase_eq_empty_iff {s : String} : lowerCase s = "" ↔ s = "" := by
  rw [lowerCase, ← String.toList_eq_nil_iff, String.toList_ofList, lowerFrom_eq_nil_iff,
    String.toList_eq_nil_iff]

theorem head?_lowerFrom {before cs : List Char} {d : Char}
    (solid : ∀ c, cs.head? = some c → isBlank c = false)
    (first : (lowerFrom before cs).head? = some d) : isBlank d = false := by
  cases cs with
  | nil => simp [lowerFrom] at first
  | cons c rest =>
    obtain ⟨forms, split, some_, settled⟩ := lowerFrom_cons before c rest
    rw [split, List.head?_append_of_ne_nil _ some_] at first
    exact (settled d (List.mem_of_mem_head? first)).2 (solid c rfl)

theorem getLast?_lowerFrom {before cs : List Char} {d : Char}
    (solid : ∀ c, cs.getLast? = some c → isBlank c = false)
    (last : (lowerFrom before cs).getLast? = some d) : isBlank d = false := by
  induction cs generalizing before with
  | nil => simp [lowerFrom] at last
  | cons c rest ih =>
    obtain ⟨forms, split, some_, settled⟩ := lowerFrom_cons before c rest
    cases rest with
    | nil =>
      rw [split, lowerFrom, List.append_nil] at last
      exact (settled d (List.mem_of_getLast? last)).2 (solid c rfl)
    | cons e rest =>
      have more : lowerFrom (c :: before) (e :: rest) ≠ [] := by simp [lowerFrom_eq_nil_iff]
      rw [split, List.getLast?_append_of_ne_nil _ more] at last
      exact ih (fun c isLast => solid c (by rw [List.getLast?_cons_cons, isLast])) last

/-- A trimmed text is trimmed in lower case too. -/
@[simp] theorem trim_lowerCase_trim (s : String) :
    trim (lowerCase (trim s)) = lowerCase (trim s) := by
  simp only [trim, lowerCase, String.toList_ofList]
  refine congrArg String.ofList (trimBy_eq_self ?_ ?_)
  · intro d first
    exact head?_lowerFrom (fun _ => head?_trimBy) first
  · intro d last
    exact getLast?_lowerFrom (fun _ => getLast?_trimBy) last

end RegistryMend.Text

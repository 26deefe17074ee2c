import Mathlib.Algebra.Group.Nat.Defs
import Mathlib.Data.List.TakeWhile
import RegistryMend.Decimal.Integer
import RegistryMend.Decimal.Layout
import RegistryMend.Text.Digit

/-! # Strings of decimal digits

The digits of a number stand for the number, zeros in front of them change nothing, and zeros
behind them are powers of ten. The digits of a positive number do not start with a zero, also
without the zeros at their end. Different whole numbers have different texts.
-/

namespace RegistryMend.Text

/-- All characters are decimal digits. -/
def AllDigits (cs : List Char) : Prop :=
  ∀ c ∈ cs, isAsciiDigit c = true

theorem natOfDigits_eq_ofDigitChars (cs : List Char) :
    natOfDigits cs = Nat.ofDigitChars 10 cs 0 := rfl

theorem natOfDigits_append (first second : List Char) :
    natOfDigits (first ++ second) = 10 ^ second.length * natOfDigits first + natOfDigits second := by
  simp only [natOfDigits_eq_ofDigitChars, Nat.ofDigitChars_append]
  exact Nat.ofDigitChars_eq_ofDigitChars_zero

@[simp] theorem natOfDigits_toDigits (n : Nat) : natOfDigits (Nat.toDigits 10 n) = n :=
  Nat.ofDigitChars_ten_toDigits

@[simp] theorem natOfDigits_replicate_zero (n : Nat) : natOfDigits (List.replicate n '0') = 0 := by
  simp [natOfDigits_eq_ofDigitChars]

theorem isAsciiDigit_eq_isDigit (c : Char) : isAsciiDigit c = c.isDigit := by
  simp only [isAsciiDigit, Char.isDigit, Char.toNat, ge_iff_le, UInt32.le_iff_toNat_le]
  rfl

theorem allDigits_toDigits (n : Nat) : AllDigits (Nat.toDigits 10 n) := by
  intro c member
  rw [isAsciiDigit_eq_isDigit]
  exact Nat.isDigit_of_mem_toDigits (by decide) (by decide) member

theorem allDigits_replicate_zero (n : Nat) : AllDigits (List.replicate n '0') := by
  intro c member
  rw [List.eq_of_mem_replicate member]
  decide

theorem AllDigits.append {first second : List Char} (left : AllDigits first)
    (right : AllDigits second) : AllDigits (first ++ second) := by
  intro c member
  exact (List.mem_append.mp member).elim (left c) (right c)

/-- A string of digits stands for less than the power of ten with as many zeros. -/
theorem natOfDigits_lt {cs : List Char} (digits : AllDigits cs) :
    natOfDigits cs < 10 ^ cs.length := by
  induction cs with
  | nil => decide
  | cons c rest ih =>
    have later := ih fun other member => digits other (List.mem_cons_of_mem _ member)
    have head : c.toNat - 48 ≤ 9 := by
      have digit := digits c (List.mem_cons_self ..)
      simp only [isAsciiDigit, Bool.and_eq_true, decide_eq_true_eq] at digit
      omega
    have split : natOfDigits (c :: rest) = 10 ^ rest.length * (c.toNat - 48) + natOfDigits rest := by
      have single : natOfDigits [c] = c.toNat - 48 := by simp [natOfDigits]
      rw [← single, ← natOfDigits_append, List.singleton_append]
    have bound : 10 ^ rest.length * (c.toNat - 48) ≤ 10 ^ rest.length * 9 :=
      Nat.mul_le_mul_left _ head
    rw [split, List.length_cons, Nat.pow_succ]
    omega

/-- A positive number lies between the powers of ten around its count of digits. -/
theorem pow_length_toDigits {n : Nat} (positive : 0 < n) :
    10 ^ ((Nat.toDigits 10 n).length - 1) ≤ n ∧ n < 10 ^ (Nat.toDigits 10 n).length := by
  have some := Nat.length_toDigits_pos (b := 10) (n := n)
  refine ⟨?_, (Nat.length_toDigits_le_iff (by decide) some).mp le_rfl⟩
  rcases Nat.eq_zero_or_pos ((Nat.toDigits 10 n).length - 1) with one | more
  · rw [one]
    exact positive
  · have bound := Nat.length_toDigits_le_iff (b := 10) (n := n) (by decide) more
    omega

/-- The digits of a positive number start with another digit than zero. -/
theorem head?_toDigits_ne_zero {n : Nat} (positive : 0 < n) :
    (Nat.toDigits 10 n).head? ≠ some '0' := by
  induction n using Nat.strongRecOn with
  | _ n ih =>
    by_cases small : n < 10
    · rw [Nat.toDigits_of_lt_base small]
      intro same
      have code := Nat.toNat_digitChar_of_lt_ten small
      rw [Option.some.inj same] at code
      simp at code
      omega
    · have first := ih (n / 10) (by omega) (by omega)
      rw [Nat.toDigits_of_base_le (by decide) (by omega), List.head?_append]
      cases start : (Nat.toDigits 10 (n / 10)).head? with
      | none => exact absurd (List.head?_eq_none_iff.mp start) Nat.toDigits_ne_nil
      | some c => simpa [start] using first

end RegistryMend.Text

namespace RegistryMend.Decimal

open RegistryMend.Text

/-! ## Whole numbers -/

/-- The text of a whole number consists of digits behind a minus sign, if there is one. -/
theorem eq_minus_or_digit {n : Int} {c : Char} (member : c ∈ integerChars n) :
    c = '-' ∨ isAsciiDigit c = true := by
  rw [integerChars] at member
  split at member
  · rcases List.mem_cons.mp member with minus | digit
    · exact .inl minus
    · exact .inr (allDigits_toDigits _ c digit)
  · exact .inr (allDigits_toDigits _ c member)

theorem toDigits_inj {m n : Nat} (same : Nat.toDigits 10 m = Nat.toDigits 10 n) : m = n := by
  rw [← natOfDigits_toDigits m, same, natOfDigits_toDigits]

/-- The digits of a number have no sign in front of them. -/
theorem toDigits_ne_minus (m : Nat) (cs : List Char) : Nat.toDigits 10 m ≠ '-' :: cs := by
  intro same
  have digit := allDigits_toDigits m '-' (by rw [same]; exact List.mem_cons_self ..)
  revert digit
  decide

/-- Different numbers have different texts. -/
theorem integerText_injective : Function.Injective integerText := by
  intro m n same
  have chars : integerChars m = integerChars n := String.ofList_injective same
  rw [integerChars, integerChars] at chars
  split at chars <;> split at chars
  · have digits := toDigits_inj (List.cons.inj chars).2
    omega
  · exact absurd chars.symm (toDigits_ne_minus _ _)
  · exact absurd chars (toDigits_ne_minus _ _)
  · have digits := toDigits_inj chars
    omega

/-! ## Zeros at the end -/

/-- Dropping the zeros at the end keeps a part of the digits, and what is dropped are zeros. -/
theorem dropTrailingZeros_append {cs : List Char} (nonzero : natOfDigits cs ≠ 0) :
    ∃ count, cs = dropTrailingZeros cs ++ List.replicate count '0' := by
  obtain ⟨zeros, rest, split, all, kept⟩ :
      ∃ zeros rest, cs.reverse = zeros ++ rest ∧ (∀ c ∈ zeros, c = '0') ∧
        cs.reverse.dropWhile (· = '0') = rest := by
    refine ⟨cs.reverse.takeWhile (· = '0'), cs.reverse.dropWhile (· = '0'),
      List.takeWhile_append_dropWhile.symm, fun c member => ?_, rfl⟩
    simpa using List.mem_takeWhile_imp member
  have whole : cs = rest.reverse ++ zeros.reverse := by
    rw [← List.reverse_append, ← split, List.reverse_reverse]
  have same : zeros.reverse = List.replicate zeros.length '0' := by
    rw [List.eq_replicate_iff]
    exact ⟨List.length_reverse, fun c member => all c (List.mem_reverse.mp member)⟩
  refine ⟨zeros.length, ?_⟩
  rw [← same]
  cases left : rest.reverse with
  | nil =>
    rw [whole, left, List.nil_append, same] at nonzero
    exact absurd (natOfDigits_replicate_zero _) nonzero
  | cons c later =>
    have drop : dropTrailingZeros cs = c :: later := by simp only [dropTrailingZeros, kept, left]
    rw [drop, ← left]
    exact whole

/-- The digits of a positive number without the zeros at the end: they start with another digit
than zero, and a power of ten gives the number back. -/
theorem dropTrailingZeros_toDigits {n : Nat} (positive : 0 < n) :
    ∃ count, (Nat.toDigits 10 n).length = (dropTrailingZeros (Nat.toDigits 10 n)).length + count ∧
      n = natOfDigits (dropTrailingZeros (Nat.toDigits 10 n)) * 10 ^ count ∧
      AllDigits (dropTrailingZeros (Nat.toDigits 10 n)) ∧
      ∃ c rest, dropTrailingZeros (Nat.toDigits 10 n) = c :: rest ∧ c ≠ '0' := by
  have nonzero : natOfDigits (Nat.toDigits 10 n) ≠ 0 := by rw [natOfDigits_toDigits]; omega
  obtain ⟨count, split⟩ := dropTrailingZeros_append nonzero
  have digits := allDigits_toDigits n
  have head := head?_toDigits_ne_zero positive
  have value := natOfDigits_toDigits n
  generalize dropTrailingZeros (Nat.toDigits 10 n) = kept at split
  rw [split] at digits head value nonzero
  refine ⟨count, ?_, ?_, fun c member => digits c (List.mem_append_left _ member), ?_⟩
  · rw [split, List.length_append, List.length_replicate]
  · rw [← value, natOfDigits_append, natOfDigits_replicate_zero, List.length_replicate]
    exact Nat.mul_comm ..
  · cases kept with
    | nil => exact absurd (natOfDigits_replicate_zero _) nonzero
    | cons c rest => exact ⟨c, rest, rfl, fun zero => head (by simp [zero])⟩

end RegistryMend.Decimal

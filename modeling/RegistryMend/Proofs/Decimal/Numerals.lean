import RegistryMend.Decimal.Layout
import RegistryMend.Proofs.Decimal.Digits
import RegistryMend.Proofs.Text.Blank
import RegistryMend.Text.Numeral

/-! # Reading whole numbers back

The text of a whole number is a numeral without blanks, underscores or digits of other scripts. It is
read as the number, unless it has more digits than are converted. No double is written like it.
-/

namespace RegistryMend

namespace Text

/-- A character of the text of a whole number. -/
def IsNumeral (c : Char) : Prop :=
  c = '-' ∨ isAsciiDigit c = true

instance (c : Char) : Decidable (IsNumeral c) :=
  inferInstanceAs (Decidable (_ ∨ _))

variable {c : Char}

theorem IsNumeral.not_blank (numeral : IsNumeral c) : isNumeralBlank c = false := by
  have solid : isBlank c = false := by
    rcases numeral with rfl | digit
    · decide
    · rw [isAsciiDigit, Bool.and_eq_true, decide_eq_true_eq, decide_eq_true_eq] at digit
      simp only [isBlank, Bool.or_eq_false_iff, Bool.and_eq_false_iff, decide_eq_false_iff_not,
        beq_eq_false_iff_ne]
      omega
  rw [isNumeralBlank, solid, Bool.false_and]

theorem IsNumeral.not_underscore (numeral : IsNumeral c) : c ≠ '_' := by
  rintro rfl
  rcases numeral with same | digit
  · exact absurd same (by decide)
  · exact absurd digit (by decide)

/-- The characters of whole numbers stand for themselves. -/
theorem IsNumeral.asciiDigit (numeral : IsNumeral c) : asciiDigits [c] = [c] := by
  rcases numeral with rfl | digit
  · decide
  · rw [isAsciiDigit, Bool.and_eq_true, decide_eq_true_eq, decide_eq_true_eq] at digit
    have first : (48 ≤ c.toNat && c.toNat < 48 + 10) = true := by
      rw [Bool.and_eq_true, decide_eq_true_eq, decide_eq_true_eq]
      omega
    have code : 48 + (c.toNat - 48) = c.toNat := by omega
    rw [asciiDigits, List.map_singleton, decimalValue?, decimalZeros, List.find?_cons, first]
    dsimp only [Option.map_some]
    rw [code, Char.ofNat_toNat]

theorem asciiDigits_eq_self {cs : List Char} (numerals : ∀ c ∈ cs, IsNumeral c) :
    asciiDigits cs = cs := by
  induction cs with
  | nil => rfl
  | cons c rest ih =>
    have head := (numerals c (List.mem_cons_self ..)).asciiDigit
    have tail := ih fun d member => numerals d (List.mem_cons_of_mem _ member)
    rw [asciiDigits, List.map_singleton, List.singleton_inj] at head
    rw [asciiDigits, List.map_cons, head, ← asciiDigits, tail]

theorem withoutUnderscores_eq_self {cs : List Char} (before : Option Char)
    (free : ∀ c ∈ cs, c ≠ '_') : withoutUnderscores before cs = some cs := by
  fun_induction withoutUnderscores before cs <;> grind

end Text

namespace Decimal

open RegistryMend.Text

/-- The text of a whole number is read as that number, unless it has too many digits. -/
theorem readInteger?_integerChars {n : Int} (short : n.natAbs < 10 ^ Text.maximalDigits) :
    readInteger? (integerChars n) = some n := by
  have numerals : ∀ c ∈ integerChars n, IsNumeral c := fun c => eq_minus_or_digit
  have trimmed : trimNumeral (integerChars n) = integerChars n :=
    trimBy_eq_self (fun c first => (numerals c (List.mem_of_mem_head? first)).not_blank)
      fun c last => (numerals c (List.mem_of_getLast? last)).not_blank
  have split : splitSign (integerChars n) = (decide (n < 0), Nat.toDigits 10 n.natAbs) := by
    rw [integerChars]
    split
    · next negative => simp [splitSign, negative]
    · next positive =>
      cases digits : Nat.toDigits 10 n.natAbs with
      | nil => exact absurd digits Nat.toDigits_ne_nil
      | cons c rest =>
        have digit := allDigits_toDigits n.natAbs c (by rw [digits]; exact List.mem_cons_self ..)
        rw [decide_eq_false positive, splitSign]
        · rintro _ ⟨⟩
          exact absurd digit (by decide)
        · rintro _ ⟨⟩
          exact absurd digit (by decide)
  have some_ := Nat.length_toDigits_pos (b := 10) (n := n.natAbs)
  have count : (Nat.toDigits 10 n.natAbs).length ≤ Text.maximalDigits :=
    (Nat.length_toDigits_le_iff (by decide) (by decide)).mpr short
  have digits : (Nat.toDigits 10 n.natAbs).all isAsciiDigit = true :=
    List.all_eq_true.mpr (allDigits_toDigits _)
  have nonempty : (Nat.toDigits 10 n.natAbs).isEmpty = false := by simp
  rw [readInteger?, trimmed, asciiDigits_eq_self numerals,
    withoutUnderscores_eq_self none fun c member => (numerals c member).not_underscore]
  simp only [Option.bind_eq_bind, Option.bind_some, split, digits, nonempty, Bool.not_true,
    Bool.or_false, Bool.false_or, decide_eq_true_eq, Nat.not_lt.mpr count, if_false,
    natOfDigits_toDigits, signed]
  split <;> (congr 1; omega)

/-- Digits are set with a point or with the mark of an exponent. -/
theorem exists_mem_setDigits (layout : Layout) (digits : List Char) (leading : Int) :
    ∃ c ∈ layout.setDigits digits leading, ¬IsNumeral c := by
  have mark : ¬IsNumeral 'e' := by decide
  have point : ¬IsNumeral '.' := by decide
  rw [Layout.setDigits]
  split
  · exact ⟨'e', by simp, mark⟩
  split
  · exact ⟨'.', by simp, point⟩
  dsimp only
  split
  · exact ⟨'.', by simp, point⟩
  · exact ⟨'.', by simp, point⟩

/-- The plain text of a double is that of no whole number. -/
theorem plainText_ne_integerText (d : Double) (n : Int) : d.plainText ≠ integerText n := by
  have some_ : ∃ c ∈ Layout.plain.magnitude d, ¬IsNumeral c := by
    rw [Layout.magnitude]
    split
    · exact ⟨'n', by decide, by decide⟩
    · exact ⟨'n', by decide, by decide⟩
    · exact exists_mem_setDigits ..
  obtain ⟨c, member, other⟩ := some_
  intro same
  have within : c ∈ integerChars n := by
    rw [Double.plainText, integerText, String.ofList_inj] at same
    rw [← same, Layout.write]
    split
    · exact List.mem_cons_of_mem _ member
    · exact member
  exact other (eq_minus_or_digit within)

end Decimal

end RegistryMend

import RegistryMend.Json.Canonical
import RegistryMend.Json.Reader
import RegistryMend.Proofs.Decimal.ReadBack

/-! # Numbers read back

A numeral is a whole part, perhaps a fraction, and perhaps an exponent. Behind it stands the end of
the text or of the array or object around it. Whole numbers and doubles are read as what they
were written from.
-/

namespace RegistryMend.Json

open RegistryMend.Decimal (Layout Double dropTrailingZeros)
open RegistryMend.Text

/-- What may stand behind a value that was written: nothing, or a character that ends it. -/
def Ends (rest : List Char) : Prop :=
  ∀ c ∈ rest.head?, c = ',' ∨ c = ']' ∨ c = '\x7d'

/-- A text that does not go on with a digit. -/
def NoDigit (rest : List Char) : Prop :=
  ∀ c ∈ rest.head?, isAsciiDigit c = false

theorem Ends.noDigit {rest : List Char} (ends : Ends rest) : NoDigit rest := by
  intro c first
  rcases ends c first with rfl | rfl | rfl <;> decide

theorem noDigit_cons {c : Char} (other : isAsciiDigit c = false) (rest : List Char) :
    NoDigit (c :: rest) := by
  intro d first
  rw [List.head?_cons, Option.mem_some_iff] at first
  exact first ▸ other

/-! ## Parts of a numeral -/

/-- Digits are split off up to the first other character. -/
theorem spanDigits_append {digits rest : List Char} (all : AllDigits digits)
    (stop : NoDigit rest) : spanDigits (digits ++ rest) = (digits, rest) := by
  rw [spanDigits, List.span_eq_takeWhile_dropWhile, List.takeWhile_append_of_pos all,
    List.dropWhile_append_of_pos all]
  cases rest with
  | nil => simp
  | cons c rest => simp [stop c rfl]

/-- A whole part: digits of which the first is not a zero, unless it is the only one. -/
structure IsWhole (digits : List Char) : Prop where
  all : AllDigits digits
  some : digits ≠ []
  leading : digits.head? = Option.some '0' → digits = ['0']

theorem readWhole_append {digits rest : List Char} (whole : IsWhole digits)
    (stop : NoDigit rest) : readWhole (digits ++ rest) = some (digits, rest) := by
  obtain ⟨all, some, leading⟩ := whole
  cases digits with
  | nil => exact absurd rfl some
  | cons c later =>
    by_cases zero : c = '0'
    · subst zero
      obtain rfl : later = [] := by simpa using leading rfl
      rfl
    · rw [List.cons_append, readWhole]
      · rw [← List.cons_append, spanDigits_append all stop]
      · simpa using fun same => absurd same zero

/-- The text of a fraction, which is empty without places. -/
def fractionChars : List Char → List Char
  | [] => []
  | c :: places => '.' :: c :: places

theorem readFraction_of_noPoint {rest : List Char} (noPoint : rest.head? ≠ some '.') :
    readFraction rest = none := by
  cases rest with
  | nil => rfl
  | cons c rest =>
    rw [readFraction]
    rintro later same
    injection same with point _
    exact noPoint (by rw [point]; rfl)

theorem readFraction_cons {c : Char} {places rest : List Char} (all : AllDigits (c :: places))
    (stop : NoDigit rest) :
    readFraction (fractionChars (c :: places) ++ rest) = some (c :: places, rest) := by
  have split := spanDigits_append all stop
  rw [List.cons_append] at split
  rw [fractionChars, List.cons_append, List.cons_append, readFraction, split]

/-- The sign character of an exponent. -/
def exponentSign (negative : Bool) : Char :=
  if negative then '-' else '+'

theorem readExponent_cons (negative : Bool) {digits rest : List Char} (all : AllDigits digits)
    (some_ : digits ≠ []) (stop : NoDigit rest) :
    readExponent ('e' :: exponentSign negative :: (digits ++ rest)) =
      some (signed negative (natOfDigits digits), rest) := by
  have split := spanDigits_append all stop
  cases digits with
  | nil => exact absurd rfl some_
  | cons c later =>
    rw [readExponent, if_pos (.inl rfl)]
    cases negative <;> simp only [exponentSign, if_true, if_false, Bool.false_eq_true, splitSign] <;>
      rw [split]

theorem readExponent_of_ends {rest : List Char} (ends : Ends rest) : readExponent rest = none := by
  cases rest with
  | nil => rfl
  | cons c rest =>
    rw [readExponent, if_neg]
    rcases ends c rfl with rfl | rfl | rfl <;> decide

theorem Ends.noPoint {rest : List Char} (ends : Ends rest) : rest.head? ≠ some '.' := by
  intro point
  rcases ends '.' point with same | same | same <;> exact absurd same (by decide)

/-! ## Magnitudes -/

/-- A whole part on its own is read as a whole number. -/
theorem readMagnitude_whole {digits rest : List Char} (whole : IsWhole digits)
    (short : digits.length ≤ maximalDigits) (ends : Ends rest) (negative : Bool) :
    readMagnitude negative (digits ++ rest) =
      .ok (.int (signed negative (natOfDigits digits)), rest) := by
  simp [readMagnitude, readWhole_append whole ends.noDigit, readFraction_of_noPoint ends.noPoint,
    readExponent_of_ends ends, Nat.not_lt.mpr short]

/-- A whole part and places are read as a double. -/
theorem readMagnitude_positional {digits places rest : List Char} (whole : IsWhole digits)
    (all : AllDigits places) (some_ : places ≠ []) (ends : Ends rest) (negative : Bool) :
    readMagnitude negative (digits ++ (fractionChars places ++ rest)) =
      .ok (.double (Double.ofDecimal negative (natOfDigits (digits ++ places)) (-places.length)),
        rest) := by
  cases places with
  | nil => exact absurd rfl some_
  | cons c places =>
    have point : NoDigit (fractionChars (c :: places) ++ rest) := noDigit_cons (by decide) _
    simp [readMagnitude, readWhole_append whole point, readFraction_cons all ends.noDigit,
      readExponent_of_ends ends]

/-- A whole part, perhaps with places, and an exponent are read as a double. -/
theorem readMagnitude_scientific {digits places exponent rest : List Char}
    (whole : IsWhole digits) (all : AllDigits places) (power : AllDigits exponent)
    (some_ : exponent ≠ []) (ends : Ends rest) (negative below : Bool) :
    readMagnitude negative
        (digits ++ (fractionChars places ++ ('e' :: exponentSign below :: (exponent ++ rest)))) =
      .ok (.double (Double.ofDecimal negative (natOfDigits (digits ++ places))
        (signed below (natOfDigits exponent) - places.length)), rest) := by
  have letter : NoDigit ('e' :: exponentSign below :: (exponent ++ rest)) :=
    noDigit_cons (by decide) _
  have behind := readExponent_cons below power some_ ends.noDigit
  cases places with
  | nil =>
    have noPoint : readFraction ('e' :: exponentSign below :: (exponent ++ rest)) = none :=
      readFraction_of_noPoint (by simp)
    simp [readMagnitude, fractionChars, readWhole_append whole letter, noPoint, behind]
  | cons c places =>
    have point : NoDigit (fractionChars (c :: places) ++
        ('e' :: exponentSign below :: (exponent ++ rest))) := noDigit_cons (by decide) _
    simp [readMagnitude, readWhole_append whole point, readFraction_cons all letter, behind]

/-! ## Doubles -/

theorem natOfDigits_padLeft (width n : Nat) :
    natOfDigits (Decimal.padLeft width (Nat.toDigits 10 n)) = n := by
  rw [Decimal.padLeft, natOfDigits_append, natOfDigits_replicate_zero, natOfDigits_toDigits,
    Nat.mul_zero, Nat.zero_add]

theorem allDigits_padLeft (width n : Nat) :
    AllDigits (Decimal.padLeft width (Nat.toDigits 10 n)) :=
  (allDigits_replicate_zero _).append (allDigits_toDigits n)

theorem pointAfterFirst_cons (c : Char) (later : List Char) :
    Decimal.pointAfterFirst (c :: later) = [c] ++ fractionChars later := by
  cases later <;> rfl

theorem isWhole_zero : IsWhole ['0'] :=
  ⟨allDigits_replicate_zero 1, by decide, fun _ => rfl⟩

theorem isWhole_cons {c : Char} {later : List Char} (all : AllDigits (c :: later))
    (nonzero : c ≠ '0') : IsWhole (c :: later) :=
  ⟨all, by simp, fun zero => absurd (Option.some.inj zero) nonzero⟩

/-- Digits that are set positionally: a whole part and places behind the point. -/
theorem setDigits_positional {c : Char} {later : List Char} (all : AllDigits (c :: later))
    (nonzero : c ≠ '0') {leading : Int}
    (positional : ¬(leading < Layout.json.firstPositional ∨ Layout.json.endPositional ≤ leading)) :
    ∃ whole places, Layout.json.setDigits (c :: later) leading = whole ++ fractionChars places ∧
      IsWhole whole ∧ AllDigits places ∧ places ≠ [] ∧
      (natOfDigits (whole ++ places) * 10 ^ (-(places.length : Int)) : ℚ) =
        natOfDigits (c :: later) * 10 ^ (leading - later.length) := by
  rw [Layout.setDigits, if_neg positional]
  split
  · next below =>
    refine ⟨['0'], List.replicate (leading.natAbs - 1) '0' ++ (c :: later), ?_, isWhole_zero,
      (allDigits_replicate_zero _).append all, by simp, ?_⟩
    · cases leading.natAbs - 1 <;> simp [fractionChars, List.replicate_succ]
    · rw [natOfDigits_append, natOfDigits_append, natOfDigits_replicate_zero]
      have zero : natOfDigits ['0'] = 0 := rfl
      rw [zero, Nat.mul_zero, Nat.mul_zero, Nat.zero_add, Nat.zero_add]
      congr 2
      simp only [List.length_append, List.length_replicate, List.length_cons]
      omega
  · next above =>
    dsimp only
    split
    · next fits =>
      rw [List.length_cons] at fits
      have whole : IsWhole (c :: later ++
          List.replicate (leading.toNat + 1 - (c :: later).length) '0') :=
        isWhole_cons (all.append (allDigits_replicate_zero _)) nonzero
      refine ⟨_, ['0'], rfl, whole, allDigits_replicate_zero 1, by simp, ?_⟩
      rw [natOfDigits_append, natOfDigits_append, natOfDigits_replicate_zero]
      have zero : natOfDigits ['0'] = 0 := rfl
      rw [zero, Nat.add_zero, Nat.add_zero, List.length_replicate, List.length_singleton,
        List.length_cons]
      obtain ⟨more, rfl⟩ : ∃ more : Nat, leading = later.length + more :=
        ⟨leading.toNat - later.length, by omega⟩
      have count : ((later.length : Int) + more).toNat + 1 - (later.length + 1) = more := by omega
      rw [count, add_sub_cancel_left, zpow_natCast, zpow_neg, zpow_natCast]
      push_cast
      field_simp
    · next cut =>
      rw [List.length_cons] at cut
      have tail : AllDigits ((c :: later).drop (leading.toNat + 1)) :=
        fun d member => all d (List.mem_of_mem_drop member)
      have head : AllDigits (c :: later.take leading.toNat) := by
        rw [← List.take_succ_cons]
        exact fun d member => all d (List.mem_of_mem_take member)
      have some : (c :: later).drop (leading.toNat + 1) ≠ [] := by
        rw [Ne, List.drop_eq_nil_iff, List.length_cons]
        omega
      refine ⟨(c :: later).take (leading.toNat + 1), _, ?_, ?_, tail, some, ?_⟩
      · obtain ⟨d, rest, same⟩ := List.exists_cons_of_ne_nil some
        rw [same, fractionChars]
      · rw [List.take_succ_cons]
        exact isWhole_cons head nonzero
      · rw [List.take_append_drop, List.length_drop, List.length_cons]
        congr 2
        omega

/-- The text of a decimal starts with a digit. -/
theorem setDigits_digit {c : Char} {later : List Char} (all : AllDigits (c :: later))
    (nonzero : c ≠ '0') (leading : Int) :
    ∃ first rest, Layout.json.setDigits (c :: later) leading = first :: rest ∧
      isAsciiDigit first = true := by
  by_cases positional :
      leading < Layout.json.firstPositional ∨ Layout.json.endPositional ≤ leading
  · rw [Layout.setDigits, if_pos positional, pointAfterFirst_cons]
    exact ⟨c, _, rfl, all c (List.mem_cons_self ..)⟩
  · obtain ⟨whole, places, set, isWhole, -⟩ := setDigits_positional all nonzero positional
    obtain ⟨first, rest, rfl⟩ := List.exists_cons_of_ne_nil isWhole.some
    exact ⟨first, _, set, isWhole.all first (List.mem_cons_self ..)⟩

/-- However the digits of a decimal are set, a decimal with the same value is read. -/
theorem readMagnitude_setDigits {c : Char} {later rest : List Char} (all : AllDigits (c :: later))
    (nonzero : c ≠ '0') (leading : Int) (ends : Ends rest) (negative : Bool) :
    ∃ (n : Nat) (e : Int), readMagnitude negative
        (Layout.json.setDigits (c :: later) leading ++ rest) =
          .ok (.double (Double.ofDecimal negative n e), rest) ∧
      (n * 10 ^ e : ℚ) = natOfDigits (c :: later) * 10 ^ (leading - later.length) := by
  by_cases positional :
      leading < Layout.json.firstPositional ∨ Layout.json.endPositional ≤ leading
  · have first : AllDigits [c] := fun d member => all d (by simp_all)
    have tail : AllDigits later := fun d member => all d (List.mem_cons_of_mem _ member)
    have read := readMagnitude_scientific (isWhole_cons first nonzero) tail
      (allDigits_padLeft 2 leading.natAbs)
      (List.append_ne_nil_of_right_ne_nil _ Nat.toDigits_ne_nil) ends negative
      (decide (leading < 0))
    have power : signed (decide (leading < 0)) leading.natAbs = leading := by
      simp only [signed, decide_eq_true_eq]
      split <;> omega
    rw [natOfDigits_padLeft, power, List.singleton_append] at read
    refine ⟨_, _, ?_, rfl⟩
    refine Eq.trans ?_ read
    rw [Layout.setDigits, if_pos positional, pointAfterFirst_cons]
    simp [exponentSign, Layout.json]
  · obtain ⟨whole, places, set, isWhole, digits, some, value⟩ :=
      setDigits_positional all nonzero positional
    refine ⟨_, _, ?_, value⟩
    rw [set, List.append_assoc, readMagnitude_positional isWhole digits some ends]

/-! ## Words and numbers -/

/-- The minus sign of a negative number. -/
def signChars (negative : Bool) : List Char :=
  if negative then ['-'] else []

/-- A digit, perhaps behind a minus sign, starts a number. -/
theorem readAtom_digit {c : Char} (digit : isAsciiDigit c = true) (negative : Bool)
    (rest : List Char) :
    readAtom (signChars negative ++ c :: rest) = readMagnitude negative (c :: rest) := by
  have differ : ∀ d, isAsciiDigit d = false → d ≠ c := by
    rintro d other rfl
    rw [other] at digit
    exact absurd digit (by decide)
  have n := differ 'n' (by decide)
  have t := differ 't' (by decide)
  have f := differ 'f' (by decide)
  have upperN := differ 'N' (by decide)
  have upperI := differ 'I' (by decide)
  have minus := differ '-' (by decide)
  cases negative
  · simp only [signChars, if_false, Bool.false_eq_true, List.nil_append]
    simp [readAtom, wordValues, stripWord?, readNumber, n, t, f, upperN, upperI, minus, minus.symm]
  · simp [signChars, readAtom, wordValues, stripWord?, readNumber, upperI]

/-- Whole numbers are read back, up to the number of digits that is converted. -/
theorem readAtom_int {n : Int} (short : n.natAbs < 10 ^ maximalDigits) {rest : List Char}
    (ends : Ends rest) : readAtom (Decimal.integerChars n ++ rest) = .ok (.int n, rest) := by
  have all := allDigits_toDigits n.natAbs
  have count : (Nat.toDigits 10 n.natAbs).length ≤ maximalDigits :=
    (Nat.length_toDigits_le_iff (by decide) (by decide)).mpr short
  have whole : IsWhole (Nat.toDigits 10 n.natAbs) := by
    refine ⟨all, Nat.toDigits_ne_nil, fun zero => ?_⟩
    rcases Nat.eq_zero_or_pos n.natAbs with none | positive
    · rw [none]
      rfl
    · exact absurd zero (head?_toDigits_ne_zero positive)
  have sign : Decimal.integerChars n =
      signChars (decide (n < 0)) ++ Nat.toDigits 10 n.natAbs := by
    simp only [Decimal.integerChars, signChars, decide_eq_true_eq]
    split <;> rfl
  have read := readMagnitude_whole whole count ends (decide (n < 0))
  have value : signed (decide (n < 0)) n.natAbs = n := by
    simp only [signed, decide_eq_true_eq]
    split <;> omega
  rw [natOfDigits_toDigits, value] at read
  rw [sign, ← read]
  obtain ⟨c, later, digits⟩ :=
    List.exists_cons_of_ne_nil (Nat.toDigits_ne_nil (b := 10) (n := n.natAbs))
  rw [digits] at all ⊢
  rw [List.append_assoc, List.cons_append]
  exact readAtom_digit (all c (List.mem_cons_self ..)) _ _

/-- The magnitude of a finite double is read back with its sign. -/
theorem readAtom_finite {d : Double} {significand : Nat} {unit : Int}
    (finite : d.classify = .finite significand unit) {rest : List Char} (ends : Ends rest) :
    readAtom (signChars d.isNegative ++ (Layout.json.magnitude d ++ rest)) =
      .ok (.double d, rest) := by
  have nearest {n : Nat} {e : Int}
      (same : (n * 10 ^ e : ℚ) = (Decimal.shortest significand unit).value) :=
    Double.ofDecimal_of_shortest finite same
  simp only [Layout.magnitude, finite]
  generalize Decimal.shortest significand unit = shortest at nearest ⊢
  by_cases zero : shortest.digits = 0
  · have read := readMagnitude_positional isWhole_zero isWhole_zero.all isWhole_zero.some ends
      d.isNegative
    rw [nearest (by simp [Decimal.Scientific.value, zero, natOfDigits])] at read
    rw [zero, if_pos rfl]
    exact (readAtom_digit (by decide) _ _).trans read
  · obtain ⟨count, length, value, all, c, later, kept, nonzero⟩ :=
      Decimal.dropTrailingZeros_toDigits (Nat.pos_of_ne_zero zero)
    rw [if_neg zero, length]
    rw [kept] at value all ⊢
    obtain ⟨n, e, read, same⟩ := readMagnitude_setDigits all nonzero
      (((c :: later).length + count : Nat) - 1 + shortest.exponent) ends d.isNegative
    rw [nearest] at read
    · obtain ⟨first, behind, set, digit⟩ := setDigits_digit all nonzero
        (((c :: later).length + count : Nat) - 1 + shortest.exponent)
      rw [set] at read ⊢
      exact (readAtom_digit digit _ _).trans read
    · have exponent : (((c :: later).length + count : Nat) : Int) - 1 + shortest.exponent -
          later.length = (count : Int) + shortest.exponent := by
        rw [List.length_cons]
        push_cast
        ring
      rw [same, Decimal.Scientific.value, value, exponent, zpow_add₀ (by norm_num), zpow_natCast]
      push_cast
      ring

/-- Doubles are read back; a NaN is read without its sign and its payload. -/
theorem readAtom_double {d : Double} (canonical : d.isNaN = true → d = .nan) {rest : List Char}
    (ends : Ends rest) : readAtom (Layout.json.write d ++ rest) = .ok (.double d, rest) := by
  cases kind : d.classify with
  | nan =>
    obtain rfl := canonical (by rw [Double.isNaN, kind]; rfl)
    rfl
  | infinite =>
    rw [Double.eq_infinity kind]
    cases d.isNegative <;> rfl
  | finite significand unit =>
    have number : d.isNaN = false := by rw [Double.isNaN, kind]; rfl
    have write : Layout.json.write d = signChars d.isNegative ++ Layout.json.magnitude d := by
      rw [Layout.write, number]
      cases d.isNegative <;> rfl
    rw [write, List.append_assoc]
    exact readAtom_finite kind ends

end RegistryMend.Json

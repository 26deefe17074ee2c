import RegistryMend.Proofs.Decimal.Shortest

/-! # Decimals read back as doubles

A finite double is its sign and its magnitude. Every decimal in its interval, however its digits
are split from its exponent, is read as the double.
-/

namespace RegistryMend.Decimal

open RegistryMend.Text

/-! ## Sign and magnitude -/

/-- A double is given by its sign and its two fields. -/
theorem Double.eq_ofFields (d : Double) :
    d = ofFields d.isNegative (d.exponentField * hiddenBit + d.fractionField) := by
  obtain ⟨bits⟩ := d
  have bound := bits.toNat_lt
  have sign : (if isNegative ⟨bits⟩ then signBit else 0) = bits.toNat / signBit * signBit := by
    rw [isNegative]
    by_cases high : signBit ≤ bits.toNat
    · rw [if_pos (decide_eq_true high)]
      unfold signBit at *
      omega
    · rw [if_neg (by simpa using high)]
      unfold signBit at *
      omega
  have rest : exponentField ⟨bits⟩ * hiddenBit + fractionField ⟨bits⟩ = bits.toNat % signBit := by
    rw [exponentField, fractionField]
    dsimp only
    unfold signBit hiddenBit
    omega
  rw [ofFields, sign, rest, Nat.div_add_mod', UInt64.ofNat_toNat]

/-- A finite double is given by its sign and its magnitude. -/
theorem Double.eq_ofFields_of_finite {d : Double} {significand : Nat} {unit : Int}
    (finite : d.classify = .finite significand unit) :
    d = ofFields d.isNegative ((unit + 1074).toNat * hiddenBit + significand) := by
  have rest : (unit + 1074).toNat * hiddenBit + significand =
      d.exponentField * hiddenBit + d.fractionField := by
    rw [classify] at finite
    split at finite
    · split at finite <;> cases finite
    · split at finite
      · next lowest =>
        cases finite
        rw [lowest]
        rfl
      · cases finite
        unfold hiddenBit
        omega
  rw [rest]
  exact eq_ofFields d

/-- An infinite double is given by its sign. -/
theorem Double.eq_infinity {d : Double} (infinite : d.classify = .infinite) :
    d = infinity d.isNegative := by
  rw [classify] at infinite
  split at infinite
  · next top =>
    split at infinite
    · next none =>
      refine (eq_ofFields d).trans ?_
      rw [top, none]
      rfl
    · cases infinite
  · split at infinite <;> cases infinite

/-- The fields of a double with given lower bits. -/
theorem Double.fields_ofFields (negative : Bool) {rest : Nat} (bounded : rest < signBit) :
    (ofFields negative rest).exponentField = rest / hiddenBit ∧
      (ofFields negative rest).fractionField = rest % hiddenBit := by
  have whole : (ofFields negative rest).bits.toNat = (if negative then signBit else 0) + rest := by
    rw [ofFields, UInt64.toNat_ofNat']
    unfold signBit at *
    apply Nat.mod_eq_of_lt
    split <;> omega
  rw [exponentField, fractionField, whole]
  unfold signBit hiddenBit at *
  constructor <;> split <;> omega

/-- Lower bits up to those of infinity are no NaN. -/
theorem Double.isNaN_ofFields (negative : Bool) {rest : Nat} (bounded : rest ≤ infinityFields) :
    (ofFields negative rest).isNaN = false := by
  have below : infinityFields < signBit := by decide
  obtain ⟨exponent, fraction⟩ := fields_ofFields negative (bounded.trans_lt below)
  have full : rest / hiddenBit = 2047 → rest % hiddenBit = 0 := by
    unfold infinityFields hiddenBit at *
    omega
  rw [isNaN, classify, exponent, fraction]
  split
  · next top => rw [if_pos (full top)]; rfl
  · split <;> rfl

/-- A finite double other than zero has a positive magnitude. -/
theorem Double.isMagnitude {d : Double} {significand : Nat} {unit : Int}
    (finite : d.classify = .finite significand unit) (nonzero : significand ≠ 0) :
    IsMagnitude significand unit := by
  simp only [classify] at finite
  split at finite
  · split at finite <;> cases finite
  · split at finite <;> cases finite <;>
      simp only [exponentField, fractionField, hiddenBit] at * <;>
      constructor <;> omega

/-! ## Reading decimals -/

/-- Doubles end below the decimal ceiling. -/
theorem ceiling_le : 2 ^ 1024 ≤ 10 ^ 309 := by decide +kernel

/-- Doubles start above the decimal floor. -/
theorem floor_lt : 2 * 2 ^ 1074 < 10 ^ 330 := by decide +kernel

/-- Every decimal in the interval of a double is read as the double. -/
theorem Double.ofDecimal_eq {significand : Nat} {unit : Int}
    (magnitude : IsMagnitude significand unit) {digits : Nat} {exponent : Int}
    (inside : (RoundingInterval.of significand unit).Holds (digits * 10 ^ exponent))
    (negative : Bool) : ofDecimal negative digits exponent =
      ofFields negative ((unit + 1074).toNat * hiddenBit + significand) := by
  have ten : (0 : ℚ) < 10 ^ exponent := by positivity
  have nonzero : digits ≠ 0 := by
    rintro rfl
    have positive := inside.pos magnitude.positive
    rw [Nat.cast_zero, zero_mul] at positive
    exact lt_irrefl 0 positive
  obtain ⟨least, most⟩ := pow_length_toDigits (Nat.pos_of_ne_zero nonzero)
  have count := Nat.length_toDigits_pos (b := 10) (n := digits)
  rw [ofDecimal, if_neg nonzero]
  dsimp only
  generalize (Nat.toDigits 10 digits).length = length at *
  have notLarge : ¬ decimalCeiling < length + exponent := by
    have top := inside.lt_top magnitude.bounded
    have highest := magnitude.highest
    have bound : (2 : ℚ) ^ (unit + (53 : Nat)) ≤ 2 ^ ((1024 : Nat) : Int) :=
      zpow_le_zpow_right₀ (by norm_num) (by omega)
    have low : (10 : ℚ) ^ (((length - 1 : Nat) : Int) + exponent) ≤ digits * 10 ^ exponent := by
      rw [zpow_add₀ (by norm_num), zpow_natCast]
      gcongr
      exact_mod_cast least
    have reach : (10 : ℚ) ^ (((length - 1 : Nat) : Int) + exponent) < 10 ^ ((309 : Nat) : Int) := by
      refine low.trans_lt (top.trans_le (bound.trans ?_))
      rw [zpow_natCast, zpow_natCast]
      exact_mod_cast ceiling_le
    have small := (zpow_lt_zpow_iff_right₀ (by norm_num : (1 : ℚ) < 10)).mp reach
    rw [decimalCeiling]
    omega
  have notSmall : ¬ length + exponent < decimalFloor := by
    have lower := inside.lower_le magnitude.positive
    have positive : (1 : ℚ) ≤ significand := by exact_mod_cast magnitude.positive
    have bound : (2 : ℚ) ^ (-((1074 : Nat) : Int)) ≤ 2 ^ unit :=
      zpow_le_zpow_right₀ (by norm_num) (by have := magnitude.lowest; omega)
    have high : (digits * 10 ^ exponent : ℚ) < 10 ^ ((length : Int) + exponent) := by
      rw [zpow_add₀ (by norm_num), zpow_natCast]
      gcongr
      exact_mod_cast most
    have floor : (2 : ℚ) * 10 ^ (-((330 : Nat) : Int)) < 2 ^ (-((1074 : Nat) : Int)) := by
      rw [zpow_neg, zpow_neg, zpow_natCast, zpow_natCast, ← div_eq_mul_inv, ← one_div,
        div_lt_div_iff₀ (by positivity) (by positivity), one_mul]
      exact_mod_cast floor_lt
    have reach : (10 : ℚ) ^ (-((330 : Nat) : Int)) < 10 ^ ((length : Int) + exponent) := by
      have unit_le : (2 : ℚ) ^ unit ≤ (2 * significand - 1) * 2 ^ unit :=
        le_mul_of_one_le_left (by positivity) (by linarith)
      linarith
    have large := (zpow_lt_zpow_iff_right₀ (by norm_num : (1 : ℚ) < 10)).mp reach
    rw [decimalFloor]
    omega
  rw [if_neg notLarge, if_neg notSmall]
  split
  · next up =>
    obtain ⟨k, rfl⟩ := Int.eq_ofNat_of_zero_le up
    refine ofFraction_eq magnitude Nat.one_pos ?_ negative
    rw [zpow_natCast] at inside
    rw [Int.toNat_natCast]
    change (RoundingInterval.of significand unit).Holds (((digits * 10 ^ k : Nat) : ℚ) / (1 : Nat))
    push_cast
    rwa [div_one]
  · next down =>
    obtain ⟨k, rfl⟩ : ∃ k : Nat, exponent = -k := ⟨(-exponent).toNat, by omega⟩
    rw [neg_neg, Int.toNat_natCast]
    refine ofFraction_eq magnitude (Nat.pow_pos (by decide)) ?_ negative
    rw [zpow_neg, zpow_natCast, ← div_eq_mul_inv] at inside
    change (RoundingInterval.of significand unit).Holds ((digits : ℚ) / ((10 ^ k : Nat) : ℚ))
    push_cast
    exact inside

/-- Zero has the least unit. -/
theorem Double.unit_of_zero {d : Double} {unit : Int} (finite : d.classify = .finite 0 unit) :
    unit = -1074 := by
  simp only [classify, hiddenBit] at finite
  split at finite
  · split at finite <;> exact Class.noConfusion finite
  · split at finite
    · injection finite with _ least
      exact least.symm
    · injection finite with none _
      omega

/-- A decimal with the value of the shortest decimal of a double is read as the double. -/
theorem Double.ofDecimal_of_shortest {d : Double} {significand : Nat} {unit : Int}
    (finite : d.classify = .finite significand unit) {digits : Nat} {exponent : Int}
    (same : (digits * 10 ^ exponent : ℚ) = (shortest significand unit).value) :
    ofDecimal d.isNegative digits exponent = d := by
  by_cases zero : significand = 0
  · subst zero
    have none : digits = 0 := by
      have ten : (10 : ℚ) ^ exponent ≠ 0 := by positivity
      simpa [shortest, Scientific.value, ten] using same
    have least := unit_of_zero finite
    rw [none]
    refine Eq.trans ?_ (eq_ofFields_of_finite finite).symm
    rw [least]
    rfl
  · have magnitude := isMagnitude finite zero
    rw [ofDecimal_eq magnitude (same ▸ (RoundingInterval.holds_shortest magnitude).1)]
    exact (eq_ofFields_of_finite finite).symm

/-- A decimal is never read as a NaN. -/
theorem Double.isNaN_ofDecimal (negative : Bool) (digits : Nat) (exponent : Int) :
    (ofDecimal negative digits exponent).isNaN = false := by
  have fraction (numerator denominator : Nat) :
      (ofFraction negative numerator denominator).isNaN = false := by
    rw [ofFraction]
    split
    · exact isNaN_ofFields negative (Nat.zero_le _)
    · exact isNaN_ofFields negative (Nat.min_le_right ..)
  rw [ofDecimal]
  split
  · exact isNaN_ofFields negative (Nat.zero_le _)
  dsimp only
  split
  · exact isNaN_ofFields negative le_rfl
  split
  · exact isNaN_ofFields negative (Nat.zero_le _)
  split <;> exact fraction _ _

end RegistryMend.Decimal

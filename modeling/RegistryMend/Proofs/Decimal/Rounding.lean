import Mathlib.Algebra.Order.Field.Power
import Mathlib.Algebra.Order.Floor.Semifield
import Mathlib.Data.Int.Log
import Mathlib.Data.Rat.Floor
import Mathlib.Tactic.FieldSimp
import Mathlib.Tactic.Linarith
import Mathlib.Tactic.Positivity
import Mathlib.Tactic.Ring
import RegistryMend.Decimal.Shortest

/-! # Rounding to doubles

The magnitudes of doubles are `significand * 2 ^ unit`. The numbers in the rounding interval of a
positive magnitude are those that are rounded to it: between the halves towards its neighbours,
and at a half if the significand is even. Just below a power of two the neighbour is nearer, and
the number is rounded in the smaller unit, where the carry of the significand leads back.
-/

namespace RegistryMend.Decimal

/-- The magnitudes of the positive finite doubles. -/
structure IsMagnitude (significand : Nat) (unit : Int) : Prop where
  positive : 0 < significand
  bounded : significand < 2 ^ 53
  lowest : -1074 ≤ unit
  highest : unit ≤ 971
  normal : -1074 < unit → 2 ^ 52 ≤ significand

/-- The numbers in an interval; its bounds belong to it if it is closed. -/
structure RoundingInterval.Holds (r : RoundingInterval) (q : ℚ) : Prop where
  low : r.low * 2 ^ r.unit < q ∨ r.closed = true ∧ q = r.low * 2 ^ r.unit
  high : q < r.high * 2 ^ r.unit ∨ r.closed = true ∧ q = r.high * 2 ^ r.unit

/-! ## Exponents -/

theorem two_zpow_add (unit : Int) (n : Nat) : (2 : ℚ) ^ (unit + n) = 2 ^ n * 2 ^ unit := by
  rw [zpow_add₀ (by norm_num), mul_comm, zpow_natCast]

/-- The exponent of the leading digit in a base is the logarithm. -/
theorem log_eq_of_bounds {b : Nat} (base : 1 < b) {q : ℚ} {e : Int} (low : (b : ℚ) ^ e ≤ q)
    (high : q < (b : ℚ) ^ (e + 1)) : Int.log b q = e := by
  have root : (0 : ℚ) < b := by exact_mod_cast (by omega : 0 < b)
  have positive : 0 < q := lt_of_lt_of_le (zpow_pos root e) low
  have least : e ≤ Int.log b q := (Int.zpow_le_iff_le_log base positive).mp low
  have most : Int.log b q < e + 1 := (Int.lt_zpow_iff_log_lt base positive).mp high
  omega

/-- A quotient lies between the powers that lie around its two parts. -/
theorem quotient_bounds {b : Nat} (base : 1 < b) {numerator denominator above below : Nat}
    (top : b ^ above ≤ numerator ∧ numerator < b ^ (above + 1))
    (bottom : b ^ below ≤ denominator ∧ denominator < b ^ (below + 1)) :
    (b : ℚ) ^ ((above : Int) - below - 1) ≤ numerator / denominator ∧
      (numerator / denominator : ℚ) < (b : ℚ) ^ ((above : Int) - below + 1) := by
  have nonzero : (b : ℚ) ≠ 0 := by positivity
  have topLow : (b : ℚ) ^ above ≤ numerator := by exact_mod_cast top.1
  have topHigh : (numerator : ℚ) < b ^ above * b := by exact_mod_cast top.2
  have bottomLow : (b : ℚ) ^ below ≤ denominator := by exact_mod_cast bottom.1
  have bottomHigh : (denominator : ℚ) < b ^ below * b := by exact_mod_cast bottom.2
  have positive : (0 : ℚ) < b ^ below := by positivity
  have divisor : (0 : ℚ) < denominator := lt_of_lt_of_le positive bottomLow
  rw [zpow_sub₀ nonzero, zpow_add₀ nonzero, zpow_sub₀ nonzero, zpow_one, zpow_natCast,
    zpow_natCast, div_div, div_mul_eq_mul_div, div_le_div_iff₀ (by positivity) divisor,
    div_lt_div_iff₀ divisor positive]
  constructor
  · calc (b : ℚ) ^ above * denominator ≤ numerator * denominator := by gcongr
      _ ≤ numerator * (b ^ below * b) := by gcongr
  · calc (numerator : ℚ) * b ^ below ≤ numerator * denominator := by gcongr
      _ < b ^ above * b * denominator := by gcongr

/-- Comparing a quotient with a power of two of either sign, in whole numbers. -/
theorem two_zpow_le_quotient_iff (numerator : Nat) {denominator : Nat}
    (nonzero : 0 < denominator) (e : Int) : (if 0 ≤ e then decide (denominator * Nat.pow 2 e.toNat ≤ numerator)
      else decide (denominator ≤ numerator * Nat.pow 2 (-e).toNat)) = true ↔
        (2 : ℚ) ^ e ≤ numerator / denominator := by
  have divisor : (0 : ℚ) < denominator := by exact_mod_cast nonzero
  rw [le_div_iff₀ divisor]
  split
  · next up =>
    obtain ⟨k, rfl⟩ := Int.eq_ofNat_of_zero_le up
    rw [decide_eq_true_iff, mul_comm, Int.toNat_natCast, zpow_natCast]
    exact_mod_cast Iff.rfl
  · next down =>
    obtain ⟨k, rfl⟩ : ∃ k : Nat, e = -k := ⟨(-e).toNat, by omega⟩
    rw [decide_eq_true_iff, neg_neg, Int.toNat_natCast, zpow_neg, zpow_natCast,
      inv_mul_le_iff₀ (by positivity), mul_comm]
    exact_mod_cast Iff.rfl

theorem Double.binaryExponent_eq_log {numerator denominator : Nat} (positive : 0 < numerator)
    (nonzero : 0 < denominator) :
    binaryExponent numerator denominator = Int.log 2 (numerator / denominator : ℚ) := by
  obtain ⟨least, most⟩ := quotient_bounds (b := 2) (by decide)
    ⟨Nat.log2_self_le positive.ne', Nat.lt_log2_self⟩
    ⟨Nat.log2_self_le nonzero.ne', Nat.lt_log2_self⟩
  have reached := two_zpow_le_quotient_iff numerator nonzero
    (numerator.log2 - denominator.log2)
  symm
  by_cases full : (2 : ℚ) ^ ((numerator.log2 : Int) - denominator.log2) ≤ numerator / denominator
  · rw [binaryExponent, if_pos (reached.mpr full)]
    exact log_eq_of_bounds (by decide) full most
  · rw [binaryExponent, if_neg fun met => full (reached.mp met)]
    exact log_eq_of_bounds (by decide) least (by simpa using lt_of_not_ge full)

/-! ## Nearest whole numbers -/

/-- The whole number at a distance below a half, or of a half if it is even. -/
theorem Double.roundQuotient_eq {numerator denominator nearest : Nat} (nonzero : 0 < denominator)
    (low : 2 * nearest * denominator < 2 * numerator + denominator ∨
      nearest % 2 = 0 ∧ 2 * nearest * denominator = 2 * numerator + denominator)
    (high : 2 * numerator < 2 * nearest * denominator + denominator ∨
      nearest % 2 = 0 ∧ 2 * numerator = 2 * nearest * denominator + denominator) :
    roundQuotient numerator denominator = nearest := by
  have split := Nat.div_add_mod numerator denominator
  have small := Nat.mod_lt numerator nonzero
  unfold roundQuotient
  generalize numerator / denominator = floor at *
  generalize numerator % denominator = part at *
  have atMost : floor ≤ nearest := by
    by_contra beyond
    have step := Nat.mul_le_mul_left denominator (show nearest + 1 ≤ floor by omega)
    rw [Nat.mul_add, Nat.mul_one, Nat.mul_comm denominator nearest] at step
    rw [Nat.mul_assoc] at high
    omega
  have atLeast : nearest ≤ floor + 1 := by
    by_contra beyond
    have step := Nat.mul_le_mul_left denominator (show floor + 1 + 1 ≤ nearest by omega)
    rw [Nat.mul_add, Nat.mul_add, Nat.mul_one, Nat.mul_comm denominator nearest] at step
    rw [Nat.mul_assoc] at low
    omega
  rw [Nat.mul_assoc] at low high
  obtain rfl | rfl : nearest = floor ∨ nearest = floor + 1 := by omega
  · rw [Nat.mul_comm nearest denominator] at low high
    dsimp only
    split_ifs <;> omega
  · rw [Nat.mul_comm (floor + 1) denominator, Nat.mul_add, Nat.mul_one] at low high
    dsimp only
    split_ifs <;> omega

/-- A number within half a unit of a multiple of the unit is rounded to that multiple. -/
theorem Double.roundScaled_eq {numerator denominator : Nat} (nearest : Nat)
    (nonzero : 0 < denominator) {unit : Int}
    (low : (2 * nearest - 1) * (2 : ℚ) ^ unit < 2 * (numerator / denominator) ∨
      nearest % 2 = 0 ∧ 2 * (numerator / denominator : ℚ) = (2 * nearest - 1) * (2 : ℚ) ^ unit)
    (high : 2 * (numerator / denominator : ℚ) < (2 * nearest + 1) * (2 : ℚ) ^ unit ∨
      nearest % 2 = 0 ∧ 2 * (numerator / denominator : ℚ) = (2 * nearest + 1) * (2 : ℚ) ^ unit) :
    (if 0 ≤ unit then roundQuotient numerator (denominator * Nat.pow 2 unit.toNat)
      else roundQuotient (numerator * Nat.pow 2 (-unit).toNat) denominator) = nearest := by
  have divisor : (0 : ℚ) < denominator := by exact_mod_cast nonzero
  rw [← mul_div_assoc, lt_div_iff₀ divisor, div_eq_iff divisor.ne'] at low
  rw [← mul_div_assoc, div_lt_iff₀ divisor, div_eq_iff divisor.ne'] at high
  split
  · next up =>
    obtain ⟨k, rfl⟩ := Int.eq_ofNat_of_zero_le up
    rw [zpow_natCast] at low high
    rw [Int.toNat_natCast]
    change roundQuotient numerator (denominator * 2 ^ k) = nearest
    refine roundQuotient_eq (by positivity) (low.imp ?_ (And.imp_right ?_))
      (high.imp ?_ (And.imp_right ?_)) <;> intro bound
    · have scaled : (2 * nearest * (denominator * 2 ^ k) : ℚ) <
          2 * numerator + denominator * 2 ^ k := by linarith
      exact_mod_cast scaled
    · have scaled : (2 * nearest * (denominator * 2 ^ k) : ℚ) =
          2 * numerator + denominator * 2 ^ k := by linarith
      exact_mod_cast scaled
    · have scaled : (2 * numerator : ℚ) <
          2 * nearest * (denominator * 2 ^ k) + denominator * 2 ^ k := by linarith
      exact_mod_cast scaled
    · have scaled : (2 * numerator : ℚ) =
          2 * nearest * (denominator * 2 ^ k) + denominator * 2 ^ k := by linarith
      exact_mod_cast scaled
  · next down =>
    obtain ⟨k, rfl⟩ : ∃ k : Nat, unit = -k := ⟨(-unit).toNat, by omega⟩
    have power : (0 : ℚ) < 2 ^ k := by positivity
    rw [zpow_neg, zpow_natCast, mul_right_comm, ← div_eq_mul_inv, div_lt_iff₀ power,
      eq_div_iff power.ne'] at low
    rw [zpow_neg, zpow_natCast, mul_right_comm, ← div_eq_mul_inv, lt_div_iff₀ power,
      eq_div_iff power.ne'] at high
    rw [neg_neg, Int.toNat_natCast]
    change roundQuotient (numerator * 2 ^ k) denominator = nearest
    refine roundQuotient_eq nonzero (low.imp ?_ (And.imp_right ?_))
      (high.imp ?_ (And.imp_right ?_)) <;> intro bound
    · have scaled : (2 * nearest * denominator : ℚ) <
          2 * (numerator * 2 ^ k) + denominator := by linarith
      exact_mod_cast scaled
    · have scaled : (2 * nearest * denominator : ℚ) =
          2 * (numerator * 2 ^ k) + denominator := by linarith
      exact_mod_cast scaled
    · have scaled : (2 * (numerator * 2 ^ k) : ℚ) <
          2 * nearest * denominator + denominator := by linarith
      exact_mod_cast scaled
    · have scaled : (2 * (numerator * 2 ^ k) : ℚ) =
          2 * nearest * denominator + denominator := by linarith
      exact_mod_cast scaled

/-! ## The interval of a double -/

namespace RoundingInterval

variable {significand : Nat} {unit : Int} {q : ℚ}

theorem quarter_unit (unit : Int) : (2 : ℚ) ^ (unit - 2) = 2 ^ unit / 4 := by
  rw [zpow_sub₀ (by norm_num)]
  norm_num

/-- The numbers in an interval are at least half a unit below the double. -/
theorem Holds.low_half (positive : 0 < significand)
    (inside : (RoundingInterval.of significand unit).Holds q) :
    (2 * significand - 1) * (2 : ℚ) ^ unit < 2 * q ∨
      significand % 2 = 0 ∧ 2 * q = (2 * significand - 1) * (2 : ℚ) ^ unit := by
  have power : (0 : ℚ) < 2 ^ unit := by positivity
  have low := inside.low
  simp only [RoundingInterval.of, quarter_unit, beq_iff_eq] at low
  split at low
  · next bottom =>
    have lowest : ((4 * significand - 1 : Nat) : ℚ) = 4 * significand - 1 := by
      rw [Nat.cast_sub (by omega)]
      norm_num
    rw [lowest] at low
    left
    rcases low with low | ⟨-, low⟩ <;> linarith
  · have lowest : ((4 * significand - 2 : Nat) : ℚ) = 4 * significand - 2 := by
      rw [Nat.cast_sub (by omega)]
      norm_num
    rw [lowest] at low
    rcases low with low | ⟨even, low⟩
    · left; linarith
    · right; exact ⟨even, by linarith⟩

/-- The numbers in an interval are at most half a unit above the double. -/
theorem Holds.high_half (inside : (RoundingInterval.of significand unit).Holds q) :
    2 * q < (2 * significand + 1) * (2 : ℚ) ^ unit ∨
      significand % 2 = 0 ∧ 2 * q = (2 * significand + 1) * (2 : ℚ) ^ unit := by
  have high := inside.high
  simp only [RoundingInterval.of, quarter_unit, beq_iff_eq] at high
  push_cast at high
  rcases high with high | ⟨even, high⟩
  · left; linarith
  · right; exact ⟨even, by linarith⟩

/-- Below a power of two the numbers in the interval are at least a quarter of a unit below it. -/
theorem Holds.low_quarter (normal : -1074 < unit)
    (inside : (RoundingInterval.of (2 ^ 52) unit).Holds q) :
    (2 ^ 54 - 1) * (2 : ℚ) ^ unit ≤ 4 * q := by
  have power : (0 : ℚ) < 2 ^ unit := by positivity
  have low := inside.low
  have bottom : 2 ^ 52 = Double.hiddenBit ∧ -1074 < unit := ⟨rfl, normal⟩
  simp only [RoundingInterval.of, quarter_unit, if_pos bottom] at low
  norm_num at low
  rcases low with low | low <;> linarith

theorem Holds.lower_le (positive : 0 < significand)
    (inside : (RoundingInterval.of significand unit).Holds q) :
    (2 * significand - 1) * (2 : ℚ) ^ unit ≤ 2 * q :=
  (inside.low_half positive).elim le_of_lt fun half => half.2.ge

theorem Holds.le_upper (inside : (RoundingInterval.of significand unit).Holds q) :
    2 * q ≤ (2 * significand + 1) * (2 : ℚ) ^ unit :=
  inside.high_half.elim le_of_lt fun half => half.2.le

theorem Holds.pos (positive : 0 < significand)
    (inside : (RoundingInterval.of significand unit).Holds q) : 0 < q := by
  have power : (0 : ℚ) < 2 ^ unit := by positivity
  have least : (1 : ℚ) ≤ significand := by exact_mod_cast positive
  have lower := inside.lower_le positive
  nlinarith

/-- No number in the interval needs a larger unit. -/
theorem Holds.lt_top (bounded : significand < 2 ^ 53)
    (inside : (RoundingInterval.of significand unit).Holds q) :
    q < 2 ^ (unit + (53 : Nat)) := by
  have power : (0 : ℚ) < 2 ^ unit := by positivity
  have upper := inside.le_upper
  have most : ((significand + 1 : Nat) : ℚ) ≤ ((2 ^ 53 : Nat) : ℚ) := Nat.cast_le.mpr bounded
  push_cast at most
  rw [two_zpow_add]
  nlinarith

/-- Only the numbers just below a power of two have a smaller unit than the double. -/
theorem Holds.eq_hiddenBit (magnitude : IsMagnitude significand unit) (normal : -1074 < unit)
    (inside : (RoundingInterval.of significand unit).Holds q)
    (under : q < 2 ^ (unit + (52 : Nat))) : significand = 2 ^ 52 := by
  have power : (0 : ℚ) < 2 ^ unit := by positivity
  have lower := inside.lower_le magnitude.positive
  have reached := magnitude.normal normal
  by_contra other
  have more : ((2 ^ 52 + 1 : Nat) : ℚ) ≤ significand :=
    Nat.cast_le.mpr (by omega : 2 ^ 52 + 1 ≤ significand)
  push_cast at more
  rw [two_zpow_add] at under
  nlinarith

/-- Otherwise the number is rounded in the unit of the double. -/
theorem Holds.unit_eq (magnitude : IsMagnitude significand unit)
    (inside : (RoundingInterval.of significand unit).Holds q)
    (reached : -1074 < unit → (2 : ℚ) ^ (unit + (52 : Nat)) ≤ q) :
    max (Int.log 2 q - 52) (-1074) = unit := by
  have top := inside.lt_top magnitude.bounded
  by_cases normal : -1074 < unit
  · have log : Int.log 2 q = unit + (52 : Nat) :=
      log_eq_of_bounds (by decide) (reached normal) (by simpa [add_assoc] using top)
    omega
  · have small : Int.log 2 q < unit + (53 : Nat) :=
      (Int.lt_zpow_iff_log_lt (by decide) (inside.pos magnitude.positive)).mp
        (by exact_mod_cast top)
    have lowest := magnitude.lowest
    omega

/-- Just below a power of two the number is rounded in half the unit. -/
theorem Holds.unit_eq_of_lt (normal : -1074 < unit)
    (inside : (RoundingInterval.of (2 ^ 52) unit).Holds q)
    (under : q < 2 ^ (unit + (52 : Nat))) : max (Int.log 2 q - 52) (-1074) = unit - 1 := by
  have quarter := inside.low_quarter normal
  have power : (0 : ℚ) < 2 ^ unit := by positivity
  have log : Int.log 2 q = unit + (51 : Nat) := by
    refine log_eq_of_bounds (by decide) ?_ (by simpa [add_assoc] using under)
    rw [Nat.cast_ofNat, two_zpow_add]
    linarith
  omega

end RoundingInterval

/-- Every number in the interval of a double is rounded to the double. -/
theorem Double.ofFraction_eq {significand : Nat} {unit : Int}
    (magnitude : IsMagnitude significand unit) {numerator denominator : Nat}
    (nonzero : 0 < denominator)
    (inside : (RoundingInterval.of significand unit).Holds (numerator / denominator))
    (negative : Bool) : ofFraction negative numerator denominator =
      ofFields negative ((unit + 1074).toNat * hiddenBit + significand) := by
  have some : 0 < numerator := by
    have positive := inside.pos magnitude.positive
    rcases Nat.eq_zero_or_pos numerator with rfl | some
    · rw [Nat.cast_zero, zero_div] at positive
      exact absurd positive (lt_irrefl 0)
    · exact some
  have fits : (unit + 1074).toNat * hiddenBit + significand ≤ infinityFields := by
    have bounded := magnitude.bounded
    have highest := magnitude.highest
    simp only [hiddenBit, infinityFields]
    omega
  rw [ofFraction, if_neg some.ne', binaryExponent_eq_log some nonzero]
  dsimp only
  by_cases carries : -1074 < unit ∧ (numerator / denominator : ℚ) < 2 ^ (unit + (52 : Nat))
  · -- The significand of the smaller unit is `2 ^ 53`, which carries into the exponent.
    obtain ⟨normal, under⟩ := carries
    obtain rfl := inside.eq_hiddenBit magnitude normal under
    have half : (2 : ℚ) ^ (unit - 1) = 2 ^ unit / 2 := by rw [zpow_sub₀ (by norm_num), zpow_one]
    have carry : (unit - 1 + 1074).toNat * hiddenBit + 2 ^ 53 =
        (unit + 1074).toNat * hiddenBit + 2 ^ 52 := by
      rw [hiddenBit]
      omega
    rw [inside.unit_eq_of_lt normal under, roundScaled_eq (2 ^ 53) nonzero, carry,
      Nat.min_eq_left fits]
    · rw [half]
      push_cast
      rcases (inside.low_quarter normal).lt_or_eq with less | same
      · left; linarith
      · right; exact ⟨by decide, by linarith⟩
    · left
      rw [half]
      rw [two_zpow_add] at under
      have power : (0 : ℚ) < 2 ^ unit := by positivity
      push_cast
      linarith
  · rw [inside.unit_eq magnitude fun normal => not_lt.mp fun under => carries ⟨normal, under⟩,
      roundScaled_eq significand nonzero (inside.low_half magnitude.positive) inside.high_half,
      Nat.min_eq_left fits]

end RegistryMend.Decimal

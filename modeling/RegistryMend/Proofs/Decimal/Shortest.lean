import RegistryMend.Proofs.Decimal.Digits
import RegistryMend.Proofs.Decimal.Rounding

/-! # The shortest decimal lies in the interval

The decimals with seventeen digits are closer to each other than the bounds of the interval of a
double, so one of the two neighbours of the double among them lies in the interval. Hence the
shortest decimal of a double is found, and it rounds to the double.
-/

namespace RegistryMend.Decimal

open RegistryMend.Text

/-- The number that a decimal stands for. -/
def Scientific.value (s : Scientific) : ℚ := s.digits * 10 ^ s.exponent

/-! ## The leading digit -/

theorem leadingExponent_eq_log {numerator denominator : Nat} (positive : 0 < numerator)
    (nonzero : 0 < denominator) :
    leadingExponent numerator denominator = Int.log 10 (numerator / denominator : ℚ) := by
  have top : (0 : ℚ) < numerator := by exact_mod_cast positive
  have bottom : (0 : ℚ) < denominator := by exact_mod_cast nonzero
  unfold leadingExponent
  symm
  split
  · next large =>
    have some : 0 < numerator / denominator := Nat.div_pos large nonzero
    obtain ⟨least, most⟩ := pow_length_toDigits some
    have count := Nat.length_toDigits_pos (b := 10) (n := numerator / denominator)
    generalize (Nat.toDigits 10 (numerator / denominator)).length = k at *
    rw [Nat.le_div_iff_mul_le nonzero] at least
    rw [Nat.div_lt_iff_lt_mul nonzero] at most
    have low : (10 : ℚ) ^ (k - 1) * denominator ≤ numerator := by exact_mod_cast least
    have high : (numerator : ℚ) < 10 ^ k * denominator := by exact_mod_cast most
    obtain ⟨j, rfl⟩ : ∃ j, k = j + 1 := ⟨k - 1, by omega⟩
    refine log_eq_of_bounds (by decide) ?_ ?_ <;> push_cast
    · rw [add_sub_cancel_right, zpow_natCast, le_div_iff₀ bottom]
      exact low
    · rw [add_sub_cancel_right, div_lt_iff₀ bottom, ← Nat.cast_succ, zpow_natCast]
      exact high
  · next small =>
    have some : 0 < denominator / numerator := Nat.div_pos (by omega) positive
    obtain ⟨least, most⟩ := pow_length_toDigits some
    have count := Nat.length_toDigits_pos (b := 10) (n := denominator / numerator)
    dsimp only
    generalize (Nat.toDigits 10 (denominator / numerator)).length = k at *
    obtain ⟨j, rfl⟩ : ∃ j, k = j + 1 := ⟨k - 1, by omega⟩
    rw [Nat.le_div_iff_mul_le positive] at least
    rw [Nat.div_lt_iff_lt_mul positive] at most
    rw [Nat.add_sub_cancel] at least ⊢
    have low : (10 : ℚ) ^ j * numerator ≤ denominator := by exact_mod_cast least
    have high : (denominator : ℚ) < 10 ^ (j + 1) * numerator := by exact_mod_cast most
    have power : (0 : ℚ) < 10 ^ j := by positivity
    have next : (10 : ℚ) ^ (-(j : Int) + 1) = (10 ^ j)⁻¹ * 10 := by
      rw [zpow_add₀ (by norm_num), zpow_neg, zpow_natCast, zpow_one]
    have same : (1 : Int) - ((j + 1 : Nat) : Int) = -j := by omega
    split
    · next exact_ =>
      have reached : (denominator : ℚ) ≤ numerator * 10 ^ j := by exact_mod_cast exact_
      rw [same]
      refine log_eq_of_bounds (by decide) ?_ ?_ <;> push_cast
      · rw [zpow_neg, zpow_natCast, le_div_iff₀ bottom, inv_mul_le_iff₀ power, mul_comm]
        exact reached
      · rw [next, div_lt_iff₀ bottom, mul_assoc, ← div_eq_inv_mul, lt_div_iff₀ power]
        linarith
    · next beyond =>
      have missed : (numerator * 10 ^ j : ℚ) < denominator := by exact_mod_cast not_le.mp beyond
      refine log_eq_of_bounds (by decide) ?_ ?_
      · rw [zpow_neg, zpow_natCast, le_div_iff₀ bottom, inv_mul_le_iff₀ (by positivity)]
        push_cast
        exact high.le
      · have shift : -((j + 1 : Nat) : Int) + 1 = -j := by omega
        rw [shift, zpow_neg, zpow_natCast, div_lt_iff₀ bottom, ← div_eq_inv_mul,
          lt_div_iff₀ (by push_cast; exact power)]
        push_cast
        exact missed

/-! ## Comparing decimals with the bounds -/

/-- A power with a negative exponent becomes a factor of the other side. -/
theorem zpow_mul_other_side {b : ℚ} (nonzero : b ≠ 0) (e : Int) :
    b ^ e * (if e < 0 then b ^ e.natAbs else 1) = if 0 ≤ e then b ^ e.natAbs else 1 := by
  by_cases negative : e < 0
  · obtain ⟨k, rfl⟩ : ∃ k : Nat, e = -k := ⟨e.natAbs, by omega⟩
    rw [if_pos negative, if_neg (by omega), Int.natAbs_neg, Int.natAbs_natCast, zpow_neg,
      zpow_natCast, inv_mul_cancel₀ (pow_ne_zero k nonzero)]
  · obtain ⟨k, rfl⟩ := Int.eq_ofNat_of_zero_le (not_lt.mp negative)
    rw [if_neg negative, if_pos (not_lt.mp negative), Int.natAbs_natCast, zpow_natCast, mul_one]

/-- Decimals are compared as the numbers that they stand for. -/
theorem Scientific.compareTo_eq (s : Scientific) (multiple : Nat) (unit : Int) :
    s.compareTo multiple unit = compare s.value (multiple * 2 ^ unit) := by
  have tens := zpow_mul_other_side (b := 10) (by norm_num) s.exponent
  have twos := zpow_mul_other_side (b := 2) (by norm_num) unit
  have scale : (0 : ℚ) < (if s.exponent < 0 then 10 ^ s.exponent.natAbs else 1) *
      (if unit < 0 then 2 ^ unit.natAbs else 1) := by
    apply mul_pos <;> split <;> positivity
  have left : s.value * ((if s.exponent < 0 then 10 ^ s.exponent.natAbs else 1) *
        (if unit < 0 then 2 ^ unit.natAbs else 1)) =
      ((s.digits * (if 0 ≤ s.exponent then 10 ^ s.exponent.natAbs else 1) *
        (if unit < 0 then 2 ^ unit.natAbs else 1) : Nat) : ℚ) := by
    push_cast
    rw [Scientific.value, ← tens]
    ring
  have right : (multiple * 2 ^ unit : ℚ) * ((if s.exponent < 0 then 10 ^ s.exponent.natAbs else 1) *
        (if unit < 0 then 2 ^ unit.natAbs else 1)) =
      ((multiple * (if s.exponent < 0 then 10 ^ s.exponent.natAbs else 1) *
        (if 0 ≤ unit then 2 ^ unit.natAbs else 1) : Nat) : ℚ) := by
    push_cast
    rw [← twos]
    ring
  have less : s.value < multiple * 2 ^ unit ↔ _ := (mul_lt_mul_iff_of_pos_right scale).symm
  have more : (multiple * 2 ^ unit : ℚ) < s.value ↔ _ := (mul_lt_mul_iff_of_pos_right scale).symm
  rw [left, right, Nat.cast_lt] at less
  rw [left, right, Nat.cast_lt] at more
  change compare (_ : Nat) (_ : Nat) = _
  rcases lt_trichotomy s.value (multiple * 2 ^ unit) with below | same | above
  · rw [compare_lt_iff_lt.mpr below]
    exact compare_lt_iff_lt.mpr (less.mp below)
  · rw [compare_eq_iff_eq.mpr same]
    refine compare_eq_iff_eq.mpr (le_antisymm ?_ ?_)
    · exact not_lt.mp fun greater => (more.mpr greater).ne' same
    · exact not_lt.mp fun smaller => (less.mpr smaller).ne same
  · rw [compare_gt_iff_gt.mpr above]
    exact compare_gt_iff_gt.mpr (more.mp above)

namespace RoundingInterval

theorem contains_iff (r : RoundingInterval) (s : Scientific) :
    r.contains s = true ↔ r.Holds s.value := by
  simp only [contains, Scientific.compareTo_eq, Bool.and_eq_true, Bool.or_eq_true, beq_iff_eq,
    compare_lt_iff_lt, compare_gt_iff_gt, compare_eq_iff_eq]
  exact ⟨fun inside => ⟨inside.1, inside.2⟩, fun inside => ⟨inside.1, inside.2⟩⟩

/-- The value of an interval as a fraction of whole numbers. -/
theorem fraction_eq (r : RoundingInterval) : 0 < r.fraction.2 ∧
    (r.fraction.1 / r.fraction.2 : ℚ) = r.value * 2 ^ r.unit := by
  unfold fraction
  split
  · next up =>
    obtain ⟨k, power⟩ := Int.eq_ofNat_of_zero_le up
    rw [power, Int.toNat_natCast, zpow_natCast]
    refine ⟨Nat.one_pos, ?_⟩
    change ((r.value * 2 ^ k : Nat) : ℚ) / ((1 : Nat) : ℚ) = _
    push_cast
    exact div_one _
  · next down =>
    obtain ⟨k, power⟩ : ∃ k : Nat, r.unit = -k := ⟨(-r.unit).toNat, by omega⟩
    rw [power, neg_neg, Int.toNat_natCast, zpow_neg, zpow_natCast]
    refine ⟨Nat.pow_pos (by decide), ?_⟩
    change (r.value : ℚ) / ((2 ^ k : Nat) : ℚ) = _
    push_cast
    exact div_eq_mul_inv _ _

/-- The neighbours of the value on a grid, and what is found there. -/
theorem onGrid_cases (r : RoundingInterval) (exponent : Int) : ∃ digits : Nat,
    digits * (10 : ℚ) ^ exponent ≤ r.value * 2 ^ r.unit ∧
    (r.value * 2 ^ r.unit : ℚ) < (digits + 1) * (10 : ℚ) ^ exponent ∧
    match r.onGrid exponent with
    | some s => s.digits ≠ 0 ∧ r.contains s = true
    | none => (r.contains ⟨digits, exponent⟩ = true → digits = 0) ∧
        r.contains ⟨digits + 1, exponent⟩ = false := by
  obtain ⟨positive, value⟩ := r.fraction_eq
  obtain ⟨numerator, denominator, exact_, nonzero, scaled⟩ : ∃ numerator denominator : Nat,
      (numerator / denominator : ℚ) = r.value * 2 ^ r.unit / 10 ^ exponent ∧ 0 < denominator ∧
      (if 0 ≤ exponent then (r.fraction.1, r.fraction.2 * Nat.pow 10 exponent.toNat)
        else (r.fraction.1 * Nat.pow 10 (-exponent).toNat, r.fraction.2)) =
          (numerator, denominator) := by
    split
    · next up =>
      obtain ⟨k, rfl⟩ := Int.eq_ofNat_of_zero_le up
      refine ⟨_, _, ?_, Nat.mul_pos positive (Nat.pow_pos (by decide)), rfl⟩
      rw [← value, Int.toNat_natCast, zpow_natCast, div_div]
      change _ / ((r.fraction.2 * 10 ^ k : Nat) : ℚ) = _
      push_cast
      rfl
    · next down =>
      obtain ⟨k, rfl⟩ : ∃ k : Nat, exponent = -k := ⟨(-exponent).toNat, by omega⟩
      refine ⟨_, _, ?_, positive, rfl⟩
      rw [← value, neg_neg, Int.toNat_natCast, zpow_neg, zpow_natCast, div_inv_eq_mul]
      change ((r.fraction.1 * 10 ^ k : Nat) : ℚ) / _ = _
      push_cast
      exact mul_div_right_comm _ _ _
  have power : (0 : ℚ) < 10 ^ exponent := by positivity
  have divisor : (0 : ℚ) < denominator := by exact_mod_cast nonzero
  have low : ((numerator / denominator : Nat) : ℚ) * denominator ≤ numerator := by
    exact_mod_cast Nat.div_mul_le_self numerator denominator
  have high : (numerator : ℚ) < ((numerator / denominator : Nat) + 1) * denominator := by
    exact_mod_cast Nat.mul_comm denominator _ ▸ Nat.lt_mul_div_succ numerator nonzero
  rw [eq_div_iff power.ne'] at exact_
  refine ⟨numerator / denominator, ?_, ?_, ?_⟩
  · rw [← exact_]
    gcongr
    exact (le_div_iff₀ divisor).mpr low
  · rw [← exact_]
    gcongr
    exact (div_lt_iff₀ divisor).mpr high
  · simp only [onGrid, scaled]
    generalize numerator / denominator = digits
    cases first : r.contains ⟨digits, exponent⟩ && digits != 0 <;>
      cases second : r.contains ⟨digits + 1, exponent⟩
    · exact ⟨fun inside => by simpa [inside] using first, rfl⟩
    · exact ⟨Nat.succ_ne_zero _, second⟩
    · simp only [Bool.and_eq_true, bne_iff_ne] at first
      exact ⟨first.2, first.1⟩
    · simp only [Bool.and_eq_true, bne_iff_ne] at first
      dsimp only
      split
      · exact ⟨first.2, first.1⟩
      · exact ⟨Nat.succ_ne_zero _, second⟩

/-! ## Seventeen digits -/

variable {significand : Nat} {unit : Int}

/-- The interval is wider than the grid of decimals with seventeen digits. -/
theorem grid_lt_width (magnitude : IsMagnitude significand unit) {grid : ℚ}
    (fine : grid * 10 ^ 16 ≤ significand * 2 ^ unit) :
    ((RoundingInterval.of significand unit).low : ℚ) * 2 ^ (unit - 2) + grid <
      (RoundingInterval.of significand unit).high * 2 ^ (unit - 2) := by
  have power : (0 : ℚ) < 2 ^ unit := by positivity
  have positive := magnitude.positive
  have most : ((significand + 1 : Nat) : ℚ) ≤ ((2 ^ 53 : Nat) : ℚ) :=
    Nat.cast_le.mpr magnitude.bounded
  push_cast at most
  rw [quarter_unit]
  simp only [RoundingInterval.of]
  split
  · next bottom =>
    have cast : (significand : ℚ) = 2 ^ 52 := by
      rw [bottom.1, Double.hiddenBit]
      norm_num
    have lowest : ((4 * significand - 1 : Nat) : ℚ) = 4 * significand - 1 := by
      rw [Nat.cast_sub (by omega)]
      norm_num
    rw [lowest]
    push_cast
    rw [cast] at fine ⊢
    linarith
  · have lowest : ((4 * significand - 2 : Nat) : ℚ) = 4 * significand - 2 := by
      rw [Nat.cast_sub (by omega)]
      norm_num
    rw [lowest]
    push_cast
    have scaled := mul_le_mul_of_nonneg_right most power.le
    linarith

theorem value_of (significand : Nat) (unit : Int) :
    ((RoundingInterval.of significand unit).value : ℚ) *
      2 ^ (RoundingInterval.of significand unit).unit = significand * 2 ^ unit := by
  simp only [RoundingInterval.of, quarter_unit]
  push_cast
  ring

/-- The value lies between the bounds of its interval. -/
theorem value_between (magnitude : IsMagnitude significand unit) :
    ((RoundingInterval.of significand unit).low : ℚ) * 2 ^ (unit - 2) < significand * 2 ^ unit ∧
      (significand * 2 ^ unit : ℚ) <
        (RoundingInterval.of significand unit).high * 2 ^ (unit - 2) := by
  have power : (0 : ℚ) < 2 ^ (unit - 2) := by positivity
  have positive := magnitude.positive
  have quarters : (significand * 2 ^ unit : ℚ) = (4 * significand : Nat) * 2 ^ (unit - 2) := by
    rw [quarter_unit]
    push_cast
    ring
  rw [quarters]
  constructor <;> gcongr <;> simp only [RoundingInterval.of]
  · split <;> omega
  · omega

/-- On the grid of decimals with seventeen digits a neighbour of the value is found. -/
theorem onGrid_isSome (magnitude : IsMagnitude significand unit) :
    ((RoundingInterval.of significand unit).onGrid
      (Int.log 10 (significand * 2 ^ unit : ℚ) - (16 : Nat))).isSome = true := by
  have powers : (0 : ℚ) < 2 ^ unit := by positivity
  have some : (0 : ℚ) < significand := by exact_mod_cast magnitude.positive
  have leading := Int.zpow_log_le_self (b := 10) (by decide) (mul_pos some powers)
  generalize Int.log 10 (significand * 2 ^ unit : ℚ) = power at leading ⊢
  obtain ⟨digits, below, above, found⟩ :=
    (RoundingInterval.of significand unit).onGrid_cases (power - (16 : Nat))
  rw [value_of] at below above
  have grid : (10 : ℚ) ^ (power - (16 : Nat)) * 10 ^ 16 ≤ significand * 2 ^ unit := by
    rw [← zpow_natCast, ← zpow_add₀ (by norm_num), Int.sub_add_cancel]
    exact_mod_cast leading
  have positive : (0 : ℚ) < 10 ^ (power - (16 : Nat)) := by positivity
  cases found_ : (RoundingInterval.of significand unit).onGrid (power - (16 : Nat)) with
  | some s => rfl
  | none =>
    rw [found_] at found
    obtain ⟨onlyZero, missed⟩ := found
    obtain ⟨lower, upper⟩ := value_between magnitude
    have width := grid_lt_width magnitude grid
    have large : digits ≠ 0 := by
      rintro rfl
      rw [Nat.cast_zero] at above
      linarith
    -- The lower neighbour lies below the interval, so the upper one cannot lie above it.
    have outside : ¬ (RoundingInterval.of significand unit).Holds
        (digits * 10 ^ (power - (16 : Nat))) :=
      fun inside => large (onlyZero ((contains_iff _ _).mpr inside))
    have lowest := not_lt.mp fun inner => outside ⟨.inl inner, .inl (below.trans_lt upper)⟩
    have inside : (RoundingInterval.of significand unit).Holds
        (Scientific.value ⟨digits + 1, power - (16 : Nat)⟩) := by
      rw [Scientific.value, Nat.cast_succ]
      refine ⟨.inl (lower.trans above), .inl ?_⟩
      rw [add_mul, one_mul]
      exact (add_le_add_left lowest _).trans_lt width
    rw [(contains_iff _ _).mpr inside] at missed
    exact absurd missed (by decide)

/-- The shortest decimal is found, and it lies in the interval. -/
theorem holds_shortest (magnitude : IsMagnitude significand unit) :
    (RoundingInterval.of significand unit).Holds (Decimal.shortest significand unit).value ∧
      (Decimal.shortest significand unit).digits ≠ 0 := by
  have positive := magnitude.positive
  obtain ⟨divisor, value⟩ := (RoundingInterval.of significand unit).fraction_eq
  rw [value_of] at value
  have numerator : 0 < (RoundingInterval.of significand unit).fraction.1 := by
    have powers : (0 : ℚ) < significand * 2 ^ unit :=
      mul_pos (by exact_mod_cast positive) (by positivity)
    rw [← value] at powers
    rcases Nat.eq_zero_or_pos (RoundingInterval.of significand unit).fraction.1 with zero | some
    · rw [zero, Nat.cast_zero, zero_div] at powers
      exact absurd powers (lt_irrefl 0)
    · exact some
  have leading := leadingExponent_eq_log numerator divisor
  rw [value] at leading
  rw [Decimal.shortest, if_neg positive.ne', RoundingInterval.shortest]
  dsimp only
  rw [leading]
  generalize onGrids : (List.range maximalDigits).map
    (fun (count : Nat) => Int.log 10 (significand * 2 ^ unit : ℚ) - count) = grids
  have last : Int.log 10 (significand * 2 ^ unit : ℚ) - (16 : Nat) ∈ grids := by
    rw [← onGrids]
    exact List.mem_map_of_mem (List.mem_range.mpr (by decide))
  cases found : grids.findSome? (RoundingInterval.of significand unit).onGrid with
  | none =>
    have nothing := List.findSome?_eq_none_iff.mp found _ last
    have something := onGrid_isSome magnitude
    rw [nothing] at something
    exact absurd something (by decide)
  | some s =>
    obtain ⟨grid, -, onGrid⟩ := List.exists_of_findSome?_eq_some found
    obtain ⟨digits, -, -, result⟩ := onGrid_cases (RoundingInterval.of significand unit) grid
    rw [onGrid] at result
    exact ⟨(contains_iff _ _).mp result.2, result.1⟩

end RoundingInterval

end RegistryMend.Decimal

import RegistryMend.Decimal.Double

/-! # The shortest decimal that reads back

The real numbers that round to a finite double form an interval around it. Among the decimal
numbers in that interval the shortest ones are taken, and among those the one nearest to the
double. For each count of digits it is enough to look at the two neighbours of the double on the
grid of decimals with that many digits.
-/

namespace RegistryMend.Decimal

/-- A decimal number `digits` times ten to the power `exponent`. -/
structure Scientific where
  digits : Nat
  exponent : Int
deriving DecidableEq, Repr

/-- The real numbers that round to a positive double. All bounds are counted in a quarter of the
double's unit, and the bounds belong to the interval if the significand is even. -/
structure RoundingInterval where
  low : Nat
  value : Nat
  high : Nat
  /-- A quarter of the unit is two to this power. -/
  unit : Int
  closed : Bool
deriving DecidableEq, Repr

/-- The interval of a positive finite double. Below a power of two the doubles are twice as
dense. -/
def RoundingInterval.of (significand : Nat) (unit : Int) : RoundingInterval where
  low := if significand = Double.hiddenBit ∧ -1074 < unit then 4 * significand - 1
    else 4 * significand - 2
  value := 4 * significand
  high := 4 * significand + 2
  unit := unit - 2
  closed := significand % 2 == 0

/-- Compares the decimal with a multiple of the interval's unit. -/
def Scientific.compareTo (s : Scientific) (multiple : Nat) (unit : Int) : Ordering :=
  let tens := Nat.pow 10 s.exponent.natAbs
  let twos := Nat.pow 2 unit.natAbs
  let left := s.digits * (if 0 ≤ s.exponent then tens else 1) * (if unit < 0 then twos else 1)
  let right := multiple * (if s.exponent < 0 then tens else 1) * (if 0 ≤ unit then twos else 1)
  compare left right

/-- Whether a decimal lies in the interval. -/
def RoundingInterval.contains (r : RoundingInterval) (s : Scientific) : Bool :=
  let low := s.compareTo r.low r.unit
  let high := s.compareTo r.high r.unit
  (low == .gt || (r.closed && low == .eq)) && (high == .lt || (r.closed && high == .eq))

/-- The interval's value as a fraction. -/
def RoundingInterval.fraction (r : RoundingInterval) : Nat × Nat :=
  if 0 ≤ r.unit then (r.value * Nat.pow 2 r.unit.toNat, 1)
  else (r.value, Nat.pow 2 (-r.unit).toNat)

/-- The exponent of the leading decimal digit of a positive fraction. -/
def leadingExponent (numerator denominator : Nat) : Int :=
  if denominator ≤ numerator then
    (Nat.toDigits 10 (numerator / denominator)).length - 1
  else
    let inverse := (Nat.toDigits 10 (denominator / numerator)).length
    if denominator ≤ numerator * Nat.pow 10 (inverse - 1) then 1 - inverse else -inverse

/-- The neighbours on the grid of decimals that lie in the interval, the nearer one first. -/
def RoundingInterval.onGrid (r : RoundingInterval) (exponent : Int) : Option Scientific :=
  let (numerator, denominator) := r.fraction
  let scaled := if 0 ≤ exponent then (numerator, denominator * Nat.pow 10 exponent.toNat)
    else (numerator * Nat.pow 10 (-exponent).toNat, denominator)
  let below : Scientific := ⟨scaled.1 / scaled.2, exponent⟩
  let above : Scientific := ⟨below.digits + 1, exponent⟩
  let twice := 2 * (scaled.1 % scaled.2)
  let belowNearer := twice < scaled.2 || (twice == scaled.2 && below.digits % 2 == 0)
  match r.contains below && below.digits != 0, r.contains above with
  | true, true => some (if belowNearer then below else above)
  | true, false => some below
  | false, true => some above
  | false, false => none

/-- Seventeen digits always suffice. -/
def maximalDigits : Nat := 17

/-- The shortest decimal in the interval that is nearest to its value. -/
def RoundingInterval.shortest (r : RoundingInterval) : Scientific :=
  let (numerator, denominator) := r.fraction
  let leading := leadingExponent numerator denominator
  let grids := (List.range maximalDigits).map fun (count : Nat) => leading - count
  (grids.findSome? r.onGrid).getD ⟨0, 0⟩

/-- The shortest decimal that reads back as a finite double, without its sign. -/
def shortest (significand : Nat) (unit : Int) : Scientific :=
  if significand = 0 then ⟨0, 0⟩ else (RoundingInterval.of significand unit).shortest

example : shortest 0x10000000000000 (-52) = ⟨1, 0⟩ := by decide +kernel
example : shortest 1 (-1074) = ⟨5, -324⟩ := by decide +kernel

end RegistryMend.Decimal

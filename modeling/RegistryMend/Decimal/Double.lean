/-! # Binary floating-point numbers

A double is the 64 bits of its binary interchange format: a sign, eleven bits of exponent and
fifty-two of fraction. Its magnitude is a whole number of units, where a unit is a power of two.
Everything about doubles is computed from the bits in exact arithmetic.
-/

namespace RegistryMend.Decimal

/-- A binary64 number, given by its bits. -/
structure Double where
  bits : UInt64
deriving DecidableEq, Repr, Inhabited

namespace Double

/-- What the bits stand for. -/
inductive Class where
  | nan
  | infinite
  /-- The magnitude is `significand` times two to the power `unit`. -/
  | finite (significand : Nat) (unit : Int)
deriving DecidableEq, Repr

/-- The value of the sign bit. -/
def signBit : Nat := 0x8000000000000000

/-- The value of the bit above the fraction, which is not stored. -/
def hiddenBit : Nat := 0x10000000000000

/-- Whether the sign bit is set. -/
def isNegative (d : Double) : Bool :=
  signBit ≤ d.bits.toNat

/-- The exponent field. -/
def exponentField (d : Double) : Nat :=
  d.bits.toNat / hiddenBit % 2048

/-- The fraction field. -/
def fractionField (d : Double) : Nat :=
  d.bits.toNat % hiddenBit

/-- The class of a double. Numbers with the lowest exponent field have no hidden bit. -/
def classify (d : Double) : Class :=
  if d.exponentField = 2047 then
    if d.fractionField = 0 then .infinite else .nan
  else if d.exponentField = 0 then .finite d.fractionField (-1074)
  else .finite (hiddenBit + d.fractionField) (d.exponentField - 1075)

/-- The double with a sign and the given lower sixty-three bits. -/
def ofFields (negative : Bool) (rest : Nat) : Double :=
  ⟨UInt64.ofNat ((if negative then signBit else 0) + rest)⟩

/-- The lower bits of infinity. -/
def infinityFields : Nat := 2047 * hiddenBit

/-- Infinity of either sign. -/
def infinity (negative : Bool) : Double :=
  ofFields negative infinityFields

/-- The quiet number that is not a number. -/
def nan : Double :=
  ofFields false (infinityFields + hiddenBit / 2)

/-- Positive zero. -/
def zero : Double := ⟨0⟩

/-- Whether the double is not a number. -/
def isNaN (d : Double) : Bool :=
  d.classify == .nan

/-- Whether the value is zero, of either sign. -/
def isZero (d : Double) : Bool :=
  d.bits.toNat % signBit == 0

/-- Whether the value is at least zero. Negative zero is; a NaN is not. -/
def isAtLeastZero (d : Double) : Bool :=
  !d.isNaN && (!d.isNegative || d.isZero)

/-- How many whole parts a finite magnitude has when one is cut into equal parts. -/
def wholeParts (parts : Nat) (d : Double) : Option Nat :=
  match d.classify with
  | .finite significand unit =>
    some (significand * Nat.pow 2 unit.toNat * parts / Nat.pow 2 (-unit).toNat)
  | _ => none

/-- The integer nearest to a fraction; a half goes to the even neighbour. -/
def roundQuotient (numerator denominator : Nat) : Nat :=
  let quotient := numerator / denominator
  let twice := 2 * (numerator % denominator)
  if twice < denominator then quotient
  else if denominator < twice then quotient + 1
  else quotient + quotient % 2

/-- The largest power of two not above a positive fraction, as an exponent. -/
def binaryExponent (numerator denominator : Nat) : Int :=
  let guess : Int := numerator.log2 - denominator.log2
  let reached : Bool :=
    if 0 ≤ guess then denominator * Nat.pow 2 guess.toNat ≤ numerator
    else denominator ≤ numerator * Nat.pow 2 (-guess).toNat
  if reached then guess else guess - 1

/-- The double nearest to a fraction; a half goes to the even significand, and values beyond the
largest double become infinite. -/
def ofFraction (negative : Bool) (numerator denominator : Nat) : Double :=
  if numerator = 0 then ofFields negative 0
  else
    let unit := max (binaryExponent numerator denominator - 52) (-1074)
    let significand :=
      if 0 ≤ unit then roundQuotient numerator (denominator * Nat.pow 2 unit.toNat)
      else roundQuotient (numerator * Nat.pow 2 (-unit).toNat) denominator
    ofFields negative (min ((unit + 1074).toNat * hiddenBit + significand) infinityFields)

/-- The decimal numbers whose magnitude reaches this power of ten are infinite. -/
def decimalCeiling : Int := 310

/-- The decimal numbers below this power of ten round to zero. -/
def decimalFloor : Int := -330

/-- The double nearest to `digits` times ten to the power `exponent`. -/
def ofDecimal (negative : Bool) (digits : Nat) (exponent : Int) : Double :=
  if digits = 0 then ofFields negative 0
  else
    let size : Int := (Nat.toDigits 10 digits).length + exponent
    if decimalCeiling < size then infinity negative
    else if size < decimalFloor then ofFields negative 0
    else if 0 ≤ exponent then ofFraction negative (digits * Nat.pow 10 exponent.toNat) 1
    else ofFraction negative digits (Nat.pow 10 (-exponent).toNat)

example : ofDecimal false 1 0 = ⟨0x3ff0000000000000⟩ := by decide +kernel
example : ofDecimal true 5 (-324) = ⟨0x8000000000000001⟩ := by decide +kernel
example : ofDecimal false 1 400 = infinity false := by decide +kernel

end Double

end RegistryMend.Decimal

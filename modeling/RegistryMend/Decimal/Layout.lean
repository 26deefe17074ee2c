import RegistryMend.Decimal.Shortest
import RegistryMend.Text.Digit

/-! # Writing doubles

A layout fixes how the shortest digits of a double are set: which exponents are written
positionally, how the exponent is marked, and the texts of the values that have no digits.
-/

namespace RegistryMend.Decimal

/-- How doubles are written. -/
structure Layout where
  /-- The least exponent of the leading digit that is written positionally. -/
  firstPositional : Int
  /-- The first exponent of the leading digit that is no longer written positionally. -/
  endPositional : Int
  /-- The least number of digits of a written exponent. -/
  exponentWidth : Nat
  notANumber : String
  infinite : String

/-- Numbers from 0.0001 up to below 10000000000000000 are written positionally and keep a
fraction, others with a signed exponent of at least two digits. -/
def Layout.json : Layout := ⟨-4, 16, 2, "NaN", "Infinity"⟩

/-- As in JSON text, with the lower-case names of the values without digits. -/
def Layout.plain : Layout := ⟨-4, 16, 2, "nan", "inf"⟩

/-- Fills a list of digits with zeros on the left up to a width. -/
def padLeft (width : Nat) (cs : List Char) : List Char :=
  List.replicate (width - cs.length) '0' ++ cs

/-- Digits with the point behind the first of them, if there are more. -/
def pointAfterFirst : List Char → List Char
  | [] => []
  | [c] => [c]
  | c :: rest => c :: '.' :: rest

/-- Sets the digits of a positive decimal; `leading` is the exponent of the first digit. -/
def Layout.setDigits (layout : Layout) (digits : List Char) (leading : Int) : List Char :=
  if leading < layout.firstPositional ∨ layout.endPositional ≤ leading then
    pointAfterFirst digits ++ ['e', if leading < 0 then '-' else '+'] ++
      padLeft layout.exponentWidth (Nat.toDigits 10 leading.natAbs)
  else if leading < 0 then
    ['0', '.'] ++ List.replicate (leading.natAbs - 1) '0' ++ digits
  else
    let whole := leading.toNat + 1
    if digits.length ≤ whole then
      digits ++ List.replicate (whole - digits.length) '0' ++ ['.', '0']
    else digits.take whole ++ '.' :: digits.drop whole

/-- Removes the zeros at the end of a list of digits, but not the first digit. -/
def dropTrailingZeros (cs : List Char) : List Char :=
  match (cs.reverse.dropWhile (· = '0')).reverse with
  | [] => ['0']
  | kept => kept

/-- The text of a double without its sign. -/
def Layout.magnitude (layout : Layout) (d : Double) : List Char :=
  match d.classify with
  | .nan => layout.notANumber.toList
  | .infinite => layout.infinite.toList
  | .finite significand unit =>
    let shortest := Decimal.shortest significand unit
    let digits := Nat.toDigits 10 shortest.digits
    layout.setDigits (dropTrailingZeros digits)
      (if shortest.digits = 0 then 0 else digits.length - 1 + shortest.exponent)

/-- The text of a double. The sign of zero is kept and that of a NaN is not. -/
def Layout.write (layout : Layout) (d : Double) : List Char :=
  if d.isNegative && !d.isNaN then '-' :: layout.magnitude d else layout.magnitude d

/-- The plain text of a double. -/
def Double.plainText (d : Double) : String :=
  String.ofList (Layout.plain.write d)

end RegistryMend.Decimal

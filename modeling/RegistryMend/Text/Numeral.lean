import RegistryMend.Text.Blank
import RegistryMend.Text.Digit

/-! # Numerals

A numeral may have blanks around it, a sign, and single underscores between its digits. Decimal
digits of every script count.
-/

namespace RegistryMend.Text

/-- The most digits of a decimal numeral that is converted. -/
def maximalDigits : Nat := 4300

/-- Replaces decimal digits of other scripts by ASCII digits. -/
def asciiDigits (cs : List Char) : List Char :=
  cs.map fun c =>
    match decimalValue? c with
    | some n => Char.ofNat (48 + n)
    | none => c

/-- Removes the underscores between digits; a text with any other underscore is refused. The first
argument is the character before. -/
def withoutUnderscores : Option Char → List Char → Option (List Char)
  | before, '_' :: c :: rest =>
    if before.any isAsciiDigit && isAsciiDigit c then
      (withoutUnderscores (some c) rest).map (c :: ·)
    else none
  | _, ['_'] => none
  | _, c :: rest => (withoutUnderscores (some c) rest).map (c :: ·)
  | _, [] => some []

/-- Splits a sign off a text: whether it is negative, and the rest. -/
def splitSign : List Char → Bool × List Char
  | '-' :: rest => (true, rest)
  | '+' :: rest => (false, rest)
  | rest => (false, rest)

/-- A magnitude with its sign. -/
def signed (negative : Bool) (magnitude : Nat) : Int :=
  if negative then -magnitude else magnitude

/-- Whether a character may stand around a decimal numeral. The four separators may not. -/
def isNumeralBlank (c : Char) : Bool :=
  isBlank c && !(0x1c ≤ c.toNat && c.toNat ≤ 0x1f)

/-- Removes what may stand around a decimal numeral. -/
def trimNumeral (cs : List Char) : List Char :=
  trimBy isNumeralBlank cs

/-- The whole number that a decimal numeral stands for. -/
def readInteger? (text : List Char) : Option Int := do
  let cs ← withoutUnderscores none (asciiDigits (trimNumeral text))
  let (negative, digits) := splitSign cs
  if digits.isEmpty || !digits.all isAsciiDigit || maximalDigits < digits.length then none
  else return signed negative (natOfDigits digits)

/-- Whether a character is an octal digit. -/
def isOctalDigit (c : Char) : Bool :=
  48 ≤ c.toNat && c.toNat ≤ 55

/-- A numeral without the mark of octal numerals. -/
def withoutOctalMark : List Char → List Char
  | '0' :: mark :: rest =>
    if mark = 'o' ∨ mark = 'O' then
      match rest with
      | '_' :: rest => rest
      | rest => rest
    else '0' :: mark :: rest
  | cs => cs

/-- The whole number that an octal numeral stands for. Blank text stands for zero. -/
def readOctal? (text : List Char) : Option Int := do
  let cs := trimBlanks text
  if cs.isEmpty then return 0
  else
    let (negative, cs) := splitSign cs
    let digits ← withoutUnderscores none (withoutOctalMark cs)
    if digits.isEmpty || !digits.all isOctalDigit then none
    else return signed negative (digits.foldl (fun n c => 8 * n + (c.toNat - 48)) 0)

example : readInteger? " -1_000\n".toList = some (-1000) := by decide
example : readInteger? "1__0".toList = none ∧ readInteger? "\x1c1".toList = none := by decide
example : readOctal? "0000644 ".toList = some 420 := by decide

end RegistryMend.Text

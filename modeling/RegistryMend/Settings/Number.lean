import RegistryMend.Json.Reader
import RegistryMend.Text.Numeral

/-! # Numbers in settings

A number is written as a numeral, with places and an exponent, or as a word.
-/

namespace RegistryMend.Settings

/-- The texts of the numbers without digits, in lower case. -/
def wordNumber? (negative : Bool) (word : String) : Option Decimal.Double :=
  if word = "inf" ∨ word = "infinity" then some (.infinity negative)
  else if word = "nan" then some .nan
  else none

/-- The digits before and behind the point, and the text after them. -/
def readPlaces (cs : List Char) : List Char × List Char × List Char :=
  let (whole, rest) := Json.spanDigits cs
  match rest with
  | '.' :: rest =>
    let (places, rest) := Json.spanDigits rest
    (whole, places, rest)
  | rest => (whole, [], rest)

/-- The double that a text writes, in decimal or as a word. -/
def readDouble? (text : String) : Option Decimal.Double := do
  let cs ← Text.withoutUnderscores none (Text.asciiDigits (Text.trimNumeral text.toList))
  let (negative, magnitude) := Text.splitSign cs
  match wordNumber? negative (String.ofList magnitude).toLower with
  | some d => return d
  | none =>
    let (whole, places, rest) := readPlaces magnitude
    if whole.isEmpty && places.isEmpty then none
    else
      let (power, rest) ← if rest.isEmpty then some (0, []) else Json.readExponent rest
      if rest.isEmpty then
        return .ofDecimal negative (Text.natOfDigits (whole ++ places)) (power - places.length)
      else none

end RegistryMend.Settings

import RegistryMend.Text.Hex
import RegistryMend.Text.Printable
import RegistryMend.Text.Wide

/-! # Quoted text

A text is shown inside apostrophes, or inside quotation marks if it holds an apostrophe and no
quotation mark. The mark in use and the backslash are escaped, line feed, carriage return and tab
have short escapes, and what cannot be printed, a lone surrogate among it, is written by its code
point in two, four or eight hexadecimal digits.
-/

namespace RegistryMend.Text

/-- The mark that encloses a text. -/
def quoteMark (codes : List Code) : Char :=
  if codes.contains '\'' && !codes.contains '"' then '"' else '\''

/-- One character between the marks. -/
def quoteChar (mark c : Char) : List Char :=
  if c = mark || c = '\\' then ['\\', c]
  else if c = '\n' then ['\\', 'n']
  else if c = '\r' then ['\\', 'r']
  else if c = '\t' then ['\\', 't']
  else if isPrintable c then [c]
  else if c.toNat < 0x100 then ['\\', 'x'] ++ hexDigits 2 c.toNat
  else if c.toNat < 0x10000 then ['\\', 'u'] ++ hexDigits 4 c.toNat
  else ['\\', 'U'] ++ hexDigits 8 c.toNat

/-- One code point between the marks. -/
def quoteCode (mark : Char) : Code → List Char
  | .char c => quoteChar mark c
  | .lone place => ['\\', 'u'] ++ hexDigits 4 (0xd800 + place)

/-- The quoted form of a list of code points. -/
def quoteCodes (codes : List Code) : List Char :=
  let mark := quoteMark codes
  mark :: codes.flatMap (quoteCode mark) ++ [mark]

/-- The quoted form of a text. -/
def quoted (s : WideText) : String :=
  String.ofList (quoteCodes s.codes)

example : quoted "a'b" = "\"a'b\"" := by decide +kernel
example : quoted "a\n\x7f" = "'a\\n\\x7f'" := by decide +kernel

end RegistryMend.Text

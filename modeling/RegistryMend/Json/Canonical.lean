import RegistryMend.Decimal.Integer
import RegistryMend.Decimal.Layout
import RegistryMend.Json.Value
import RegistryMend.Text.Hex

/-! # Canonical JSON text

Two objects with the same members have the same canonical text, whatever the order of their keys:
keys are sorted by code point at every level. The text is printable ASCII. A comma is followed by a
space, and so is a colon.
-/

namespace RegistryMend.Json

/-- A code unit of sixteen bits, escaped. -/
def unicodeEscape (unit : Nat) : List Char :=
  '\\' :: 'u' :: Text.hexDigits 4 unit

/-- One character within quotation marks. Characters beyond U+FFFF are written as two surrogates. -/
def escapeChar (c : Char) : List Char :=
  let n := c.toNat
  if c = '"' ∨ c = '\\' then ['\\', c]
  else if c = '\n' then ['\\', 'n']
  else if c = '\r' then ['\\', 'r']
  else if c = '\t' then ['\\', 't']
  else if n = 8 then ['\\', 'b']
  else if n = 12 then ['\\', 'f']
  else if 0x20 ≤ n ∧ n < 0x7f then [c]
  else if n < 0x10000 then unicodeEscape n
  else
    unicodeEscape (0xd800 + (n - 0x10000) / 0x400) ++ unicodeEscape (0xdc00 + (n - 0x10000) % 0x400)

/-- One code point within quotation marks. -/
def escapeCode : Code → List Char
  | .char c => escapeChar c
  | .lone place => unicodeEscape (0xd800 + place)

/-- A string in quotation marks. -/
def stringChars (s : WideText) : List Char :=
  '"' :: s.codes.flatMap escapeCode ++ ['"']

/-- Texts with a comma and a space between them. -/
def joinItems (texts : List (List Char)) : List Char :=
  [',', ' '].intercalate texts

/-- Sorts by key, in the order of code points. -/
def sortByKey {α : Type} (members : List (WideText × α)) : List (WideText × α) :=
  members.mergeSort fun a b => decide (a.1 ≤ b.1)

/-- The text of an object whose members are written already. -/
def joinMembers (members : List (WideText × List Char)) : List Char :=
  joinItems ((sortByKey members).map fun (key, text) => stringChars key ++ [':', ' '] ++ text)

mutual

/-- The canonical text of a value. -/
def Value.canonicalChars : Value → List Char
  | .null => "null".toList
  | .bool true => "true".toList
  | .bool false => "false".toList
  | .int n => Decimal.integerChars n
  | .double d => Decimal.Layout.json.write d
  | .str s => stringChars s
  | .arr items => '[' :: joinItems (canonicalItems items) ++ [']']
  | .obj members => '\x7b' :: joinMembers (canonicalMembers members) ++ ['\x7d']

/-- The canonical texts of the items of an array. -/
def canonicalItems : List Value → List (List Char)
  | [] => []
  | item :: rest => item.canonicalChars :: canonicalItems rest

/-- The members of an object with the canonical texts of their values. -/
def canonicalMembers : List (WideText × Value) → List (WideText × List Char)
  | [] => []
  | (key, value) :: rest => (key, value.canonicalChars) :: canonicalMembers rest

end

/-- The canonical text of a value. -/
def Value.canonical (value : Value) : String :=
  String.ofList value.canonicalChars

end RegistryMend.Json

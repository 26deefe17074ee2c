import RegistryMend.Decimal.Layout
import RegistryMend.Json.Canonical
import RegistryMend.Text.Quoted

/-! # Values shown as text

A value that stands where a text is expected is shown. A string is shown as it is, and quoted
within arrays and objects. Members keep their order.
-/

namespace RegistryMend.Json

mutual

/-- How a value is shown within an array or an object. -/
def Value.shownInside : Value → List Char
  | .null => "None".toList
  | .bool true => "True".toList
  | .bool false => "False".toList
  | .int n => Decimal.integerChars n
  | .double d => Decimal.Layout.plain.write d
  | .str s => Text.quoteCodes s.codes
  | .arr items => '[' :: joinItems (itemsShown items) ++ [']']
  | .obj members => '\x7b' :: joinItems (membersShown members) ++ ['\x7d']

/-- The items of an array, shown. -/
def itemsShown : List Value → List (List Char)
  | [] => []
  | item :: rest => item.shownInside :: itemsShown rest

/-- The members of an object, shown. -/
def membersShown : List (WideText × Value) → List (List Char)
  | [] => []
  | (key, value) :: rest =>
    (Text.quoteCodes key.codes ++ [':', ' '] ++ value.shownInside) :: membersShown rest

end

/-- How a value is shown as text. -/
def Value.shown : Value → WideText
  | .str s => s
  | value => String.ofList value.shownInside

/-- The text of a value that was given, and the empty text otherwise. -/
def Value.givenText (value : Value) : WideText :=
  if value.isGiven then value.shown else ""

/-- The text of a member that was given, and the empty text if it is absent or was not. -/
def Members.givenText (key : WideText) (members : Members) : WideText :=
  ((members.find? key).map Value.givenText).getD ""

@[simp] theorem Value.givenText_str (s : WideText) : (Value.str s).givenText = s := by
  by_cases empty : s = ""
  · simp [Value.givenText, Value.isGiven, empty]
  · simp [Value.givenText, Value.isGiven, Value.shown, empty]

end RegistryMend.Json

import RegistryMend.Assoc
import RegistryMend.Decimal.Double
import RegistryMend.Text.Wide

/-! # JSON values

A value keeps whole numbers of any size apart from doubles, and the members of an object in the
order in which their keys first appeared. Objects are changed by `insert`, which replaces the
value of a key where it stands or adds the key at the end, so keys stay distinct.
-/

namespace RegistryMend.Json

/-- A JSON value. -/
inductive Value where
  | null
  | bool (b : Bool)
  | int (n : Int)
  | double (d : Decimal.Double)
  | str (s : WideText)
  | arr (items : List Value)
  | obj (members : List (WideText × Value))
deriving Repr, Inhabited

/-- The members of an object. -/
abbrev Members := List (WideText × Value)

namespace Members

/-- The value of a key. -/
abbrev find? (key : WideText) (members : Members) : Option Value :=
  members.lookup key

/-- Replaces the value of a key, or adds the key behind all others. -/
abbrev insert (key : WideText) (value : Value) (members : Members) : Members :=
  Assoc.insert key value members

end Members

namespace Value

/-- The members of an object; other values have none. -/
def members : Value → Members
  | obj members => members
  | _ => []

/-- Whether the value is an object. -/
def isObject : Value → Bool
  | obj _ => true
  | _ => false

/-- The members, if the value is an object. -/
def object? : Value → Option Members
  | obj members => some members
  | _ => none

/-- The text, if the value is a string. -/
def string? : Value → Option WideText
  | str s => some s
  | _ => none

/-- The text, if the value is a plain string. -/
def plainText? (value : Value) : Option String :=
  value.string?.bind WideText.plain?

/-- Whether a value counts as given: null, false, zero and everything empty do not. -/
def isGiven : Value → Bool
  | null => false
  | bool b => b
  | int n => n != 0
  | double d => !d.isZero
  | str s => s != ""
  | arr items => !items.isEmpty
  | obj members => !members.isEmpty

end Value

end RegistryMend.Json

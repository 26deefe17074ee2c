import RegistryMend.CallDepth
import RegistryMend.Json.Value
import RegistryMend.Text.Hex
import RegistryMend.Text.Numeral

/-! # Reading JSON

`Value.read` reads a whole text. Blanks are space, tab, line feed and carriage return. Besides the
standard numbers, `NaN`, `Infinity` and `-Infinity` are read. A key that occurs twice keeps its
first place and its last value. Characters below U+0020 must be escaped within strings. Two escaped
surrogates become the character that they are a pair of; others stay on their own. `Value.readBounded`
reads no deeper than nested calls go.
-/

namespace RegistryMend.Json

/-- Why a text is not read. -/
inductive ReadError where
  /-- The text does not follow the grammar. -/
  | malformed
  /-- A whole number has more digits than are converted. -/
  | numberTooLong
  /-- Values are nested too deeply. -/
  | tooDeep
deriving DecidableEq, Repr

/-- What a reading step gives: a result and the text behind it. -/
abbrev Reading (α : Type) := Except ReadError (α × List Char)

/-- Whether a character may stand between tokens. -/
def isSpace (c : Char) : Bool :=
  c == ' ' || c == '\t' || c == '\n' || c == '\r'

/-- Skips the blanks at the start of a text. -/
def skipSpaces (cs : List Char) : List Char :=
  cs.dropWhile isSpace

/-- The text behind a fixed word, if it starts with the word. -/
def stripWord? : List Char → List Char → Option (List Char)
  | [], cs => some cs
  | w :: word, c :: cs => if w = c then stripWord? word cs else none
  | _ :: _, [] => none

/-- The number written by four hexadecimal digits. -/
def hexQuad? (a b c d : Char) : Option Nat := do
  let a ← Text.hexValue? a
  let b ← Text.hexValue? b
  let c ← Text.hexValue? c
  let d ← Text.hexValue? d
  return ((a * 16 + b) * 16 + c) * 16 + d

/-- The character that a letter stands for behind a backslash. -/
def shortEscape? : Char → Option Char
  | '"' => some '"'
  | '\\' => some '\\'
  | '/' => some '/'
  | 'b' => some (Char.ofNat 8)
  | 'f' => some (Char.ofNat 12)
  | 'n' => some '\n'
  | 'r' => some '\r'
  | 't' => some '\t'
  | _ => none

/-- Reads a string behind its opening quotation mark; the accumulator holds the code points read so
far, last first. -/
def readString (read : List Code) : List Char → Reading WideText
  | '"' :: rest => .ok (.ofCodes read.reverse, rest)
  | '\\' :: 'u' :: a :: b :: c :: d :: rest =>
    match hexQuad? a b c d with
    | none => .error .malformed
    | some unit => readString (.ofUnit unit :: read) rest
  | '\\' :: c :: rest =>
    match shortEscape? c with
    | some escaped => readString (escaped :: read) rest
    | none => .error .malformed
  | c :: rest => if c.toNat < 0x20 then .error .malformed else readString (c :: read) rest
  | [] => .error .malformed

/-- Splits the digits off the start of a text. -/
def spanDigits (cs : List Char) : List Char × List Char :=
  cs.span Text.isAsciiDigit

/-- The digits behind a point, if there are any. -/
def readFraction : List Char → Option (List Char × List Char)
  | '.' :: rest =>
    match spanDigits rest with
    | ([], _) => none
    | found => some found
  | _ => none

/-- The exponent behind its letter, if it has digits. -/
def readExponent : List Char → Option (Int × List Char)
  | letter :: rest =>
    if letter = 'e' ∨ letter = 'E' then
      let (negative, digits) := Text.splitSign rest
      match spanDigits digits with
      | ([], _) => none
      | (digits, rest) =>
        some (Text.signed negative (Text.natOfDigits digits), rest)
    else none
  | [] => none

/-- The whole part of a number: a zero, or digits that do not start with a zero. -/
def readWhole : List Char → Option (List Char × List Char)
  | '0' :: rest => some (['0'], rest)
  | cs =>
    match spanDigits cs with
    | ([], _) => none
    | found => some found

/-- Reads the magnitude of a number. With a fraction or an exponent it is a double. -/
def readMagnitude (negative : Bool) (cs : List Char) : Reading Value :=
  match readWhole cs with
  | none => .error .malformed
  | some (whole, rest) =>
    let fraction := readFraction rest
    let behindFraction := (fraction.map (·.2)).getD rest
    let exponent := readExponent behindFraction
    if fraction.isNone && exponent.isNone then
      if Text.maximalDigits < whole.length then .error .numberTooLong
      else
        .ok (.int (Text.signed negative (Text.natOfDigits whole)), rest)
    else
      let places := (fraction.map (·.1)).getD []
      let (power, behind) := exponent.getD (0, behindFraction)
      .ok (.double (Decimal.Double.ofDecimal negative (Text.natOfDigits (whole ++ places))
        (power - places.length)), behind)

/-- Reads a number with its sign. -/
def readNumber : List Char → Reading Value
  | '-' :: rest => readMagnitude true rest
  | cs => readMagnitude false cs

/-- The values that are written as words. -/
def wordValues : List (List Char × Value) := [
  ("null".toList, .null), ("true".toList, .bool true), ("false".toList, .bool false),
  ("NaN".toList, .double .nan), ("Infinity".toList, .double (.infinity false)),
  ("-Infinity".toList, .double (.infinity true))]

/-- Reads a word or a number. -/
def readAtom (cs : List Char) : Reading Value :=
  match wordValues.findSome? fun (word, value) => (stripWord? word cs).map (value, ·) with
  | some found => .ok found
  | none => readNumber cs

/-- Expects the colon between a key and its value. -/
def skipColon (cs : List Char) : Except ReadError (List Char) :=
  match skipSpaces cs with
  | ':' :: rest => .ok (skipSpaces rest)
  | _ => .error .malformed

/-- How many levels deeper values may be nested, if there is a limit. -/
abbrev Room := Option Nat

/-- The room that is left one level deeper. -/
def Room.deeper : Room → Except ReadError Room
  | none => .ok none
  | some 0 => .error .tooDeep
  | some (room + 1) => .ok (some room)

mutual

/-- Reads the value at the start of a text. Each call uses one unit of fuel. -/
def readValue : Nat → Room → List Char → Reading Value
  | 0, _, _ => .error .malformed
  | fuel + 1, room, cs =>
    match cs with
    | '"' :: rest => (readString [] rest).map fun (s, rest) => (.str s, rest)
    | '[' :: rest =>
      match room.deeper with
      | .error e => .error e
      | .ok room =>
        match skipSpaces rest with
        | ']' :: rest => .ok (.arr [], rest)
        | rest => readItems fuel room [] rest
    | '\x7b' :: rest =>
      match room.deeper with
      | .error e => .error e
      | .ok room =>
        match skipSpaces rest with
        | '\x7d' :: rest => .ok (.obj [], rest)
        | rest => readMembers fuel room [] rest
    | cs => readAtom cs

/-- Reads the items of an array from the first character of an item; `read` holds those before it,
last first. -/
def readItems : Nat → Room → List Value → List Char → Reading Value
  | 0, _, _, _ => .error .malformed
  | fuel + 1, room, read, cs =>
    match readValue fuel room cs with
    | .error e => .error e
    | .ok (item, rest) =>
      match skipSpaces rest with
      | ']' :: rest => .ok (.arr (item :: read).reverse, rest)
      | ',' :: rest => readItems fuel room (item :: read) (skipSpaces rest)
      | _ => .error .malformed

/-- Reads the members of an object from the quotation mark of a key. -/
def readMembers : Nat → Room → Members → List Char → Reading Value
  | 0, _, _, _ => .error .malformed
  | fuel + 1, room, read, cs =>
    match cs with
    | '"' :: rest =>
      match readString [] rest with
      | .error e => .error e
      | .ok (key, rest) =>
        match skipColon rest with
        | .error e => .error e
        | .ok rest =>
          match readValue fuel room rest with
          | .error e => .error e
          | .ok (value, rest) =>
            let read := read.insert key value
            match skipSpaces rest with
            | '\x7d' :: rest => .ok (.obj read, rest)
            | ',' :: rest => readMembers fuel room read (skipSpaces rest)
            | _ => .error .malformed
    | _ => .error .malformed

end

/-- Reads a list of characters as one value with blanks around it, within some room. Every second
call reads at least one character, which bounds the fuel. -/
def Value.readWithin (room : Room) (cs : List Char) : Except ReadError Value :=
  match readValue (2 * cs.length + 2) room (skipSpaces cs) with
  | .error e => .error e
  | .ok (value, rest) => if (skipSpaces rest).isEmpty then .ok value else .error .malformed

/-- Reads a text as one value with blanks around it. -/
def Value.read (text : String) : Except ReadError Value :=
  Value.readWithin none text.toList

/-- How deep a text may be nested that is read with the calls that are left: three calls lead to the
reader, and every level takes one more. -/
def deepestNesting : Nat := callsLeft - 3

/-- Reads a list of characters as one value with blanks around it, unless it is nested too deeply. -/
def Value.readBounded (cs : List Char) : Except ReadError Value :=
  Value.readWithin (some deepestNesting) cs

end RegistryMend.Json

import RegistryMend.Text.Blank
import RegistryMend.Text.Hex

/-! # Wide texts

An escaped text is written code unit by code unit, so it may name a surrogate without the other half
of its pair. A wide text is a sequence of characters and such lone surrogates. Two halves that come
to stand next to each other are one character, which the type keeps. A text without surrogates is
plain; only plain texts have a form in UTF-8.
-/

namespace RegistryMend

/-- One code point of a wide text. -/
inductive Code where
  | char (c : Char)
  /-- A surrogate on its own, by its place among the surrogates. -/
  | lone (place : Fin 0x800)
deriving DecidableEq, Repr

namespace Code

instance : Coe Char Code := ⟨char⟩

/-- The number of a code point. -/
def toNat : Code → Nat
  | char c => c.toNat
  | lone place => 0xd800 + place

/-- The code point that a code unit of sixteen bits stands for. -/
def ofUnit (unit : Nat) : Code :=
  if 0xd800 ≤ unit ∧ unit < 0xe000 then lone (Fin.ofNat 0x800 (unit - 0xd800))
  else char (Char.ofNat unit)

/-- The character, if it is one. -/
def char? : Code → Option Char
  | char c => some c
  | lone _ => none

/-- Whether a code point is the first half of a surrogate pair. -/
def isHigh : Code → Bool
  | char _ => false
  | lone place => place < 0x400

/-- Whether a code point is the second half of a surrogate pair. -/
def isLow : Code → Bool
  | char _ => false
  | lone place => 0x400 ≤ place

/-- Whether a code point counts as white space. -/
def isBlank : Code → Bool
  | char c => Text.isBlank c
  | lone _ => false

/-- Whether no two halves of a surrogate pair stand next to each other. -/
def isJoined : List Code → Bool
  | first :: second :: rest => !(first.isHigh && second.isLow) && isJoined (second :: rest)
  | _ => true

/-- The character that two surrogates stand for. -/
def pair (high low : Fin 0x800) : Char :=
  Char.ofNat (0x10000 + high * 0x400 + (low - 0x400))

/-- Puts a code point before others. It becomes one character with the next one if they are the two
halves of a surrogate pair. -/
def joinTo : Code → List Code → List Code
  | lone high, lone low :: later =>
    if high < 0x400 ∧ 0x400 ≤ low then char (pair high low) :: later
    else lone high :: lone low :: later
  | code, later => code :: later

/-- Puts the two halves of every surrogate pair together. -/
def join (codes : List Code) : List Code :=
  codes.foldr joinTo []

@[simp] theorem isJoined_nil : isJoined [] = true := rfl

@[simp] theorem isJoined_singleton (code : Code) : isJoined [code] = true := rfl

@[simp] theorem isJoined_char (c : Char) (rest : List Code) :
    isJoined (char c :: rest) = isJoined rest := by
  cases rest <;> simp [isJoined, isHigh]

theorem isJoined_map_char (cs : List Char) : isJoined (cs.map char) = true := by
  induction cs with
  | nil => rfl
  | cons c rest ih => simpa using ih

theorem isJoined_of_cons {code : Code} {rest : List Code} (joined : isJoined (code :: rest) = true) :
    isJoined rest = true := by
  cases rest with
  | nil => rfl
  | cons next rest =>
    rw [isJoined, Bool.and_eq_true] at joined
    exact joined.2

theorem isJoined_joinTo (code : Code) {rest : List Code} (joined : isJoined rest = true) :
    isJoined (joinTo code rest) = true := by
  fun_cases joinTo code rest with
  | case1 high low later halves =>
    rw [isJoined_char]
    exact isJoined_of_cons joined
  | case2 high low later others =>
    have apart : ((lone high).isHigh && (lone low).isLow) = false := by
      rw [isHigh, isLow, ← Bool.decide_and]
      exact decide_eq_false others
    rw [isJoined, joined, apart]
    rfl
  | case3 =>
    rename_i single
    cases code with
    | char c => rwa [isJoined_char]
    | lone high =>
      cases rest with
      | nil => rfl
      | cons next later =>
        cases next with
        | char c => simpa [isJoined, isLow] using joined
        | lone low => exact absurd rfl (single high low later rfl)

/-- After joining, no two halves of a pair stand next to each other. -/
theorem isJoined_join (codes : List Code) : isJoined (join codes) = true := by
  induction codes with
  | nil => rfl
  | cons code rest ih => exact isJoined_joinTo code ih

end Code

/-- A text of code points. -/
structure WideText where
  codes : List Code
  joined : Code.isJoined codes = true
deriving DecidableEq, Repr

namespace WideText

/-- The text of code points, with the halves of every surrogate pair put together. -/
def ofCodes (codes : List Code) : WideText :=
  ⟨Code.join codes, Code.isJoined_join codes⟩

/-- A plain text as a wide one. -/
def ofString (s : String) : WideText :=
  ⟨s.toList.map .char, Code.isJoined_map_char s.toList⟩

instance : Coe String WideText := ⟨ofString⟩

instance : Inhabited WideText := ⟨""⟩

instance : Append WideText := ⟨fun first second => ofCodes (first.codes ++ second.codes)⟩

/-- The numbers of the code points. -/
def points (text : WideText) : List Nat :=
  text.codes.map Code.toNat

instance : LE WideText := ⟨fun first second => List.instLE.le first.points second.points⟩

instance (first second : WideText) : Decidable (first ≤ second) :=
  inferInstanceAs (Decidable (List.instLE.le first.points second.points))

/-- The text, if it is plain. -/
def plain? (text : WideText) : Option String :=
  (text.codes.mapM Code.char?).map String.ofList

@[simp] theorem plain?_ofString (s : String) : (ofString s).plain? = some s := by
  have chars (cs : List Char) : (cs.map Code.char).mapM Code.char? = some cs := by
    induction cs with
    | nil => rfl
    | cons c rest ih => simp [Code.char?, ih]
  simp [plain?, ofString, chars]

/-- A text without the blanks around it. -/
def trim (text : WideText) : WideText :=
  ofCodes (Text.trimBy Code.isBlank text.codes)

/-- Whether a text holds nothing but blanks. -/
def allBlank (text : WideText) : Bool :=
  text.codes.all Code.isBlank

/-- A text with lone surrogates written by their code points. -/
def escaped (text : WideText) : String :=
  String.ofList (text.codes.flatMap fun
    | .char c => [c]
    | .lone place => '\\' :: 'u' :: Text.hexDigits 4 (0xd800 + place))

end WideText

end RegistryMend

import RegistryMend.Archive.Bits

/-! # Prefix codes

A prefix code is given by the lengths of the codes of its symbols. The codes of each length are
numbered in the order of their symbols, behind those that continue shorter codes.
-/

namespace RegistryMend.Archive

/-- The symbols with codes of one bit, of two bits, and so on. -/
abbrev PrefixCode := List (List Nat)

namespace PrefixCode

/-- The symbols whose codes have a length. -/
def symbolsOfLength (lengths : List Nat) (length : Nat) : List Nat :=
  lengths.zipIdx.filterMap fun (l, symbol) => if l = length then some symbol else none

/-- The code with the given lengths of its symbols; a length of zero means that there is none. The
list ends with the longest codes and has at least one entry. -/
def ofLengths (lengths : List Nat) : PrefixCode :=
  let longest := lengths.foldl max 0
  (List.range' 1 (max 1 longest)).map (symbolsOfLength lengths)

/-- How many codes of the last length are left over, if no length has too many. The first argument
is how many are free so far. -/
def leftOver? : Nat → PrefixCode → Option Nat
  | free, [] => some free
  | free, symbols :: longer =>
    if 2 * free < symbols.length then none else leftOver? (2 * free - symbols.length) longer

/-- Whether every sequence of bits starts with a code. -/
def isComplete (code : PrefixCode) : Bool :=
  leftOver? 1 code == some 0

/-- Whether a code may be used: it is complete, or has no codes, or only one of a single bit. -/
def isUsable (code : PrefixCode) : Bool :=
  code.isComplete || ((leftOver? 1 code).isSome && code.length == 1)

/-- Reads a symbol. The first argument is the place of the bits read so far among the codes of
their length that do not continue shorter ones. -/
def readFrom (place : Nat) : PrefixCode → Decoder Nat
  | [] => throw .damaged
  | symbols :: longer => do
    let place := 2 * place + (← Decoder.bit)
    match symbols[place]? with
    | some symbol => return symbol
    | none => readFrom (place - symbols.length) longer

/-- Reads a symbol. -/
def read (code : PrefixCode) : Decoder Nat :=
  readFrom 0 code

end PrefixCode

end RegistryMend.Archive

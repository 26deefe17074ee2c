import RegistryMend.Archive.TarHeader
import RegistryMend.Assoc
import RegistryMend.Failure
import RegistryMend.Text.Utf8

/-! # Extended headers

An extended header is a list of records. A record gives its own length, a key and a value; of two
records with the same key the later one counts. Some keys change what is known about a member.
-/

namespace RegistryMend.Archive

/-- Keys and values as bytes. -/
abbrev Records := List (List UInt8 × List UInt8)

/-- The bytes of an ASCII text. -/
def asciiBytes (text : String) : List UInt8 :=
  text.toList.map fun c => UInt8.ofNat c.toNat

def equalsSign : UInt8 := 61
def newline : UInt8 := 10

/-- Whether a byte is an ASCII digit. -/
def isDigitByte (byte : UInt8) : Bool :=
  48 ≤ byte && byte ≤ 57

/-- The least length of a record. -/
def shortestRecord : Nat := 5

/-- The most digits that the length of a record may have. -/
def longestLength : Nat := 20

/-- The length of the record that bytes start with, and how many digits it has. -/
def recordLength? (bytes : List UInt8) : Option (Nat × Nat) :=
  let digits := (bytes.take (longestLength + 1)).takeWhile isDigitByte
  if digits.isEmpty || longestLength < digits.length || bytes[digits.length]? != some 32 then none
  else
    let length := Text.natOfDigits (digits.map fun byte => Char.ofNat byte.toNat)
    if length < shortestRecord then none else some (length, digits.length)

/-- The key and the value of a record, given the number of digits of its length. -/
def readRecord? (digits : Nat) (bytes : List UInt8) : Option (List UInt8 × List UInt8) :=
  let body := (bytes.dropLast).drop (digits + 1)
  let key := body.takeWhile (· ≠ equalsSign)
  match body.drop key.length with
  | [] => none
  | _ :: value =>
    if key.isEmpty || bytes.getLast? != some newline then none else some (key, value)

/-- The records in bytes, up to a zero. Every record has several bytes, which bounds the fuel. -/
def readRecords? : (fuel : Nat) → List UInt8 → Option (List (List UInt8 × List UInt8))
  | 0, _ => none
  | fuel + 1, bytes =>
    match bytes with
    | [] => some []
    | byte :: _ =>
      if byte = 0 then some []
      else do
        let (length, digits) ← recordLength? bytes
        let text := bytes.take length
        if text.length < length then none
        else
          let record ← readRecord? digits text
          let rest ← readRecords? fuel (bytes.drop length)
          return record :: rest

/-- The records in the data of an extended header. -/
def recordsIn? (data : List UInt8) : Option (List (List UInt8 × List UInt8)) :=
  readRecords? (data.length + 1) data

/-- Adds records to those that hold already. -/
def addRecords (holding : Records) (records : List (List UInt8 × List UInt8)) : Records :=
  records.foldl (fun holding (key, value) => Assoc.insert key value holding) holding

/-- The value of a key given as text. -/
def recordValue? (key : String) (records : Records) : Option (List UInt8) :=
  records.lookup (asciiBytes key)

/-- The whole number that bytes stand for. -/
def integerOfBytes? (bytes : List UInt8) : Option Int :=
  (Text.utf8Chars? bytes).bind Text.readInteger?

/-- A number that must be there. -/
def requireNumber (number : Option Int) : Except ArchiveFault Int :=
  match number with
  | some n => .ok n
  | none => .error .badNumber

/-- The whole number that bytes must stand for. -/
def requireInteger (bytes : List UInt8) : Except ArchiveFault Int :=
  requireNumber (integerOfBytes? bytes)

/-- Pairs of successive items; an item left over is dropped. -/
def pairs {α : Type} : List α → List (α × α)
  | a :: b :: rest => (a, b) :: pairs rest
  | _ => []

/-- A member of an archive. -/
structure Entry where
  name : List UInt8
  size : Int
  kind : Kind
  /-- Where its data starts. -/
  data : Int
  /-- The parts of its data that are not zero, if only they are kept. -/
  extents : Option (List Extent) := none
deriving DecidableEq, Repr

namespace Entry

/-- Changes a member by a record. -/
def applyRecord (entry : Entry) (key value : List UInt8) : Except ArchiveFault Entry :=
  if key = asciiBytes "GNU.sparse.name" then .ok { entry with name := value }
  else if key = asciiBytes "GNU.sparse.size" ∨ key = asciiBytes "GNU.sparse.realsize" then
    (requireInteger value).map fun size => { entry with size }
  else if key = asciiBytes "path" then .ok { entry with name := withoutLastSlashes value }
  else if key = asciiBytes "size" then .ok { entry with size := (integerOfBytes? value).getD 0 }
  else .ok entry

/-- Changes a member by records, in their order. -/
def applyRecords (entry : Entry) : Records → Except ArchiveFault Entry
  | [] => .ok entry
  | (key, value) :: rest =>
    match entry.applyRecord key value with
    | .error fault => .error fault
    | .ok entry => applyRecords entry rest

end Entry

end RegistryMend.Archive

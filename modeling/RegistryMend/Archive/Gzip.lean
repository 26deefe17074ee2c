import RegistryMend.Archive.Inflate
import RegistryMend.Digest.Crc32
import RegistryMend.Failure

/-! # Compressed files

A compressed file is a sequence of members, with zeros allowed behind each. A member is a header,
compressed data, and a trailer with the check value and the length of the data. The file is read
forward in windows, and a seek backward starts over.
-/

namespace RegistryMend.Archive

/-- How many bytes of the file are inflated at a time. -/
def windowSize : Nat := 8192

/-- Takes bytes that must be there. -/
def takeExact (count : Nat) (bytes : List UInt8) : Except ArchiveFault (List UInt8 × List UInt8) :=
  let taken := bytes.take count
  if taken.length = count then .ok (taken, bytes.drop count) else .error .unreadable

/-- The number that bytes stand for, least significant first. -/
def ofLittleEndian : List UInt8 → Nat
  | [] => 0
  | byte :: rest => byte.toNat + 256 * ofLittleEndian rest

/-- The bytes behind a text that ends with a zero, or with the file. -/
def skipText (bytes : List UInt8) : List UInt8 :=
  (bytes.dropWhile (· ≠ 0)).tail

/-- The optional parts of a member header. -/
structure HeaderFlags where
  hasChecksum : Bool
  hasExtra : Bool
  hasName : Bool
  hasComment : Bool

/-- The flags in a byte. -/
def HeaderFlags.ofByte (byte : UInt8) : HeaderFlags :=
  ⟨byte &&& 2 ≠ 0, byte &&& 4 ≠ 0, byte &&& 8 ≠ 0, byte &&& 16 ≠ 0⟩

/-- The bytes behind the optional parts of a member header. -/
def skipOptional (flags : HeaderFlags) (bytes : List UInt8) :
    Except ArchiveFault (List UInt8) := do
  let bytes ←
    if flags.hasExtra then
      let (size, rest) ← takeExact 2 bytes
      pure (← takeExact (ofLittleEndian size) rest).2
    else pure bytes
  let bytes := if flags.hasName then skipText bytes else bytes
  let bytes := if flags.hasComment then skipText bytes else bytes
  if flags.hasChecksum then return (← takeExact 2 bytes).2
  else return bytes

/-- The bytes behind a member header, or nothing at the end of the file. -/
def memberHeader (bytes : List UInt8) : Except ArchiveFault (Option (List UInt8)) :=
  match bytes with
  | [] => .ok none
  | 0x1f :: 0x8b :: 8 :: flags :: _ :: _ :: _ :: _ :: _ :: _ :: rest =>
    (skipOptional (.ofByte flags) rest).map some
  | _ => .error .unreadable

/-- A member that is being read. -/
structure Member where
  inflater : Inflater := {}
  /-- The check value of the data so far. -/
  check : UInt32 := 0
  /-- The length of the data so far. -/
  length : Nat := 0

/-- The bytes behind the trailer of a member, whose facts must be those of its data. -/
def memberTrailer (member : Member) (bytes : List UInt8) : Except ArchiveFault (List UInt8) := do
  let (trailer, rest) ← takeExact 8 bytes
  if ofLittleEndian (trailer.take 4) = member.check.toNat ∧
      ofLittleEndian (trailer.drop 4) = member.length % 0x100000000 then
    return rest.dropWhile (· = 0)
  else throw .unreadable

/-- A compressed file that is being read. -/
structure GzipFile where
  /-- The bytes of the file. -/
  whole : List UInt8
  /-- How many bytes the file has. -/
  size : Nat
  /-- The bytes that were not taken yet. -/
  rest : List UInt8
  /-- The member that is being read; between members there is none. -/
  member : Option Member := none
  /-- How many bytes of data were read. -/
  position : Nat := 0

namespace GzipFile

/-- A file before its first byte. -/
def ofBytes (bytes : List UInt8) : GzipFile :=
  { whole := bytes, size := bytes.length, rest := bytes }

/-- The file and the member to read on, if there is one. A member whose data is read to the end is
left behind. -/
def enterMember (file : GzipFile) : Except ArchiveFault (GzipFile × Option Member) :=
  let enter (rest : List UInt8) : Except ArchiveFault (GzipFile × Option Member) :=
    match memberHeader rest with
    | .error fault => .error fault
    | .ok none => .ok ({ file with rest, member := none }, none)
    | .ok (some rest) => .ok ({ file with rest, member := none }, some {})
  match file.member with
  | none => enter file.rest
  | some member =>
    if member.inflater.isFinished then memberTrailer member file.rest >>= enter
    else .ok ({ file with member := none }, some member)

/-- Reads up to a positive number of bytes of data; no bytes mean the end. Of two rounds
one takes bytes of the file, which bounds the fuel. -/
def readRounds (wanted : Nat) : (fuel : Nat) → GzipFile →
    Except ArchiveFault (List UInt8 × GzipFile)
  | 0, _ => .error .unreadable
  | fuel + 1, file =>
    match file.enterMember with
    | .error fault => .error fault
    | .ok (file, none) => .ok ([], file)
    | .ok (file, some ⟨inflater, check, length⟩) =>
      let window := file.rest.take windowSize
      match inflater.feed window wanted with
      | .error _ => .error .damagedData
      | .ok fed =>
        let rest := fed.unused ++ file.rest.drop windowSize
        let count := fed.piece.length
        let member : Member :=
          ⟨fed.state, Digest.crcUpdate check fed.piece, length + count⟩
        let file := { file with rest, member := some member, position := file.position + count }
        if !fed.piece.isEmpty then .ok (fed.piece, file)
        else if window.isEmpty then .error .unreadable
        else readRounds wanted fuel file

/-- Reads up to a number of bytes of data; no bytes mean the end. -/
def read (file : GzipFile) (wanted : Nat) : Except ArchiveFault (List UInt8 × GzipFile) :=
  if wanted = 0 then .ok ([], file) else file.readRounds wanted (2 * file.size + 2)

/-- Reads and forgets bytes, or as many as there are. -/
def skip : (fuel : Nat) → (count : Nat) → GzipFile → Except ArchiveFault GzipFile
  | 0, _, file => .ok file
  | fuel + 1, count, file =>
    if count = 0 then .ok file
    else
      match file.read (min windowSize count) with
      | .error fault => .error fault
      | .ok ([], file) => .ok file
      | .ok (piece, file) => skip fuel (count - piece.length) file

/-- Goes to a place in the data, or to its end. -/
def seek (file : GzipFile) (target : Int) : Except ArchiveFault GzipFile :=
  let file := if target < file.position then ofBytes file.whole else file
  let count := (target - file.position).toNat
  skip count count file

end GzipFile

end RegistryMend.Archive

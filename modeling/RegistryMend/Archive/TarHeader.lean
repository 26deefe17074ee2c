import RegistryMend.Text.Numeral

/-! # Tar headers

A header is a block with the name, the size and the kind of a member, and a sum of its bytes that
must be right. Numbers are octal numerals, or bytes behind a mark.
-/

namespace RegistryMend.Archive

/-- The size of a block. -/
def blockSize : Nat := 512

/-- The number of bytes in whole blocks for a size. -/
def inBlocks (size : Int) : Int :=
  -(-size).fdiv blockSize * blockSize

/-- The kinds of members. -/
inductive Kind where
  | regular
  | directory
  /-- A link, a device or a pipe; no data follows. -/
  | bare
  | sparse
  /-- The data is the name of the next member. -/
  | longName
  /-- The data is the target of the link that the next member is. -/
  | longLink
  /-- The data describes the next member. -/
  | extended
  /-- The data describes all members that follow. -/
  | global
  | unknown
deriving DecidableEq, Repr

/-- The kind that a byte stands for. -/
def Kind.ofByte (byte : UInt8) : Kind :=
  match Char.ofNat byte.toNat with
  | '0' | '7' => regular
  | '5' => directory
  | '1' | '2' | '3' | '4' | '6' => bare
  | 'S' => sparse
  | 'L' => longName
  | 'K' => longLink
  | 'x' | 'X' => extended
  | 'g' => global
  | c => if c.toNat = 0 then regular else unknown

/-- Whether data follows a member of a kind. -/
def Kind.hasData : Kind → Bool
  | regular | sparse | unknown => true
  | _ => false

/-- Whether a member of a kind counts as a file. -/
def Kind.isFile (kind : Kind) : Bool :=
  kind == regular || kind == sparse

/-- Why a block is no header. -/
inductive HeaderFault where
  /-- There are no bytes at all. -/
  | missing
  | truncated
  /-- The block marks the end of the archive. -/
  | endMark
  | invalid
deriving DecidableEq, Repr

/-- Part of a sparse member: its place among the data that is not zero, and its length. -/
abbrev Extent := Int × Int

/-- What a header says. -/
structure Header where
  name : List UInt8
  size : Int
  kind : Kind
  /-- The extents of a sparse member that stand in its header. -/
  extents : List Extent := []
  /-- Whether more extents follow the header. -/
  isContinued : Bool := false
  /-- The size of a sparse member with all zeros. -/
  fullSize : Int := 0
deriving DecidableEq, Repr

/-- The bytes of a block at a place. -/
def field (place length : Nat) (block : List UInt8) : List UInt8 :=
  (block.drop place).take length

/-- The bytes before the first zero. -/
def beforeZero (bytes : List UInt8) : List UInt8 :=
  bytes.takeWhile (· ≠ 0)

/-- The characters of bytes that are ASCII. -/
def asciiChars? (bytes : List UInt8) : Option (List Char) :=
  if bytes.all (· < 128) then some (bytes.map fun byte => Char.ofNat byte.toNat) else none

/-- The number whose digits to the base 256 are bytes, most significant first. -/
def ofBigEndian (bytes : List UInt8) : Int :=
  bytes.foldl (fun n byte => n * 256 + (byte.toNat : Int)) 0

/-- The number in a field. Behind a first byte of 128 the other bytes are a number, most significant
first, and behind one of 255 a negative number. -/
def numberField? (bytes : List UInt8) : Option Int :=
  match bytes with
  | 0x80 :: rest => some (ofBigEndian rest)
  | 0xff :: rest => some (ofBigEndian rest - (Nat.pow 256 rest.length : Nat))
  | bytes => (asciiChars? (beforeZero bytes)).bind Text.readOctal?

/-- The value of a byte with a sign. -/
def signedByte (byte : UInt8) : Int :=
  if byte.toNat < 128 then byte.toNat else byte.toNat - 256

/-- The sum of a block where the field of the sum counts as blanks. -/
def checkSum (value : UInt8 → Int) (block : List UInt8) : Int :=
  (block.take 148 ++ block.drop 156).foldl (fun sum byte => sum + value byte) 256

/-- Whether the sum in a header is right, with bytes counted with or without a sign. -/
def hasRightSum (block : List UInt8) : Bool :=
  match numberField? (field 148 8 block) with
  | none => false
  | some sum =>
    sum == checkSum (fun byte => (byte.toNat : Int)) block || sum == checkSum signedByte block

/-- The fields of a header that hold numbers: their places and lengths. -/
def numberFields : List (Nat × Nat) :=
  [(100, 8), (108, 8), (116, 8), (124, 12), (136, 12), (329, 8), (337, 8)]

/-- Pairs of number fields of twelve bytes each. -/
def extentFields (block : List UInt8) : (count : Nat) → (place : Nat) → Option (List Extent)
  | 0, _ => some []
  | count + 1, place => do
    let start ← numberField? (field place 12 block)
    let length ← numberField? (field (place + 12) 12 block)
    let rest ← extentFields block count (place + 24)
    return (start, length) :: rest

/-- Removes slashes from the end of a name. -/
def withoutLastSlashes (name : List UInt8) : List UInt8 :=
  (name.reverse.dropWhile (· = 47)).reverse

/-- The kind in a header. A file whose name ends with a slash is a directory if the kind is not
given. -/
def headerKind (byte : UInt8) (name : List UInt8) : Kind :=
  if byte = 0 ∧ name.getLast? = some 47 then .directory else .ofByte byte

/-- The name in a header, behind its first part if there is one. -/
def headerName (kind : Kind) (first name : List UInt8) : List UInt8 :=
  let name := if kind = .directory then withoutLastSlashes name else name
  if first.isEmpty || kind == .longName || kind == .longLink || kind == .sparse then name
  else first ++ 47 :: name

/-- Reads a block that is no end mark. -/
def readFields? (block : List UInt8) : Option Header := do
  if !hasRightSum block then none
  else
    let _ ← numberFields.mapM fun (place, length) => numberField? (field place length block)
    let size ← numberField? (field 124 12 block)
    let name := beforeZero (field 0 100 block)
    let byte := (block[156]?).getD 0
    let kind := headerKind byte name
    let named : Header :=
      { name := headerName kind (beforeZero (field 345 155 block)) name, size, kind }
    if kind = .sparse then
      let extents ← extentFields block 4 386
      let fullSize ← numberField? (field 483 12 block)
      return { named with extents, isContinued := (block[482]?).getD 0 ≠ 0, fullSize }
    else return named

/-- Reads a block as a header. -/
def Header.ofBlock (block : List UInt8) : Except HeaderFault Header :=
  if block.isEmpty then .error .missing
  else if block.length ≠ blockSize then .error .truncated
  else if block.all (· = 0) then .error .endMark
  else
    match readFields? block with
    | some header => .ok header
    | none => .error .invalid

example : inBlocks 834 = 1024 ∧ inBlocks 0 = 0 ∧ inBlocks (-1) = 0 := by decide

end RegistryMend.Archive

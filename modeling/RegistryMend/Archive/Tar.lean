import RegistryMend.Archive.Pax
import RegistryMend.Archive.Window
import RegistryMend.CallDepth

/-! # Tar archives

An archive is read member by member. The first header must be sound; a later one that is not ends
the archive. A header may stand for several: the name of a member, or facts about it, can come
before the header of the member itself.
-/

namespace RegistryMend.Archive

/-- An archive that is being read. -/
structure Tar where
  window : Window
  /-- Where the next header starts. -/
  next : Int := 0
  /-- The facts that hold for all members that follow. -/
  facts : Records := []

/-- Reading that may fail for the whole archive. -/
abbrev Walk (α : Type) := StateT Tar (Except ArchiveFault) α

namespace Walk

/-- Reads through the window of an archive. -/
def ofReader {α : Type} (reader : Reader α) : Walk α := fun ⟨window, next, facts⟩ =>
  match reader window with
  | .ok (value, window) => .ok (value, ⟨window, next, facts⟩)
  | .error fault => .error fault

/-- The places in an archive, and the numbers of bytes, lie below this bound. A place reckoned from
extents may come out negative, and then lies no further than this below zero. -/
def placeBound : Int := 0x8000000000000000

/-- There is memory for fewer bytes than this. -/
def memoryBound : Int := 0x1000000000

/-- Reads bytes; their number cannot be negative, and there must be memory for them. -/
def read (count : Int) : Walk (List UInt8) :=
  if count < 0 then throw .badNumber
  else if placeBound ≤ count then throw .tooLarge
  else if memoryBound ≤ count then throw .outOfMemory
  else ofReader (Window.read count.toNat)

/-- The place in the archive. -/
def tell : Walk Int := ofReader Window.tell

/-- Goes to a place in the archive. -/
def seek (place : Int) : Walk Unit :=
  if place < -placeBound || placeBound ≤ place then throw .badNumber
  else ofReader (Window.seek place)

/-- Sets where the next header starts. -/
def setNext (next : Int) : Walk Unit :=
  modify fun archive => { archive with next }

end Walk

/-- The bytes that data takes in the archive. -/
def dataSpace (kind : Kind) (size : Int) : Int :=
  if kind.hasData then inBlocks size else 0

/-- The number in the first line of bytes, and the bytes behind the line. -/
def numberLine (bytes : List UInt8) : Except ArchiveFault (Int × List UInt8) :=
  let line := bytes.takeWhile (· ≠ newline)
  if line.length = bytes.length then .error .badNumber
  else
    (requireNumber ((asciiChars? line).bind Text.readInteger?)).map fun number =>
      (number, bytes.drop (line.length + 1))

/-- Reads numbers, one in a line. Where a line is not at hand as a whole, one more block may hold the
rest of it. -/
def readNumberLines : (count : Nat) → List UInt8 → Walk (List Int)
  | 0, _ => return []
  | count + 1, bytes => do
    let more ← if bytes.contains newline then pure [] else Walk.read blockSize
    let (first, rest) ← (numberLine (bytes ++ more) : Except ArchiveFault (Int × List UInt8))
    return first :: (← readNumberLines count rest)

/-- The extents of a sparse member that stand before its data. Their number stands in the first
block. -/
def readExtents (entry : Entry) : Walk Entry := do
  let block ← Walk.read blockSize
  let (count, rest) ← (numberLine block : Except ArchiveFault (Int × List UInt8))
  let numbers ← readNumberLines (2 * count).toNat rest
  return { entry with data := ← Walk.tell, extents := some (pairs numbers) }

/-- The numbers under a key among records. -/
def numbersUnder? (key : String) (records : Records) : Option (List Int) :=
  (records.filter fun entry => entry.1 = asciiBytes key).mapM fun entry => integerOfBytes? entry.2

/-- Numbers with commas between them. -/
def commaNumbers (bytes : List UInt8) : Except ArchiveFault (List Int) :=
  (bytes.splitOn 44).mapM requireInteger

/-- Gives a member the extents that its facts tell, of three forms. `own` are the records of its
own header alone. -/
def applySparse (own facts : Records) (entry : Entry) : Walk (Except HeaderFault Entry) := do
  match recordValue? "GNU.sparse.map" facts with
  | some list =>
    let numbers ← (commaNumbers list : Except ArchiveFault (List Int))
    return .ok { entry with extents := some (pairs numbers) }
  | none =>
    if (recordValue? "GNU.sparse.size" facts).isSome then
      match numbersUnder? "GNU.sparse.offset" own, numbersUnder? "GNU.sparse.numbytes" own with
      | some starts, some lengths => return .ok { entry with extents := some (starts.zip lengths) }
      | _, _ => return .error .invalid
    else if recordValue? "GNU.sparse.major" facts = some (asciiBytes "1") ∧
        recordValue? "GNU.sparse.minor" facts = some (asciiBytes "0") then
      return .ok (← readExtents entry)
    else return .ok entry

/-- The extents of a sparse member in the blocks behind its header. -/
def continuedExtents : (fuel : Nat) → Walk (Except HeaderFault (List Extent))
  | 0 => return .error .invalid
  | fuel + 1 => do
    let block ← Walk.read blockSize
    match extentFields block 21 0, block[504]? with
    | none, _ => return .error .invalid
    | some _, none => throw .shortBlock
    | some extents, some mark =>
      let kept := extents.filter fun (start, length) => start ≠ 0 && length ≠ 0
      if mark = 0 then return .ok kept
      else
        match ← continuedExtents fuel with
        | .error fault => return .error fault
        | .ok later => return .ok (kept ++ later)

/-- The member of a header that stands for itself. -/
def plainEntry (header : Header) : Walk Entry := do
  let data ← Walk.tell
  Walk.setNext (data + dataSpace header.kind header.size)
  let entry : Entry := { name := header.name, size := header.size, kind := header.kind, data }
  let entry ← (entry.applyRecords (← get).facts : Except ArchiveFault Entry)
  return if entry.kind = .directory then { entry with name := withoutLastSlashes entry.name }
    else entry

/-- The member of a header of a sparse member. -/
def sparseEntry (fuel : Nat) (header : Header) : Walk (Except HeaderFault Entry) := do
  let continued ← if header.isContinued then continuedExtents fuel else pure (.ok [])
  match continued with
  | .error fault => return .error fault
  | .ok continued =>
    let data ← Walk.tell
    Walk.setNext (data + inBlocks header.size)
    return .ok ⟨header.name, header.fullSize, header.kind, data, some (header.extents ++ continued)⟩

/-- A name without the slash at its end. -/
def withoutLastSlash (name : List UInt8) : List UInt8 :=
  if name.getLast? = some 47 then name.dropLast else name

/-- The header that must follow another one. -/
def following (result : Except HeaderFault Entry) : Walk Entry :=
  match result with
  | .ok entry => return entry
  | .error _ => throw .unreadable

/-- The most headers that a member may have, its own header included: every header takes three of the
calls that are left. -/
def mostHeaders : Nat := callsLeft / 3

/-- Reads the headers up to that of a member itself, where `left` more may come. -/
def readEntry (bound : Nat) : (left : Nat) → Walk (Except HeaderFault Entry)
  | 0 => throw .tooManyHeaders
  | left + 1 => do
    match Header.ofBlock (← Walk.read blockSize) with
    | .error fault => return .error fault
    | .ok header =>
      match header.kind with
      | .longName | .longLink => do
        let text ← Walk.read (inBlocks header.size)
        let entry ← following (← readEntry bound left)
        let name := if header.kind = .longName then beforeZero text else entry.name
        let name := if entry.kind = .directory then withoutLastSlash name else name
        return .ok { entry with name }
      | .extended | .global => do
        match recordsIn? (← Walk.read (inBlocks header.size)) with
        | none => return .error .invalid
        | some own =>
          let facts := addRecords (← get).facts own
          if header.kind = .global then modify fun archive => { archive with facts }
          let entry ← following (← readEntry bound left)
          let known := (← get).facts
          let facts := if header.kind = .global then known else facts
          match ← applySparse own facts entry with
          | .error fault => return .error fault
          | .ok entry =>
            if header.kind = .global then return .ok entry
            else
              let entry ← (entry.applyRecords facts : Except ArchiveFault Entry)
              if (recordValue? "size" facts).isSome then
                Walk.setNext (entry.data + dataSpace entry.kind entry.size)
              return .ok entry
      | .sparse => sparseEntry bound header
      | _ => return .ok (← plainEntry header)

namespace Tar

/-- An archive before its first header. -/
def ofBytes (bytes : List UInt8) : Tar :=
  { window := .ofBytes bytes }

/-- A bound on the number of headers: no byte of a compressed file gives as much as three blocks. -/
def headerBound (archive : Tar) : Nat :=
  3 * archive.window.file.size + 2

/-- Reads the headers of a member. Damaged data makes the archive unreadable here. -/
def entryAtHeader (bound : Nat) : Walk (Except HeaderFault Entry) := fun archive =>
  match readEntry bound mostHeaders archive with
  | .error .damagedData => .error .unreadable
  | result => result

/-- Goes to the next header; the data before it must be there. Nothing is to be read at the place
where the archive starts, unless reading is there. -/
def goToNext : Walk Bool := do
  let next := (← get).next
  if next = (← Walk.tell) then return true
  else if next = 0 then return false
  else
    Walk.seek (next - 1)
    if (← Walk.read 1).isEmpty then throw .unreadable else return true

/-- The next member, if there is one. -/
def nextEntry (bound : Nat) : Walk (Option Entry) := do
  if ← goToNext then
    match ← entryAtHeader bound with
    | .ok entry => return some entry
    | .error .endMark => return none
    | .error _ => if (← get).next = 0 then throw .unreadable else return none
  else return none

/-- The first member with a property. -/
def find (wanted : Entry → Bool) (bound : Nat) : (fuel : Nat) → Walk (Option Entry)
  | 0 => return none
  | fuel + 1 => do
    match ← nextEntry bound with
    | none => return none
    | some entry => if wanted entry then return some entry else find wanted bound fuel

/-- A part of the data of a member. -/
structure Part where
  start : Int
  stop : Int
  /-- Where the part starts in the archive; without a place it is zeros. -/
  place : Option Int

/-- The parts of the data of a member: its extents, and zeros before, between and behind them. -/
def partsFrom (size : Int) : (last place : Int) → List Extent → List Part
  | last, _, [] => if last < size then [⟨last, size, none⟩] else []
  | last, place, (start, length) :: rest =>
    (if last < start then [⟨last, start, none⟩] else []) ++
      ⟨start, start + length, some place⟩ :: partsFrom size (start + length) (place + length) rest

/-- The parts of the data of a member. -/
def partsOf (entry : Entry) : List Part :=
  partsFrom entry.size 0 entry.data (entry.extents.getD [(0, entry.size)])

/-- Whether a part holds a position. -/
def Part.holds (part : Part) (position : Int) : Bool :=
  part.start ≤ position && position < part.stop

/-- Reads data from a position on. Of several parts with the position the first counts that comes
behind the part before, or else the first of all. -/
def readParts : (fuel : Nat) → List Part → (position left : Int) → Walk (List UInt8)
  | 0, _, _, _ => return []
  | fuel + 1, parts, position, left => do
    if left ≤ 0 then return []
    else
      let (passed, coming) := parts.span fun part => !part.holds position
      match coming with
      | [] => throw .unreadable
      | part :: _ =>
        let length := min left (part.stop - position)
        let bytes ←
          match part.place with
          | none => pure (List.replicate length.toNat 0)
          | some place => do
            Walk.seek (place + (position - part.start))
            let bytes ← Walk.read length
            if bytes.length = length then pure bytes else throw .unreadable
        return bytes ++ (← readParts fuel (coming ++ passed) (position + length) (left - length))

/-- Reads the data of a member. -/
def readData (entry : Entry) : Walk (List UInt8) :=
  let parts := partsOf entry
  readParts (parts.length + 1) parts 0 entry.size

end Tar

end RegistryMend.Archive

import RegistryMend.Archive.Gzip

/-! # Reading through a window

Data is read through a window of bytes that were read ahead. Large reads go past it by whole
windows, and a seek to a place in the window does not touch the file.
-/

namespace RegistryMend.Archive

/-- A compressed file with bytes that were read ahead. -/
structure Window where
  file : GzipFile
  /-- The bytes of the window; the last of them is the last that was read from the file. -/
  bytes : List UInt8 := []
  /-- How many bytes of the window were passed. -/
  passed : Nat := 0

/-- Reading that changes the window and may fail. -/
abbrev Reader (α : Type) := StateT Window (Except ArchiveFault) α

namespace Window

/-- A file before its first byte. -/
def ofBytes (bytes : List UInt8) : Window :=
  { file := .ofBytes bytes }

/-- How many bytes of the window are left. -/
def ahead (window : Window) : Nat :=
  window.bytes.length - window.passed

/-- The place in the data. -/
def position (window : Window) : Int :=
  window.file.position - window.ahead

/-- Reads whole windows past the window, for all but the last part of what is wanted. -/
def readBlocks : (fuel : Nat) → (wanted : Nat) → GzipFile →
    Except ArchiveFault (List UInt8 × Bool × GzipFile)
  | 0, _, file => .ok ([], false, file)
  | fuel + 1, wanted, file =>
    let size := wanted - wanted % windowSize
    if size = 0 then .ok ([], false, file)
    else
      match file.read size with
      | .error fault => .error fault
      | .ok ([], file) => .ok ([], true, file)
      | .ok (piece, file) =>
        match readBlocks fuel (wanted - piece.length) file with
        | .error fault => .error fault
        | .ok (later, atEnd, file) => .ok (piece ++ later, atEnd, file)

/-- Fills the window until it holds what is wanted, is full, or the data ends. -/
def fill : (fuel : Nat) → (wanted : Nat) → List UInt8 → GzipFile →
    Except ArchiveFault (List UInt8 × GzipFile)
  | 0, _, bytes, file => .ok (bytes, file)
  | fuel + 1, wanted, bytes, file =>
    if wanted ≤ bytes.length ∨ windowSize ≤ bytes.length then .ok (bytes, file)
    else
      match file.read (windowSize - bytes.length) with
      | .error fault => .error fault
      | .ok ([], file) => .ok (bytes, file)
      | .ok (piece, file) => fill fuel wanted (bytes ++ piece) file

/-- Reads a number of bytes, or as many as there are. -/
def read (count : Nat) : Reader (List UInt8) := fun window =>
  let ready := window.bytes.drop window.passed
  if count ≤ ready.length then
    .ok (ready.take count, { window with passed := window.passed + count })
  else
    match readBlocks count (count - ready.length) window.file with
    | .error fault => .error fault
    | .ok (blocks, true, file) => .ok (ready ++ blocks, { file })
    | .ok (blocks, false, file) =>
      let wanted := count - ready.length - blocks.length
      match fill windowSize wanted [] file with
      | .error fault => .error fault
      | .ok (bytes, file) =>
        .ok (ready ++ blocks ++ bytes.take wanted,
          { file, bytes, passed := min wanted bytes.length })

/-- Goes to a place in the data, or to its end. -/
def seek (target : Int) : Reader Unit := fun window =>
  let start : Int := window.file.position - window.bytes.length
  if window.ahead ≠ 0 ∧ start ≤ target ∧ target ≤ window.file.position then
    .ok ((), { window with passed := (target - start).toNat })
  else
    match window.file.seek target with
    | .error fault => .error fault
    | .ok file => .ok ((), { file })

/-- The place in the data. -/
def tell : Reader Int :=
  return (← get).position

end Window

end RegistryMend.Archive

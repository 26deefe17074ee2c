import RegistryMend.Text.Wide

/-! # Rotating files

A log file is set aside before a line is written that would fill it. The files set aside are
numbered from the youngest, and no more than a given number of them is kept. If none is kept, the
file grows on. A line goes into the file in UTF-8; one that has no such form is left out.
-/

namespace RegistryMend.Journal

/-- How large a file may grow and how many files are set aside. -/
structure Rotation where
  maxBytes : Nat
  backups : Nat
deriving DecidableEq, Repr

/-- A log file and those set aside, youngest first. -/
structure RotatingFile where
  current : String := ""
  older : List String := []
deriving DecidableEq, Repr

namespace RotatingFile

/-- Whether a line, with the character that ends it, would fill the file. The file is measured in
bytes and the line in characters. -/
def isFilledBy (rotation : Rotation) (file : RotatingFile) (line : WideText) : Bool :=
  rotation.maxBytes ≤ file.current.utf8ByteSize + line.codes.length + 1

/-- Sets the file aside. Files beyond the number that is kept stay as they are. -/
def rotate (rotation : Rotation) (file : RotatingFile) : RotatingFile :=
  if rotation.backups = 0 then file
  else
    let kept := file.older.take (rotation.backups - 1)
    ⟨"", file.current :: kept ++ file.older.drop rotation.backups⟩

/-- Writes a line. -/
def write (rotation : Rotation) (file : RotatingFile) (line : WideText) : RotatingFile :=
  let file := if file.isFilledBy rotation line then file.rotate rotation else file
  match line.plain? with
  | some text => { file with current := file.current ++ text ++ "\n" }
  | none => file

end RotatingFile

end RegistryMend.Journal

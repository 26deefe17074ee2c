import RegistryMend.Assoc
import RegistryMend.Text.Blank
import RegistryMend.Text.Lines
import RegistryMend.Text.Split

/-! # Settings text

A settings text assigns values to keys, one in a line, as in `KEY = value`. A line may start with
`export`, and a value may stand in quotation marks, within which it may stand in apostrophes.
Blank lines, comment lines, which start with a number sign, and lines without an equals sign say
nothing. The last assignment of a key counts.
-/

namespace RegistryMend.Settings

/-- Values by key. -/
abbrev Assignments := List (String × String)

/-- A value without blanks, then without quotation marks, then without apostrophes around it. -/
def bareValue (cs : List Char) : List Char :=
  Text.trimBy (· = '\'') (Text.trimBy (· = '"') (Text.trimBlanks cs))

/-- A line without the word that marks an exported assignment. -/
def withoutExport (line : List Char) : List Char :=
  if "export ".toList.isPrefixOf line then Text.trimBlanks (line.drop 7) else line

/-- The key and the value that a line assigns, if it assigns one. -/
def readLine (line : List Char) : Option (String × String) :=
  match Text.trimBlanks line with
  | [] => none
  | '#' :: _ => none
  | line =>
    (Text.splitFirst? '=' (withoutExport line)).map fun (key, value) =>
      (String.ofList (Text.trimBlanks key), String.ofList (bareValue value))

/-- Adds the assignment of a line. -/
def assignLine (assignments : Assignments) (line : List Char) : Assignments :=
  match readLine line with
  | some (key, value) => Assoc.insert key value assignments
  | none => assignments

/-- The assignments of lines. -/
def ofLines (lines : List (List Char)) : Assignments :=
  lines.foldl assignLine []

/-- The assignments of a text. -/
def parse (text : List Char) : Assignments :=
  ofLines (Text.lines (Text.unifyLineEnds text))

end RegistryMend.Settings

/-! # Paths

A path is a list of names behind up to two slashes. Empty names and single dots vanish when a path
is read; double dots stay until the path is resolved.
-/

namespace RegistryMend.Storage

/-- How a path starts. Exactly two slashes are kept apart from one. -/
inductive PathStart where
  | relative
  | slash
  | doubleSlash
deriving DecidableEq, Repr

/-- The text of the start of a path. -/
def PathStart.text : PathStart → String
  | relative => ""
  | slash => "/"
  | doubleSlash => "//"

/-- A path of names separated by slashes. -/
structure Path where
  start : PathStart
  names : List String
deriving DecidableEq, Repr

namespace Path

/-- The names in a text between slashes, without empty ones and single dots. -/
def namesIn (cs : List Char) : List String :=
  ((cs.splitOn '/').map String.ofList).filter fun name => name ≠ "" && name ≠ "."

/-- Reads a path. -/
def parse (text : String) : Path :=
  let cs := text.toList
  let start : PathStart :=
    match (cs.takeWhile (· = '/')).length with
    | 0 => .relative
    | 2 => .doubleSlash
    | _ => .slash
  ⟨start, namesIn cs⟩

/-- The text of a path; the path without names is a dot. -/
def text (path : Path) : String :=
  match path.start, path.names with
  | .relative, [] => "."
  | start, names => start.text ++ "/".intercalate names

/-- A path below another one. -/
def child (path : Path) (text : String) : Path :=
  { path with names := path.names ++ namesIn text.toList }

/-- Where a name leads from a place. Double dots take the last name away, if there is one. -/
def step (place : List String) (name : String) : List String :=
  if name ≠ ".." || place.all (· = "..") then place ++ [name] else place.dropLast

/-- The names of a path with double dots resolved. -/
def resolve (names : List String) : List String :=
  names.foldl step []

end Path

example : (Path.parse "//a/./b//../c").text = "//a/b/../c" := by decide +kernel
example : Path.resolve ["blobs", "..", "..x"] = ["..x"] := by decide

end RegistryMend.Storage

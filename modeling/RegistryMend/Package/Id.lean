import RegistryMend.Text.Quoted
import RegistryMend.Text.Split

/-! # Package ids

A package is named on its own or within a scope, as in `@scope/name`. Neither part is empty or
starts with a dot or an underscore; the type keeps this.
-/

namespace RegistryMend.Package

/-- Whether a text may be a scope or a name. -/
def isPart (s : WideText) : Bool :=
  match s.codes with
  | [] => false
  | code :: _ => code ≠ '.' && code ≠ '_'

/-- The id of a package. -/
structure Id where
  scope : Option WideText
  name : WideText
  scope_isPart : scope.all isPart = true
  name_isPart : isPart name = true
deriving DecidableEq

/-- The two parts of an id. -/
inductive Part where
  | scope
  | name
deriving DecidableEq, Repr

/-- How a part is called in messages. -/
def Part.title : Part → String
  | scope => "Scope"
  | name => "Name"

/-- A text that may not be the part of an id that it was meant to be. -/
structure IdProblem where
  part : Part
  text : WideText
deriving DecidableEq, Repr

/-- What is wrong with the part. -/
def IdProblem.message (problem : IdProblem) : String :=
  if problem.text = "" then problem.part.title ++ " cannot be empty string"
  else problem.part.title ++ " starts with '.' or '_': " ++ Text.quoted problem.text

namespace Id

/-- The id with the given parts. The scope is checked first. -/
def make (scope : Option WideText) (name : WideText) : Except IdProblem Id :=
  if scopeFits : scope.all isPart = true then
    if nameFits : isPart name = true then .ok ⟨scope, name, scopeFits, nameFits⟩
    else .error ⟨.name, name⟩
  else .error ⟨.scope, scope.getD ""⟩

/-- Reads an id without the blanks around it. A text that starts with `@` is cut at its first
slash; all else is a name. -/
def parse (raw : WideText) : Except IdProblem Id :=
  let text := raw.trim
  match text.codes with
  | .char '@' :: marked =>
    match Text.splitFirst? (.char '/') marked with
    | some (scope, name) => make (some (.ofCodes scope)) (.ofCodes name)
    | none => make none text
  | _ => make none text

/-- The text of an id. -/
def text (id : Id) : WideText :=
  match id.scope with
  | none => id.name
  | some scope => "@" ++ scope ++ "/" ++ id.name

/-- The file name of the tarball of a version. -/
def tarballName (id : Id) (version : WideText) : WideText :=
  id.name ++ "-" ++ version ++ ".tgz"

/-- Where a repository serves the tarball of a version. -/
def tarballPath (id : Id) (version : WideText) : WideText :=
  id.text ++ "/-/" ++ id.tarballName version

end Id

end RegistryMend.Package

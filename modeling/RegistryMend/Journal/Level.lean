import RegistryMend.Text.Casing

/-! # Levels

Every record has a level. Levels are ordered by their ranks, and are found by their names without
regard to case.
-/

namespace RegistryMend.Journal

/-- How important a record is. -/
inductive Level where
  | debug
  | info
  | warning
  | error
  | critical
deriving DecidableEq, Repr

namespace Level

/-- The rank of a level. -/
def rank : Level → Nat
  | debug => 10
  | info => 20
  | warning => 30
  | error => 40
  | critical => 50

/-- The name of a level. -/
def name : Level → String
  | debug => "DEBUG"
  | info => "INFO"
  | warning => "WARNING"
  | error => "ERROR"
  | critical => "CRITICAL"

end Level

/-- The ranks by name. There are two names for some of them, and one for no rank at all. -/
def namedRanks : List (String × Nat) := [
  ("CRITICAL", 50), ("FATAL", 50), ("ERROR", 40), ("WARN", 30), ("WARNING", 30), ("INFO", 20),
  ("DEBUG", 10), ("NOTSET", 0)]

/-- The characters beyond ASCII whose upper-case form is ASCII. -/
def asciiUpperForms : List (Char × List Char) := [
  ('ß', ['S', 'S']), ('ı', ['I']), ('ſ', ['S']), ('ﬀ', ['F', 'F']), ('ﬁ', ['F', 'I']),
  ('ﬂ', ['F', 'L']), ('ﬃ', ['F', 'F', 'I']), ('ﬄ', ['F', 'F', 'L']), ('ﬅ', ['S', 'T']),
  ('ﬆ', ['S', 'T'])]

/-- The upper-case form of a character, if it is ASCII; other characters are kept. -/
def upperForm (c : Char) : List Char :=
  (asciiUpperForms.lookup c).getD [c.toUpper]

/-- The rank that a name stands for. No name and unknown names stand for plain information. -/
def rankNamed (name : String) : Nat :=
  (namedRanks.lookup (String.ofList (name.toList.flatMap upperForm))).getD Level.info.rank

end RegistryMend.Journal

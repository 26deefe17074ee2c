import RegistryMend.Decimal.Integer
import RegistryMend.Text.Blank
import RegistryMend.Text.Casing
import RegistryMend.Text.Numeral

/-! # Cron expressions

A cron expression has five fields: minute, hour, day, month and day of the week. A field is a list
of pieces with commas between them. A piece stands for every value, a range of values or a named
range; every value and a range may have a step. The day may also be the last one of the month.
-/

namespace RegistryMend.Schedule

/-- The values of a field of cron expressions. -/
structure Range where
  low : Nat
  high : Nat
  /-- The names of the values, from the lowest one on; there may be none. -/
  names : List String := []
  /-- Whether a piece may stand for the last value of all. -/
  hasLast : Bool := false
deriving DecidableEq, Repr

/-- The five fields of a cron expression. -/
inductive Field where
  | minute
  | hour
  | day
  | month
  | dayOfWeek
deriving DecidableEq, Repr

namespace Field

/-- The fields in the order of an expression. -/
def all : List Field := [minute, hour, day, month, dayOfWeek]

/-- The values of a field. -/
def range : Field → Range
  | minute => { low := 0, high := 59 }
  | hour => { low := 0, high := 23 }
  | day => { low := 1, high := 31, hasLast := true }
  | month => {
      low := 1
      high := 12
      names :=
        ["jan", "feb", "mar", "apr", "may", "jun", "jul", "aug", "sep", "oct", "nov", "dec"] }
  | dayOfWeek => { low := 0, high := 6, names := ["mon", "tue", "wed", "thu", "fri", "sat", "sun"] }

/-- The name of a field. -/
def name : Field → String
  | minute => "minute"
  | hour => "hour"
  | day => "day"
  | month => "month"
  | dayOfWeek => "day_of_week"

end Field

/-- A piece of a field. -/
inductive Piece where
  | every (step : Option Nat)
  | values (first : Nat) (last step : Option Nat)
  /-- Names by their places. -/
  | named (first last : Nat)
  | lastOfAll
deriving DecidableEq, Repr

/-- The text of a step. -/
def stepText : Option Nat → String
  | none => ""
  | some step => "/" ++ Decimal.naturalText step

/-- The text of a range of texts; one that ends where it starts is a single text. -/
def rangeText (first : String) : Option String → String
  | none => first
  | some last => if last = first then first else first ++ "-" ++ last

/-- The plain text of a piece. -/
def Piece.text (range : Range) : Piece → String
  | every step => "*" ++ stepText step
  | values first last step =>
    rangeText (Decimal.naturalText first) (last.map Decimal.naturalText) ++ stepText step
  | named first last =>
    rangeText ((range.names[first]?).getD "") (some ((range.names[last]?).getD ""))
  | lastOfAll => "last"

/-- Whether a step is positive and no longer than what is stepped through. -/
def stepFits (step : Option Nat) (width : Int) : Bool :=
  step.all fun n => n ≠ 0 && (n : Int) ≤ width

/-- Whether a piece stays within the values of a field. An upper bound of zero does not count when
the step is checked. -/
def Piece.fits (range : Range) : Piece → Bool
  | every step => stepFits step (range.high - range.low)
  | values first last step =>
    let top := (last.filter (· ≠ 0)).getD range.high
    last.all (fun n => first ≤ n && n ≤ range.high) && range.low ≤ first &&
      stepFits step (top - first)
  | named first last => first ≤ last
  | lastOfAll => true

/-- Splits a number off a text. -/
def readCount? (cs : List Char) : Option (Nat × List Char) :=
  let digits := cs.takeWhile fun c => (Text.decimalValue? c).isSome
  if digits.isEmpty || Text.maximalDigits < digits.length then none
  else some (Text.natOfDigits (Text.asciiDigits digits), cs.drop digits.length)

/-- The number behind a mark, if the mark is there: nothing at all if what is behind it is no
number. -/
def readMarked? (mark : Char) : List Char → Option (Option Nat × List Char)
  | c :: rest =>
    if c = mark then (readCount? rest).map fun (n, rest) => (some n, rest)
    else some (none, c :: rest)
  | [] => some (none, [])

/-- Reads a piece that stands for every value. -/
def readEvery? : List Char → Option Piece
  | '*' :: rest =>
    match readMarked? '/' rest with
    | some (step, []) => some (.every step)
    | _ => none
  | _ => none

/-- Reads a piece that gives values by number. A single number is a range of one value. -/
def readValues? (cs : List Char) : Option Piece := do
  let (first, rest) ← readCount? cs
  let (last, rest) ← readMarked? '-' rest
  let (step, rest) ← readMarked? '/' rest
  if rest.isEmpty then
    return .values first (if last.isNone && step.isNone then some first else last) step
  else none

/-- Whether a character counts as a letter in a name. The letters beyond ASCII are those that match
one of ASCII without regard to case. -/
def isNameLetter (c : Char) : Bool :=
  c.isAlpha || c == 'İ' || c == 'ı' || c == 'ſ' || c == '\u212a'

/-- The place of a name among names, without regard to case. -/
def placeOf? (names : List String) (name : List Char) : Option Nat :=
  names.findIdx? fun n => n == Text.lowerCase (String.ofList name)

/-- Reads a piece that gives values by name. What stands behind the names does not matter. -/
def readNamed? (names : List String) (cs : List Char) : Option Piece := do
  let first ← placeOf? names (cs.takeWhile isNameLetter)
  match cs.dropWhile isNameLetter with
  | '-' :: rest =>
    let name := rest.takeWhile isNameLetter
    if name.isEmpty then return .named first first
    else return .named first (← placeOf? names name)
  | _ => return .named first first

/-- Whether a text starts with the word for the last value, without regard to case. -/
def startsWithLast (cs : List Char) : Bool :=
  match cs with
  | l :: a :: s :: t :: _ =>
    l.toLower = 'l' && a.toLower = 'a' && (s.toLower = 's' || s = 'ſ') && t.toLower = 't'
  | _ => false

/-- Reads a piece of a field. -/
def Piece.read? (range : Range) (cs : List Char) : Option Piece :=
  let piece :=
    (readEvery? cs).or ((readValues? cs).or
      (if range.hasLast && startsWithLast cs then some .lastOfAll else readNamed? range.names cs))
  piece.filter (Piece.fits range)

/-- A cron expression: the pieces of each field. -/
structure Cron where
  minute : List Piece
  hour : List Piece
  day : List Piece
  month : List Piece
  dayOfWeek : List Piece
deriving DecidableEq, Repr

/-- Why a text is no cron expression. -/
inductive CronProblem where
  | fieldCount
  | badField (field : Field)
deriving DecidableEq, Repr

/-- What is wrong with an expression. -/
def CronProblem.message (describe : Field → String) : CronProblem → String
  | fieldCount => "Cron expression must have 5 fields"
  | badField field => describe field

/-- Reads the pieces of a field. -/
def readField (field : Field) (cs : List Char) : Except CronProblem (List Piece) :=
  match (cs.splitOn ',').mapM (Piece.read? field.range) with
  | some pieces => .ok pieces
  | none => .error (.badField field)

namespace Cron

/-- Reads a cron expression; blanks stand between its fields. The fields are not read in the order in
which they stand. -/
def parse (expression : String) : Except CronProblem Cron :=
  match Text.words expression.toList with
  | [minute, hour, day, month, dayOfWeek] => do
    let month ← readField .month month
    let day ← readField .day day
    let dayOfWeek ← readField .dayOfWeek dayOfWeek
    let hour ← readField .hour hour
    let minute ← readField .minute minute
    return { minute, hour, day, month, dayOfWeek }
  | _ => .error .fieldCount

/-- The pieces of a field. -/
def pieces (cron : Cron) : Field → List Piece
  | .minute => cron.minute
  | .hour => cron.hour
  | .day => cron.day
  | .month => cron.month
  | .dayOfWeek => cron.dayOfWeek

/-- The plain text of a field. -/
def fieldText (cron : Cron) (field : Field) : String :=
  ",".intercalate ((cron.pieces field).map (Piece.text field.range))

end Cron

end RegistryMend.Schedule

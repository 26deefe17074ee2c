import RegistryMend.Sql.Statement
import RegistryMend.Sql.Token
import RegistryMend.Text.Digit

/-! # Scanning tokens

A scanner takes what it reads off the front of a list of tokens. It fails where the tokens break the
grammar.
-/

namespace RegistryMend.Sql

/-- The words that cannot be names. -/
def reservedWords : List String := [
  "add", "all", "alter", "and", "as", "autoincrement", "between", "case", "check", "collate",
  "commit", "constraint", "create", "default", "deferrable", "delete", "distinct", "drop", "else",
  "escape", "except", "exists", "foreign", "from", "group", "having", "in", "index", "insert",
  "intersect", "into", "is", "isnull", "join", "limit", "not", "nothing", "notnull", "null", "on",
  "or", "order", "primary", "references", "returning", "select", "set", "table", "then", "to",
  "transaction", "union", "unique", "update", "using", "values", "when", "where"]

/-- The name that a token can stand for. -/
def Token.name? : Token → Option String
  | .word text => if reservedWords.contains text then none else some text
  | .quoted text | .name text | .string text => some text.toLower
  | _ => none

/-- Reading from the front of a list of tokens. -/
abbrev Scan (α : Type) := StateT (List Token) Option α

namespace Scan

/-- Whether no tokens are left. -/
def atEnd : Scan Bool := do
  return (← get).isEmpty

/-- Fails if tokens are left. -/
def finish : Scan Unit := do
  if ← atEnd then pure () else failure

/-- Takes the next token. -/
def next : Scan Token := do
  match ← get with
  | token :: rest =>
    set rest
    return token
  | [] => failure

/-- All tokens that are left. -/
def remaining : Scan (List Token) := do
  let tokens ← get
  set ([] : List Token)
  return tokens

/-- Takes tokens if they are the next ones. -/
def acceptTokens (expected : List Token) : Scan Bool := do
  let tokens ← get
  if expected.isPrefixOf tokens then
    set (tokens.drop expected.length)
    return true
  else return false

/-- Takes keywords if they are next. -/
def accept (words : List String) : Scan Bool :=
  acceptTokens (words.map .word)

/-- Takes one of several keywords if it is next. -/
def acceptAny (words : List String) : Scan Bool := do
  match ← get with
  | .word word :: rest =>
    if words.contains word then
      set rest
      return true
    else return false
  | _ => return false

/-- Takes a symbol if it is next. -/
def acceptSymbol (symbol : String) : Scan Bool :=
  acceptTokens [.symbol symbol]

/-- Takes keywords that must be next. -/
def expect (words : List String) : Scan Unit := do
  if ← accept words then pure () else failure

/-- Takes one of several keywords, which must be next. -/
def expectAny (words : List String) : Scan Unit := do
  if ← acceptAny words then pure () else failure

/-- Takes a name. -/
def name : Scan String := do
  match (← next).name? with
  | some name => return name
  | none => failure

/-- Takes the name of a table, an index, a view or a trigger. -/
def objectName : Scan ObjectName := do
  let first ← name
  if ← acceptSymbol "." then return ⟨some first, ← name⟩ else return ⟨none, first⟩

end Scan

/-- The tokens up to the bracket that closes as many as are open, and those behind it. -/
def untilClosed : (depth : Nat) → List Token → Option (List Token × List Token)
  | _, [] => none
  | depth, token :: rest =>
    if token = .symbol ")" then
      match depth with
      | 0 => some ([], rest)
      | depth + 1 => (untilClosed depth rest).map fun (inner, after) => (token :: inner, after)
    else
      (untilClosed (if token = .symbol "(" then depth + 1 else depth) rest).map
        fun (inner, after) => (token :: inner, after)

/-- The parts of a list of tokens between commas that stand in no brackets. -/
def listItems : (depth : Nat) → List Token → List (List Token)
  | _, [] => [[]]
  | depth, token :: rest =>
    if depth = 0 ∧ token = .symbol "," then [] :: listItems 0 rest
    else
      let inside :=
        if token = .symbol "(" then depth + 1
        else if token = .symbol ")" then depth - 1
        else depth
      match listItems inside rest with
      | [] => [[token]]
      | item :: items => (token :: item) :: items

namespace Scan

/-- Takes what stands in brackets, which must be something. -/
def group : Scan (List Token) := do
  match ← get with
  | .symbol "(" :: rest =>
    match untilClosed 0 rest with
    | some (inner, after) =>
      set after
      if inner.isEmpty then failure else return inner
    | none => failure
  | _ => failure

/-- Takes a list of names in brackets. -/
def names : Scan (List String) := do
  let items := listItems 0 (← group)
  StateT.lift (items.mapM fun item =>
    match item with
    | [token] => token.name?
    | _ => none)

end Scan

/-- The value of digits. -/
def numberLiteral (isNegative : Bool) (text : String) : Literal :=
  let digits := text.toList
  if digits.all Char.isDigit then
    let magnitude : Int := Text.natOfDigits digits
    .integer (if isNegative then -magnitude else magnitude)
  else .text (if isNegative then "-" ++ text else text)

/-- The words that stand for the time. -/
def timeWords : List String := ["current_date", "current_time", "current_timestamp"]

/-- The value that tokens stand for. Only columns have none, because there is no row to look at;
what is computed counts as an empty text. -/
def literalOf? : List Token → Option Literal
  | [] => none
  | [.string text] | [.quoted text] => some (.text text)
  | [.number text] | [.symbol "+", .number text] => some (numberLiteral false text)
  | [.symbol "-", .number text] => some (numberLiteral true text)
  | [.word word] =>
    if word = "null" then some .null
    else if word = "true" then some (.integer 1)
    else if word = "false" then some (.integer 0)
    else if timeWords.contains word then some (.text "")
    else none
  | [.name _] => none
  | _ => some (.text "")

end RegistryMend.Sql

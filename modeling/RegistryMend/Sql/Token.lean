/-! # Tokens of SQL

A script is cut into tokens. Blanks and comments stand between tokens and are not kept. Text that is
no token, such as a quotation that never ends, is kept as an illegal one, so that only the statement
with it fails. A semicolon ends a statement, except within the body of a trigger.
-/

namespace RegistryMend.Sql

/-- Tokens. Keywords and names without quotes are words in lower case. -/
inductive Token where
  | word (text : String)
  /-- What stands in quotation marks: a name, or a text where there is nothing of that name. -/
  | quoted (text : String)
  /-- A name in brackets or backquotes. -/
  | name (text : String)
  | string (text : String)
  | number (text : String)
  | blob
  | parameter
  | symbol (text : String)
  | illegal
deriving DecidableEq, Repr

/-- Whether a word may start with a character. -/
def isWordStart (c : Char) : Bool :=
  c.isAlpha || c == '_' || 128 ≤ c.toNat

/-- Whether a word may hold a character. -/
def isWordPart (c : Char) : Bool :=
  isWordStart c || c.isDigit || c == '$'

/-- The mark that may stand at the start of a text; it counts as a blank. -/
def byteOrderMark : Char := '\ufeff'

/-- Whether a character stands between tokens. -/
def isBlank (c : Char) : Bool :=
  c == ' ' || c == '\t' || c == '\n' || c == '\r' || c == '\x0c' || c == byteOrderMark

/-- What stands up to a closing mark, and what comes behind it. A doubled mark stands for itself. -/
def untilMark (mark : Char) : List Char → Option (List Char × List Char)
  | [] => none
  | [c] => if c = mark then some ([], []) else none
  | c :: d :: rest =>
    if c = mark then
      if d = mark then (untilMark mark rest).map fun (text, after) => (mark :: text, after)
      else some ([], d :: rest)
    else (untilMark mark (d :: rest)).map fun (text, after) => (c :: text, after)

/-- A token in marks, of which only the closing one is still to come. -/
def markedToken (token : String → Token) (mark : Char) (cs : List Char) : Token × List Char :=
  match untilMark mark cs with
  | some (text, rest) => (token (String.ofList text), rest)
  | none => (.illegal, [])

/-- A name in brackets, behind the opening one. -/
def bracketToken (cs : List Char) : Token × List Char :=
  match cs.span (· ≠ ']') with
  | (text, _ :: rest) => (.name (String.ofList text), rest)
  | (_, []) => (.illegal, [])

/-- What comes behind a comment that ends with a mark. -/
def behindComment : List Char → List Char
  | '*' :: '/' :: rest => rest
  | _ :: rest => behindComment rest
  | [] => []

/-- Whether a character is a hexadecimal digit. -/
def isHexDigit (c : Char) : Bool :=
  c.isDigit || ('a' ≤ c.toLower && c.toLower ≤ 'f')

/-- Places behind a point, with the point. -/
def scanPlaces : List Char → List Char × List Char
  | '.' :: rest =>
    let (digits, rest) := rest.span Char.isDigit
    ('.' :: digits, rest)
  | cs => ([], cs)

/-- An exponent with its mark. -/
def scanPower (cs : List Char) : List Char × List Char :=
  match cs with
  | e :: rest =>
    let (sign, digits) :=
      match rest with
      | '+' :: digits => (['+'], digits)
      | '-' :: digits => (['-'], digits)
      | digits => ([], digits)
    let (power, after) := digits.span Char.isDigit
    if e.toLower = 'e' && !power.isEmpty then (e :: sign ++ power, after) else ([], cs)
  | [] => ([], [])

/-- Whether digits with what follows them are a hexadecimal number. -/
def isHexNumber (digits tail : List Char) : Bool :=
  match tail with
  | x :: rest => digits == ['0'] && x.toLower == 'x' && !rest.isEmpty && rest.all isHexDigit
  | [] => false

/-- A number. No word may follow it directly. -/
def numberToken (cs : List Char) : Token × List Char :=
  let (digits, rest) := cs.span Char.isDigit
  let (places, rest) := scanPlaces rest
  let (power, rest) := scanPower rest
  let (tail, rest) := rest.span isWordPart
  let text := digits ++ places ++ power ++ tail
  if tail.isEmpty || isHexNumber (digits ++ places ++ power) tail then
    (.number (String.ofList text), rest)
  else (.illegal, rest)

/-- The bytes of a blob, behind its opening mark. -/
def blobToken (cs : List Char) : Token × List Char :=
  match cs.span (· ≠ '\'') with
  | (digits, _ :: rest) =>
    (if digits.all isHexDigit && digits.length % 2 = 0 then .blob else .illegal, rest)
  | (_, []) => (.illegal, [])

/-- A parameter behind its mark. -/
def parameterToken (cs : List Char) : Token × List Char :=
  let (name, rest) := cs.span isWordPart
  (if name.isEmpty then .illegal else .parameter, rest)

/-- The symbols of two characters. -/
def longSymbols : List (Char × Char) :=
  [('<', '='), ('<', '>'), ('<', '<'), ('>', '='), ('>', '>'), ('!', '='), ('=', '='), ('|', '|'),
    ('-', '>')]

/-- The symbols of one character. -/
def symbols : List Char := ";(),.+-*/%=<>|&~".toList

/-- The first token of a text, unless it starts with a blank or a comment, and the rest. -/
def scan : List Char → Option Token × List Char
  | [] => (none, [])
  | '-' :: '-' :: rest => (none, rest.dropWhile (· ≠ '\n'))
  | '/' :: '*' :: c :: rest => (none, behindComment (c :: rest))
  | '\'' :: rest => (markedToken .string '\'' rest).map some id
  | '"' :: rest => (markedToken .quoted '"' rest).map some id
  | '\x60' :: rest => (markedToken .name '\x60' rest).map some id
  | '[' :: rest => (bracketToken rest).map some id
  | '?' :: rest => (some .parameter, rest.dropWhile Char.isDigit)
  | c :: rest =>
    if isBlank c then (none, rest)
    else if c.toLower = 'x' && rest.head? = some '\'' then (blobToken rest.tail).map some id
    else if isWordStart c then
      let (word, rest) := (c :: rest).span isWordPart
      (some (.word (String.ofList word).toLower), rest)
    else if c.isDigit || (c = '.' && rest.head?.any Char.isDigit) then
      (numberToken (c :: rest)).map some id
    else if [':', '@', '#', '$'].contains c then (parameterToken rest).map some id
    else if rest.head?.any fun d => longSymbols.contains (c, d) then
      (some (.symbol (String.ofList (c :: rest.take 1))), rest.tail)
    else if symbols.contains c then (some (.symbol c.toString), rest)
    else (some .illegal, rest)

/-- The tokens of a text. Each takes at least one character, which bounds the fuel. -/
def tokensFrom : (fuel : Nat) → List Char → List Token
  | 0, _ => []
  | fuel + 1, cs =>
    match scan cs with
    | (none, []) => []
    | (some token, rest) => token :: tokensFrom fuel rest
    | (none, rest) => tokensFrom fuel rest

/-- The tokens of a text. -/
def tokensIn (text : String) : List Token :=
  tokensFrom text.length text.toList

/-- The token that ends a statement. -/
def semicolon : Token := .symbol ";"

/-- Whether tokens are the start of a trigger. -/
def startsTrigger : List Token → Bool
  | .word "create" :: .word "trigger" :: _ => true
  | .word "create" :: .word "temp" :: .word "trigger" :: _ => true
  | .word "create" :: .word "temporary" :: .word "trigger" :: _ => true
  | _ => false

/-- Puts the parts of a trigger together again: it lasts until a part that is its end. The first
argument is the trigger so far, within one. -/
def joinTriggers : Option (List Token) → List (List Token) → List (List Token)
  | none, [] => []
  | some trigger, [] => [trigger]
  | none, part :: rest =>
    if startsTrigger part then joinTriggers (some part) rest else part :: joinTriggers none rest
  | some trigger, part :: rest =>
    if part = [.word "end"] then (trigger ++ semicolon :: part) :: joinTriggers none rest
    else joinTriggers (some (trigger ++ semicolon :: part)) rest

/-- The tokens of a script, statement by statement. -/
def statementTokens (script : String) : List (List Token) :=
  joinTriggers none ((tokensIn script).splitOn semicolon)

example : tokensIn "A -- b;\n\"c\"/*d*/[e f]" = [.word "a", .quoted "c", .name "e f"] := by
  decide +kernel

end RegistryMend.Sql

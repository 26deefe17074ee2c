import RegistryMend.Sql.TableGrammar

/-! # The grammar of statements

A statement is told by its first words. Queries are read only for the tables that they name.
-/

namespace RegistryMend.Sql

/-- The keywords that no query holds. -/
def definingWords : List String := [
  "add", "alter", "autoincrement", "check", "commit", "constraint", "create", "default",
  "deferrable", "delete", "drop", "foreign", "index", "insert", "into", "nothing", "primary",
  "references", "returning", "set", "table", "to", "transaction", "unique", "update"]

/-- Whether tokens hold no keyword that only other statements do. -/
def looksBackOnly (tokens : List Token) : Bool :=
  tokens.all fun
    | .word word => !definingWords.contains word
    | _ => true

/-- Whether each further query stands in brackets, or is joined to the one before. The first argument
is the token before. -/
def joinsQueries : Token → List Token → Bool
  | _, [] => true
  | before, token :: rest =>
    let joined :=
      match before with
      | .word word => ["union", "all", "intersect", "except"].contains word
      | .symbol symbol => symbol == "(" || symbol == ")" || symbol == ";"
      | _ => false
    (token ≠ .word "select" || joined) && joinsQueries token rest

/-- Whether tokens are read as a query. -/
def isQuery (tokens : List Token) : Bool :=
  looksBackOnly tokens && joinsQueries semicolon tokens &&
    match tokens with
    | .word word :: _ :: _ => word == "select" || word == "values" || word == "with"
    | _ => false

/-- Whether an operand comes behind a token. -/
def beforeOperand : Token → Bool
  | .word word =>
    ["select", "distinct", "all", "and", "or", "not", "when", "then", "else", "case", "between",
      "by", "where", "in", "like", "values"].contains word
  | .symbol symbol => symbol ≠ ")" && symbol ≠ "*"
  | _ => false

/-- The words without quotes that are values or may start one. -/
def valueWords : List String := ["true", "false", "cast", "raise"] ++ timeWords

/-- Whether one of the operands is a column. The first argument is the token before. -/
def usesColumn : Token → List Token → Bool
  | _, [] => false
  | before, token :: rest =>
    let isColumn :=
      match token with
      | .word word => !reservedWords.contains word && !valueWords.contains word
      | .name _ => true
      | _ => false
    (beforeOperand before && isColumn && rest.head? ≠ some (.symbol "(")) || usesColumn token rest

/-- The tables that tokens name. -/
def namedTables : List Token → List ObjectName
  | .word word :: rest =>
    let later := namedTables rest
    if word = "from" ∨ word = "join" then
      match Scan.objectName.run rest with
      | some (table, _) => table :: later
      | none => later
    else later
  | _ :: rest => namedTables rest
  | [] => []

/-- The tables that a query names, unless it gives names to its own parts. -/
def queriedTables (tokens : List Token) : List ObjectName :=
  if tokens.head? = some (.word "with") then [] else namedTables tokens

/-- A query, unless it uses a column and names no table. -/
def query? (tokens : List Token) : Option Statement :=
  if isQuery tokens && ((namedTables tokens).length ≠ 0 || !usesColumn semicolon tokens) then
    some (.query (queriedTables tokens))
  else none

/-- The row of values of a query that names no table. -/
def queriedRow? : List Token → Option (List Literal)
  | .word "select" :: values =>
    if values.contains (.word "from") || values.contains (.word "where") then none
    else (listItems 0 values).mapM literalOf?
  | _ => none

/-- The comparisons in a condition that holds where all of them do. -/
def comparison? : List Token → Option Comparison
  | token :: .symbol symbol :: value => do
    let column ← token.name?
    let value ← literalOf? value
    if symbol = "=" ∨ symbol = "==" then return ⟨column, true, value⟩
    else if symbol = "!=" ∨ symbol = "<>" then return ⟨column, false, value⟩
    else none
  | [token, .word "is", .word "null"] => token.name?.map (⟨·, true, .null⟩)
  | [token, .word "is", .word "not", .word "null"] => token.name?.map (⟨·, false, .null⟩)
  | _ => none

namespace Scan

/-- Takes which rows are meant, to the end. -/
def selection : Scan Selection := do
  if ← atEnd then return .all
  else
    expect ["where"]
    let condition ← remaining
    if condition.isEmpty || !looksBackOnly (condition.takeWhile (· ≠ .word "returning")) then
      failure
    else
      match (condition.splitOn (.word "and")).mapM comparison? with
      | some comparisons => return .having comparisons
      | none => return .unknown

/-- Takes what happens to rows that break a rule. -/
def onConflict : Scan OnConflict := do
  if ← accept ["or"] then
    if ← accept ["ignore"] then return .ignore
    else if ← accept ["replace"] then return .replace
    else
      expectAny ["abort", "fail", "rollback"]
      return .abort
  else return .abort

/-- Takes rows of values between commas. Each takes tokens, which bounds the fuel. -/
def rows : (fuel : Nat) → Scan (List (List Literal))
  | 0 => failure
  | fuel + 1 => do
    let values ← StateT.lift ((listItems 0 (← group)).mapM literalOf?)
    if ← acceptSymbol "," then return values :: (← rows fuel) else return [values]

/-- Takes what is inserted, behind the words for it. -/
def insertion (onConflict : OnConflict) : Scan Statement := do
  let table ← objectName
  if ← accept ["as"] then
    let _ ← name
  let columns ← if (← get).head? = some (.symbol "(") then names else pure []
  if ← accept ["values"] then
    let rows ← rows ((← get).length + 1)
    let isEnd ← atEnd
    let hasRule ← accept ["on", "conflict"]
    let returns ← accept ["returning"]
    let rest ← remaining
    let ignores := rest.drop (rest.length - 2) == [.word "do", .word "nothing"]
    let ruleWords : List Token := [.word "nothing", .word "update", .word "set", .word "returning"]
    if isEnd || ((hasRule || returns) && looksBackOnly (rest.removeAll ruleWords)) then
      return .insert (if ignores then .ignore else onConflict) table columns rows
    else failure
  else if ← accept ["default", "values"] then
    finish
    return .insert onConflict table columns [[]]
  else if isQuery (← get) then
    let tokens ← remaining
    match queriedRow? tokens with
    | some row => return .insert onConflict table columns [row]
    | none => return .query (table :: queriedTables tokens)
  else failure

/-- Takes the values that an update sets: those that can be told, and whether these are all. -/
def assignments : Scan (Record × Bool) := do
  let (items, condition) := (← get).span (· ≠ .word "where")
  set condition
  if !looksBackOnly (items.takeWhile (· ≠ .word "returning")) then failure
  let settings ← StateT.lift ((listItems 0 items).mapM fun item =>
    match item with
    | token :: .symbol "=" :: first :: value =>
      token.name?.map fun column => (column, literalOf? (first :: value))
    | _ => none)
  return (settings.filterMap fun (column, value) => value.map fun value => (column, value),
    settings.all fun (_, value) => value.isSome)

/-- Takes an update, behind the word for it. -/
def updating : Scan Statement := do
  let onConflict ← onConflict
  let table ← objectName
  expect ["set"]
  let (values, complete) ← assignments
  let rows ← selection
  return .update onConflict table values (if complete then rows else .unknown)

/-- Takes how something is created, behind the word for its kind. -/
def creation (isTemporary : Bool) : Scan Creation := do
  let ifAbsent ← accept ["if", "not", "exists"]
  return { target := ← objectName, isTemporary, ifAbsent }

/-- Takes a table, behind the word for it. -/
def tableCreation (isTemporary : Bool) : Scan Statement := do
  let creation ← creation isTemporary
  let name := creation.target.name
  if ← accept ["as"] then
    if isQuery (← remaining) then return .createTable creation ⟨name, [], [], none, [], []⟩ true
    else failure
  else
    let body ← group
    let (definition, isSound) ← StateT.lift (tableBody? name body (← remaining))
    return .createTable creation definition isSound

/-- The modules of tables that are no tables of their own. -/
def tableModules : List String := ["fts3", "fts4", "fts5", "rtree"]

/-- Takes a table of a module, behind the words for it. -/
def moduleTable : Scan Statement := do
  let creation ← creation false
  expect ["using"]
  let tableModule ← name
  if !(← atEnd) then
    let _ ← group
  finish
  return .createTable creation ⟨creation.target.name, [], [], none, [], []⟩
    (tableModules.contains tableModule)

/-- Takes an index, behind the word for it. -/
def indexCreation (isUnique : Bool) : Scan Statement := do
  let creation ← creation false
  expect ["on"]
  let table ← name
  let items := listItems 0 (← group)
  if items.any List.isEmpty then failure
  else
    let columns := items.filterMap fun item =>
      match item with
      | .word word :: _ => (keyColumn? item).map fun _ => word
      | .name word :: _ => (keyColumn? item).map fun _ => word.toLower
      | _ => none
    if !(← atEnd) then
      expect ["where"]
      let condition ← remaining
      if condition.isEmpty || !looksBackOnly condition then failure
    return .createIndex creation { name := creation.target.name, table, columns, isUnique }

/-- Takes a view, behind the word for it. -/
def viewCreation (isTemporary : Bool) : Scan Statement := do
  let creation ← creation isTemporary
  if (← get).head? = some (.symbol "(") then
    let _ ← names
  expect ["as"]
  if isQuery (← remaining) then return .createView creation else failure

/-- Whether tokens are the body of a trigger: statements on rows, each with its semicolon. -/
def isTriggerBody (tokens : List Token) : Bool :=
  let starts := fun (part : List Token) =>
    match part with
    | .word word :: _ :: _ =>
      ["insert", "replace", "update", "delete", "select", "values", "with"].contains word
    | _ => false
  match tokens with
  | .word "begin" :: body =>
    let parts := body.splitOn semicolon
    1 < parts.length && parts.getLast? == some [.word "end"] && parts.dropLast.all starts
  | _ => false

/-- Takes a trigger, behind the word for it. -/
def triggerCreation (isTemporary : Bool) : Scan Statement := do
  let creation ← creation isTemporary
  if !(← acceptAny ["before", "after"]) then
    let _ ← accept ["instead", "of"]
  if ← accept ["update", "of"] then
    set ((← get).dropWhile (· ≠ .word "on"))
  else expectAny ["delete", "insert", "update"]
  expect ["on"]
  let table ← name
  if isTriggerBody ((← remaining).dropWhile (· ≠ .word "begin")) then
    return .createTrigger creation table
  else failure

/-- Takes what is created. -/
def creating : Scan Statement := do
  if ← accept ["table"] then tableCreation false
  else if ← accept ["index"] then indexCreation false
  else if ← accept ["unique", "index"] then indexCreation true
  else if ← accept ["view"] then viewCreation false
  else if ← accept ["trigger"] then triggerCreation false
  else if ← accept ["virtual", "table"] then moduleTable
  else
    expectAny ["temp", "temporary"]
    if ← accept ["table"] then tableCreation true
    else if ← accept ["view"] then viewCreation true
    else
      expect ["trigger"]
      triggerCreation true

/-- Takes what is dropped. -/
def dropping : Scan Statement := do
  let kind ←
    if ← accept ["table"] then pure ObjectKind.table
    else if ← accept ["index"] then pure .index
    else if ← accept ["view"] then pure .view
    else
      expect ["trigger"]
      pure .trigger
  let ifThere ← accept ["if", "exists"]
  let target ← objectName
  finish
  return .drop kind ifThere target

/-- Takes the name of a transaction, which means nothing, to the end. -/
def transactionName : Scan Unit := do
  if ← accept ["transaction"] then
    if !(← atEnd) then
      let _ ← name
  finish

/-- Takes a rollback, behind the word for it. -/
def rollingBack : Scan Statement := do
  if ← accept ["transaction"] then
    if !(← atEnd) && (← get).head? ≠ some (.word "to") then
      let _ ← name
  if ← accept ["to"] then
    let _ ← accept ["savepoint"]
    let target ← name
    finish
    return .rollbackTo target
  else
    finish
    return .rollback

/-- Takes an alteration, behind the words for it. -/
def altering : Scan Statement := do
  let table ← objectName
  if ← accept ["rename", "to"] then
    let target ← name
    finish
    return .alter table (.rename target)
  else if ← accept ["rename"] then
    let _ ← accept ["column"]
    let old ← name
    expect ["to"]
    let new ← name
    finish
    return .alter table (.renameColumn old new)
  else if ← accept ["add"] then
    let _ ← accept ["column"]
    let draft ← column
    return .alter table (.addColumn draft.column (draft.primaries ≠ 0 || draft.isUnique))
  else
    expect ["drop"]
    let _ ← accept ["column"]
    let dropped ← name
    finish
    return .alter table (.dropColumn dropped)

/-- Whether a token may be the value of a setting. -/
def isSettingValue : Token → Bool
  | .word word => !reservedWords.contains word || ["on", "delete", "default"].contains word
  | .quoted _ | .name _ | .string _ | .number _ => true
  | _ => false

/-- Takes a setting of the database, behind the word for it. -/
def setting : Scan Statement := do
  let _ ← objectName
  let value ←
    if ← acceptSymbol "=" then remaining
    else if ← atEnd then pure [.number "0"]
    else
      let value ← group
      finish
      pure value
  match value with
  | [token] | [.symbol "-", token] | [.symbol "+", token] =>
    if isSettingValue token then return .other else failure
  | _ => failure

/-- Takes a statement by its first words. -/
def statement : Scan Statement := do
  if ← accept ["create"] then creating
  else if ← accept ["drop"] then dropping
  else if ← accept ["insert"] then
    let onConflict ← onConflict
    expect ["into"]
    insertion onConflict
  else if ← accept ["replace", "into"] then insertion .replace
  else if ← accept ["delete", "from"] then
    let table ← objectName
    return .delete table (← selection)
  else if ← accept ["update"] then updating
  else if ← accept ["alter", "table"] then altering
  else if ← accept ["begin"] then
    let _ ← acceptAny ["deferred", "immediate", "exclusive"]
    transactionName
    return .begin
  else if ← acceptAny ["commit", "end"] then
    transactionName
    return .commit
  else if ← accept ["rollback"] then rollingBack
  else if ← accept ["savepoint"] then
    let target ← name
    finish
    return .savepoint target
  else if ← accept ["release"] then
    let _ ← accept ["savepoint"]
    let target ← name
    finish
    return .release target
  else if ← accept ["pragma"] then setting
  else if ← accept ["vacuum"] then
    if !(← atEnd) && (← get).head? ≠ some (.word "into") then
      let _ ← name
    if ← accept ["into"] then
      let _ ← next
    finish
    return .alone
  else if ← acceptAny ["analyze", "reindex"] then
    if !(← atEnd) then
      let _ ← objectName
    finish
    return .other
  else if ← accept ["attach"] then
    if (← remaining).isEmpty then failure else return .other
  else StateT.lift (query? (← remaining))

end Scan

/-- The statement that tokens make, if they follow the grammar. -/
def statementOf? (tokens : List Token) : Option Statement :=
  if tokens.contains .illegal then none
  else
    let (explains, tokens) :=
      match tokens with
      | .word "explain" :: .word "query" :: .word "plan" :: rest => (true, rest)
      | .word "explain" :: rest => (true, rest)
      | tokens => (false, tokens)
    match Scan.statement.run tokens with
    | some (statement, []) => some (if explains then .other else statement)
    | _ => none

end RegistryMend.Sql

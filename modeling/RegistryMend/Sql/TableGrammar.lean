import RegistryMend.Sql.Scan

/-! # Definitions of tables

What stands in the brackets of a table definition: columns with their clauses, then constraints on
the table as a whole. A definition may follow the grammar and still make no sense, as with two
columns of one name; it is then unsound.
-/

namespace RegistryMend.Sql

/-- A column as it is read, with what its clauses say about the table. -/
structure ColumnDraft where
  column : Column
  /-- How often it is called the primary key. -/
  primaries : Nat := 0
  isDescending : Bool := false
  countsOn : Bool := false
  isUnique : Bool := false
  references : List Reference := []

namespace Scan

/-- Takes what is to happen to rows that break a rule, if that is said. -/
def conflictClause : Scan Unit := do
  if ← accept ["on", "conflict"] then
    expectAny ["rollback", "abort", "fail", "ignore", "replace"]

/-- Takes an order, if one is given, and says whether it is descending. -/
def direction : Scan Bool := do
  if ← accept ["desc"] then return true
  else
    let _ ← accept ["asc"]
    return false

/-- Takes what happens to rows that refer to others: whether they are removed with them. -/
def referenceAction : Scan Bool := do
  if ← accept ["cascade"] then return true
  else if ← accept ["set", "null"] then return false
  else if ← accept ["set", "default"] then return false
  else if ← accept ["restrict"] then return false
  else
    expect ["no", "action"]
    return false

/-- Takes the clauses of a reference. Each takes tokens, which bounds the fuel. -/
def referenceClauses : (fuel : Nat) → Reference → Scan Reference
  | 0, reference => return reference
  | fuel + 1, reference => do
    if ← accept ["on", "delete"] then
      referenceClauses fuel { reference with cascades := ← referenceAction }
    else if ← accept ["on", "update"] then
      let _ ← referenceAction
      referenceClauses fuel reference
    else if ← accept ["match"] then
      let _ ← name
      referenceClauses fuel reference
    else return reference

/-- Takes the table that columns refer to, and its columns if they are given. -/
def reference (columns : List String) : Scan Reference := do
  let table ← name
  let keys ← if (← get).head? = some (.symbol "(") then names else pure []
  referenceClauses (← get).length { columns, table, keys }

/-- Takes when a reference is checked, behind the word for it. -/
def deferral : Scan Unit := do
  if ← accept ["initially"] then expectAny ["deferred", "immediate"]

/-- Takes a default value. -/
def defaultValue : Scan Literal := do
  match ← get with
  | .symbol "(" :: _ => return (literalOf? (← group)).getD (.text "")
  | .symbol sign :: .number digits :: rest =>
    set rest
    if sign = "-" ∨ sign = "+" then return numberLiteral (sign = "-") digits else failure
  | token :: rest =>
    set rest
    match literalOf? [token], token.name? with
    | some value, _ => return value
    | none, some name => return .text name
    | none, none => failure
  | [] => failure

/-- Takes the words of a type. Each takes a token, which bounds the fuel. -/
def typeWords : (fuel : Nat) → Scan (List String)
  | 0 => return []
  | fuel + 1 => do
    match ← get with
    | token :: rest =>
      match token.name? with
      | some word =>
        if word = "generated" then return []
        else
          set rest
          return word :: (← typeWords fuel)
      | none => return []
    | [] => return []

/-- Whether tokens are a number with or without a sign. -/
def isSize : List Token → Bool
  | [.number _] => true
  | [.symbol sign, .number _] => sign == "+" || sign == "-"
  | _ => false

/-- Takes a type. Its size is marked but not kept. -/
def columnType : Scan (List String) := do
  let words ← typeWords (← get).length
  if !words.isEmpty && (← get).head? = some (.symbol "(") then
    let sizes := listItems 0 (← group)
    if sizes.length ≤ 2 && sizes.all isSize then return words ++ ["()"] else failure
  else return words

/-- Takes the clauses of a column to the end. Each takes tokens, which bounds the fuel. -/
def columnClauses : (fuel : Nat) → ColumnDraft → Scan ColumnDraft
  | 0, draft => return draft
  | fuel + 1, draft => do
    if ← atEnd then return draft
    else if ← accept ["constraint"] then
      let _ ← name
      columnClauses fuel draft
    else if ← accept ["default"] then
      let value ← defaultValue
      columnClauses fuel { draft with column := { draft.column with default := value } }
    else if ← accept ["not", "null"] then
      conflictClause
      columnClauses fuel { draft with column := { draft.column with notNull := true } }
    else if ← accept ["null"] then
      conflictClause
      columnClauses fuel draft
    else if ← accept ["primary", "key"] then
      let isDescending ← direction
      conflictClause
      let countsOn ← accept ["autoincrement"]
      columnClauses fuel { draft with primaries := draft.primaries + 1, isDescending, countsOn }
    else if ← accept ["unique"] then
      conflictClause
      columnClauses fuel { draft with isUnique := true }
    else if ← accept ["check"] then
      let _ ← group
      columnClauses fuel draft
    else if ← accept ["references"] then
      let reference ← reference [draft.column.name]
      columnClauses fuel { draft with references := draft.references ++ [reference] }
    else if ← accept ["deferrable"] then
      deferral
      columnClauses fuel draft
    else if ← accept ["not", "deferrable"] then
      deferral
      columnClauses fuel draft
    else if ← accept ["collate"] then
      let _ ← name
      columnClauses fuel draft
    else
      let _ ← accept ["generated", "always"]
      expect ["as"]
      let _ ← group
      let _ ← acceptAny ["stored", "virtual"]
      columnClauses fuel draft

/-- Takes a column to the end of the tokens. -/
def column : Scan ColumnDraft := do
  let name ← name
  let type ← columnType
  columnClauses (← get).length { column := { name, type } }

end Scan

/-- A constraint on a table as a whole. -/
inductive TableConstraint where
  /-- A primary key, and whether new rows count on from the last number. -/
  | primary (columns : List String) (countsOn : Bool)
  | unique (columns : List String)
  | reference (reference : Reference)
  /-- A list of columns that holds something else. -/
  | unsound

/-- The column of an item in the list of a key, and whether the item ends with a count. -/
def keyColumn? (item : List Token) : Option (String × Bool) :=
  match item with
  | [] => none
  | token :: rest =>
    let plain := rest.filter fun token => token ≠ .word "asc" ∧ token ≠ .word "desc"
    match token.name?, plain with
    | some name, [] => some (name, false)
    | some name, [.word "autoincrement"] => some (name, true)
    | some name, [.word "collate", _] => some (name, false)
    | _, _ => none

/-- The constraint that a list of columns makes. -/
def keyConstraint (make : List String → Bool → TableConstraint) (inner : List Token) :
    TableConstraint :=
  match (listItems 0 inner).mapM keyColumn? with
  | some columns => make (columns.map Prod.fst) (columns.any Prod.snd)
  | none => .unsound

namespace Scan

/-- Takes the constraints of one item to its end. Each takes tokens, which bounds the fuel. -/
def tableConstraints : (fuel : Nat) → Scan (List TableConstraint)
  | 0 => return []
  | fuel + 1 => do
    if ← atEnd then return []
    else if ← accept ["constraint"] then
      let _ ← name
      tableConstraints fuel
    else if ← accept ["primary", "key"] then
      let key := keyConstraint .primary (← group)
      conflictClause
      return key :: (← tableConstraints fuel)
    else if ← accept ["unique"] then
      let key := keyConstraint (fun columns _ => .unique columns) (← group)
      conflictClause
      return key :: (← tableConstraints fuel)
    else if ← accept ["check"] then
      let _ ← group
      conflictClause
      tableConstraints fuel
    else
      expect ["foreign", "key"]
      let columns ← names
      expect ["references"]
      let reference ← reference columns
      let _ ← accept ["not"]
      if ← accept ["deferrable"] then deferral
      return .reference reference :: (← tableConstraints fuel)

end Scan

/-- Whether an item of a table definition is a constraint on the table. -/
def isTableConstraint : List Token → Bool
  | .word word :: _ => ["constraint", "primary", "unique", "check", "foreign"].contains word
  | _ => false

/-- The options behind the brackets of a table definition. -/
structure TableOptions where
  withoutRowNumbers : Bool := false
  isStrict : Bool := false

/-- The types of the columns of a strict table. -/
def strictTypes : List String := ["int", "integer", "real", "text", "blob", "any"]

/-- Reads the options of a table. The list of items is empty where there are none. -/
def tableOptions? : List (List Token) → Option TableOptions
  | [] | [[]] => some {}
  | items => items.foldlM (fun options item =>
      match item with
      | [.word "without", .word "rowid"] => some { options with withoutRowNumbers := true }
      | [.word "strict"] => some { options with isStrict := true }
      | _ => none) {}

/-- The column that numbers the rows: the only one of a primary key, of whole numbers. -/
def rowNumber? (drafts : List ColumnDraft) (primary : List String) : Option String :=
  match primary with
  | [name] =>
    (drafts.find? fun draft => draft.column.name = name && draft.column.type = ["integer"] &&
      !(draft.primaries ≠ 0 && draft.isDescending)).map fun _ => name
  | _ => none

/-- Puts a table together from its parts, and says whether it is sound. Without numbers of rows the
primary key is never null. -/
def assembleTable (name : String) (drafts : List ColumnDraft) (constraints : List TableConstraint)
    (options : TableOptions) : TableDefinition × Bool :=
  let ofColumns := (drafts.filter (·.primaries ≠ 0)).map fun draft => [draft.column.name]
  let ofTable := constraints.filterMap fun
    | .primary columns _ => some columns
    | _ => none
  let primary := ((ofColumns ++ ofTable).head?).getD []
  let rowNumber := if options.withoutRowNumbers then none else rowNumber? drafts primary
  let unique := (drafts.filter (·.isUnique)).map (fun draft => [draft.column.name]) ++
    constraints.filterMap fun
      | .unique columns => some columns
      | _ => none
  let references := drafts.flatMap (·.references) ++ constraints.filterMap fun
    | .reference reference => some reference
    | _ => none
  let countsOn := drafts.any (·.countsOn) || constraints.any fun
    | .primary _ countsOn => countsOn
    | _ => false
  let columns := drafts.map fun draft =>
    if options.withoutRowNumbers && primary.contains draft.column.name then
      { draft.column with notNull := true }
    else draft.column
  let definition : TableDefinition := { name, columns, primary, rowNumber, unique, references }
  let primaries := drafts.foldl (fun count draft => count + draft.primaries) ofTable.length
  let known := fun (columns : List String) => columns.all definition.hasColumn
  let isSound := decide definition.columnNames.Nodup && primaries ≤ 1 &&
    (!countsOn || rowNumber.isSome) && definition.keys.all known &&
    references.all (fun reference => known reference.columns &&
      (reference.keys.isEmpty || reference.keys.length == reference.columns.length)) &&
    constraints.all (fun | .unsound => false | _ => true) &&
    (!options.withoutRowNumbers || !primary.isEmpty) &&
    (!options.isStrict || definition.columns.all fun column =>
      match column.type with
      | [type] | [type, "()"] => strictTypes.contains type
      | _ => false)
  (definition, isSound)

/-- Reads the body of a table definition with what stands behind it. -/
def tableBody? (name : String) (body options : List Token) : Option (TableDefinition × Bool) := do
  let (columns, constraints) := (listItems 0 body).span fun item => !isTableConstraint item
  let drafts ← columns.mapM fun item => (Scan.column.run item).map Prod.fst
  let constraints ← constraints.mapM fun item =>
    if item.isEmpty then none else ((Scan.tableConstraints item.length).run item).map Prod.fst
  if drafts.isEmpty then none
  else return assembleTable name drafts constraints.flatten (← tableOptions? (listItems 0 options))

end RegistryMend.Sql

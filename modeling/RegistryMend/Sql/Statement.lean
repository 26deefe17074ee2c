import RegistryMend.Decimal.Integer
import RegistryMend.Decimal.Layout

/-! # Statements of SQL

A statement changes tables and their rows, or begins and ends transactions. Names are kept in lower
case, because case does not tell them apart.
-/

namespace RegistryMend.Sql

/-- A value in a row. -/
inductive Literal where
  | null
  | integer (n : Int)
  | real (d : Decimal.Double)
  | text (s : String)
deriving DecidableEq, Repr

/-- The text of a value, empty for null. -/
def Literal.shown : Literal → String
  | null => ""
  | integer n => Decimal.integerText n
  | real d => d.plainText
  | text s => s

/-- Whether a value fits into a column: whole numbers have 64 bits. -/
def Literal.fits : Literal → Bool
  | integer n => -0x8000000000000000 ≤ n && n ≤ 0x7fffffffffffffff
  | _ => true

/-- The values of a row by column. -/
abbrev Record := List (String × Literal)

/-- The value in a column, null if there is none. -/
def Record.value (column : String) (record : Record) : Literal :=
  (record.lookup column).getD .null

/-- A column of a table. -/
structure Column where
  name : String
  /-- The words of its type. -/
  type : List String := []
  notNull : Bool := false
  /-- The value of rows that do not give one. -/
  default : Literal := .null
deriving DecidableEq, Repr

/-- That the values in some columns are those of a row in another table. -/
structure Reference where
  columns : List String
  table : String
  /-- The columns of the other table; without any they are its primary key. -/
  keys : List String := []
  /-- Whether rows are removed together with the row that they refer to. -/
  cascades : Bool := false
deriving DecidableEq, Repr

/-- What is said about a table. -/
structure TableDefinition where
  name : String
  columns : List Column
  /-- The columns of the primary key. -/
  primary : List String := []
  /-- The column that numbers the rows, if there is one. -/
  rowNumber : Option String := none
  /-- Lists of columns in which no two rows agree. -/
  unique : List (List String) := []
  references : List Reference := []
deriving DecidableEq, Repr

namespace TableDefinition

/-- The names of the columns. -/
def columnNames (definition : TableDefinition) : List String :=
  definition.columns.map Column.name

/-- Whether there is a column. -/
def hasColumn (definition : TableDefinition) (name : String) : Bool :=
  definition.columnNames.contains name

/-- The lists of columns in which no two rows agree, the primary key among them. -/
def keys (definition : TableDefinition) : List (List String) :=
  if definition.primary.isEmpty then definition.unique else definition.primary :: definition.unique

/-- Whether no two rows agree in some columns, in whatever order these are given. -/
def hasKey (definition : TableDefinition) (columns : List String) : Bool :=
  definition.keys.any fun key => key.length == columns.length && key.all columns.contains

end TableDefinition

/-- What is said about an index. -/
structure IndexDefinition where
  name : String
  table : String
  /-- Its columns, as far as it names columns. -/
  columns : List String := []
  isUnique : Bool := false
deriving DecidableEq, Repr

/-- What is said about a trigger. -/
structure TriggerDefinition where
  name : String
  table : String
deriving DecidableEq, Repr

/-- The name of a table, an index, a view or a trigger, and of the database that holds it, if that
is given. -/
structure ObjectName where
  database : Option String := none
  name : String
deriving DecidableEq, Repr

/-- How something is created. -/
structure Creation where
  target : ObjectName
  /-- Whether it is gone when the connection ends. -/
  isTemporary : Bool := false
  /-- Whether nothing happens if it is there already. -/
  ifAbsent : Bool := false
deriving DecidableEq, Repr

/-- What can be dropped. -/
inductive ObjectKind where
  | table
  | index
  | view
  | trigger
deriving DecidableEq, Repr

/-- What happens to a row that breaks a rule of its table. -/
inductive OnConflict where
  | abort
  | ignore
  | replace
deriving DecidableEq, Repr

/-- That a column has a value, or has another one. -/
structure Comparison where
  column : String
  equal : Bool
  value : Literal
deriving DecidableEq, Repr

/-- Which rows are meant: all of them, those with some values, or none that can be told. -/
inductive Selection where
  | all
  | having (comparisons : List Comparison)
  | unknown
deriving DecidableEq, Repr

/-- A change of a table. -/
inductive Alteration where
  | rename (name : String)
  | addColumn (column : Column) (isKey : Bool)
  | renameColumn (old new : String)
  | dropColumn (name : String)
deriving DecidableEq, Repr

/-- Statements. -/
inductive Statement where
  /-- A table with its definition, unless that comes from a query. What is said of columns may be
  unsound, which matters only where the table is created. -/
  | createTable (creation : Creation) (definition : TableDefinition) (isSound : Bool)
  | createIndex (creation : Creation) (definition : IndexDefinition)
  | createView (creation : Creation)
  | createTrigger (creation : Creation) (table : String)
  | drop (kind : ObjectKind) (ifThere : Bool) (target : ObjectName)
  | begin
  | commit
  | rollback
  | savepoint (name : String)
  | release (name : String)
  | rollbackTo (name : String)
  /-- Rows of values, where a value is missing if it cannot be told. -/
  | insert (onConflict : OnConflict) (table : ObjectName) (columns : List String)
      (rows : List (List Literal))
  | delete (table : ObjectName) (rows : Selection)
  | update (onConflict : OnConflict) (table : ObjectName) (values : Record) (rows : Selection)
  | alter (table : ObjectName) (alteration : Alteration)
  /-- A query of tables. -/
  | query (tables : List ObjectName)
  /-- A statement that is not allowed within a transaction. -/
  | alone
  /-- A statement that changes nothing here. -/
  | other
deriving DecidableEq, Repr

end RegistryMend.Sql

import EntityStore.Value.Affinity
/-!
# Columns and table definitions

A table is defined by its name and its columns.  A column has a type or none, and says which
values it takes: not nothing, nothing twice, only values of another column.  One column may be
the primary key; when its type is `INTEGER` it holds the key of the row itself.

A column may be generated.  Here the value of a generated column is the same in all rows; what it
is computed from makes no difference to what is said of such columns, which is that they can be
read, that no statement gives them a value, and that they are not listed among the columns of
their table.
-/

namespace EntityStore

/-- The values of a column occur in a column of another table. -/
structure Reference where
  table : String
  column : String
  /-- Checked when the transaction is committed, not after each statement. -/
  deferred : Bool
  deriving DecidableEq, Repr

/-- The definition of a column. -/
structure Column where
  name : String
  type : Option Kind
  primaryKey : Bool
  /-- Keys chosen by the store are never used again. -/
  autoincrement : Bool
  notNull : Bool
  unique : Bool
  /-- A row that would hold a value of the column twice is passed over, and not refused. -/
  ignoresRepeats : Bool
  /-- The value of a generated column.  It is never the primary key. -/
  generated : Option Value
  reference : Option Reference
  deriving DecidableEq, Repr

namespace Column

/-- A column that takes any value. -/
def untyped (name : String) : Column :=
  ⟨name, none, false, false, false, false, false, none, none⟩

/-- How the column converts values. -/
def affinity (c : Column) : Affinity :=
  .ofType c.type

/-- Whether the column holds the key of its row. -/
def isRowKey (c : Column) : Bool :=
  c.primaryKey && c.type = some .integer

/-- Whether the column, where it holds one value, matches another.  A row is found by its key only
if the given value becomes that integer when it is written into the column. -/
def matches? (c : Column) (held given : Value) : Bool :=
  if c.isRowKey then held == c.affinity.store given else c.affinity.matches? held given

/-- Whether no value may occur twice in the column, apart from the key of the row. -/
def isDistinct (c : Column) : Bool :=
  (c.unique || c.primaryKey) && !c.isRowKey

/-- Whether statements give the column its values. -/
def isPlain (c : Column) : Bool :=
  c.generated.isNone

/-- What the column holds in a row for which it was given no value. -/
def initial (c : Column) : Value :=
  match c.generated with
  | some value => c.affinity.store value
  | none => .null

end Column

/-- The definition of a table. -/
structure TableDefinition where
  name : String
  columns : List Column
  deriving DecidableEq, Repr

/-- The columns that are listed for a table: those that are not generated. -/
def TableDefinition.listed (definition : TableDefinition) : List Column :=
  definition.columns.filter (·.isPlain)

end EntityStore

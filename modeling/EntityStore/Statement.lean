import EntityStore.Store.Column
/-!
# Statements

The statements that repositories send to the store, as data.  Values do not stand in a
statement; a `Slot` pairs a column with the name of a parameter, and the parameters come with
the statement when it is run.

The second half writes statements down.  Names stand between double quotes and parameters after
a colon.
-/

namespace EntityStore

/-! ## 1. Statements -/

/-- A column and the parameter that its value is taken from, or compared with. -/
structure Slot where
  column : String
  parameter : String
  deriving DecidableEq, Repr

/-- A column of a result: the column it is read from and the name it is given. -/
structure Output where
  column : String
  label : String
  deriving DecidableEq, Repr

/-- The rows of a table in which every slot's column equals its parameter. -/
structure Filter where
  table : String
  conditions : List Slot
  deriving DecidableEq, Repr

/-- Some columns of the rows that a filter lets through, sorted by a column or not. -/
structure Selection extends Filter where
  outputs : List Output
  orderBy : Option String
  deriving DecidableEq, Repr

/-- A statement that changes rows. -/
inductive Change where
  | insert (table : String) (values : List Slot)
  | update (filter : Filter) (values : List Slot)
  | delete (filter : Filter)
  deriving DecidableEq, Repr

/-- The values of the parameters of a statement. -/
abbrev Parameters := List (String × Value)

namespace Parameters

/-- The value of a parameter as it is passed to the store; one that is not given is `null`. -/
def value (parameters : Parameters) (name : String) : Value :=
  ((parameters.lookup name).getD .null).bound

end Parameters

/-! ## 2. Their text -/

/-- A name between quotes. -/
def quoted (name : String) : String :=
  "\"" ++ name ++ "\""

namespace Slot

/-- A parameter with its colon. -/
def placeholder (s : Slot) : String :=
  ":" ++ s.parameter

/-- A column and its parameter around an equals sign. -/
def text (s : Slot) : String :=
  quoted s.column ++ " = " ++ s.placeholder

end Slot

/-- A column of a result under its name. -/
def Output.text (o : Output) : String :=
  quoted o.column ++ " AS " ++ quoted o.label

/-- The columns of a result. -/
def outputsText (outputs : List Output) : String :=
  String.intercalate ", " (outputs.map Output.text)

namespace Filter

/-- The conditions of a filter, if it has any. -/
def whereText (f : Filter) : String :=
  if f.conditions.isEmpty then ""
  else " WHERE " ++ String.intercalate " AND " (f.conditions.map Slot.text)

/-- The statement that counts the rows of a filter. -/
def countText (f : Filter) : String :=
  "SELECT COUNT(*) FROM " ++ quoted f.table ++ f.whereText ++ ";"

end Filter

/-- The statement of a selection. -/
def Selection.text (s : Selection) : String :=
  "SELECT " ++ outputsText s.outputs ++ " FROM " ++ quoted s.table ++ s.whereText ++
    (match s.orderBy with
    | some column => " ORDER BY " ++ quoted column ++ " ASC"
    | none => "") ++ ";"

/-- The statement of a change. -/
def Change.text : Change → String
  | .insert table [] => "INSERT INTO " ++ quoted table ++ " DEFAULT VALUES;"
  | .insert table values =>
    "INSERT INTO " ++ quoted table ++ " (" ++
      String.intercalate ", " (values.map fun s => quoted s.column) ++ ") VALUES (" ++
      String.intercalate ", " (values.map Slot.placeholder) ++ ");"
  | .update filter values =>
    "UPDATE " ++ quoted filter.table ++ " SET " ++
      String.intercalate ", " (values.map Slot.text) ++ filter.whereText ++ ";"
  | .delete filter => "DELETE FROM " ++ quoted filter.table ++ filter.whereText ++ ";"

/-- The definition of a column. -/
def Column.text (c : Column) : String :=
  quoted c.name ++
    (match c.type with
    | some kind => " " ++ kind.sqlType
    | none => "") ++
    (if c.primaryKey then " PRIMARY KEY" else "") ++
    (if c.autoincrement then " AUTOINCREMENT" else "") ++
    (if c.notNull then " NOT NULL" else "") ++
    (if c.unique then " UNIQUE" else "")

/-- The statement that creates a table unless it exists. -/
def TableDefinition.text (t : TableDefinition) : String :=
  "CREATE TABLE IF NOT EXISTS " ++ quoted t.name ++ " (\n    " ++
    String.intercalate ",\n    " (t.columns.map Column.text) ++ "\n);"

end EntityStore

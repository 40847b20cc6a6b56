import EntityStore.Store.Table
import EntityStore.Schema
/-!
# Databases

A database is what a store holds: tables, views, and guards.  A view shows rows that cannot be
changed; a guard watches a table and refuses certain changes of its rows.  Tables and views share
their names, and names are compared ignoring case.

Guards and tables refuse a change, or they let it happen; only a column may also be declared so
that a row which repeats its value is passed over (`Column.ignoresRepeats`).  There are no guards
that pass a row over or change another one, and no columns that drop the row that was there first.

The second half reads: selections, counts, and whether a row exists.
-/

namespace EntityStore

/-! ## 1. Guards -/

/-- A change of a row. -/
inductive RowEvent where
  | insert
  | update
  | delete
  deriving DecidableEq, Repr

/-- How the row that a guard looks at is called in messages. -/
def RowEvent.rowLabel : RowEvent → String
  | .delete => "OLD"
  | _ => "NEW"

/-- What a statement that fails leaves behind: nothing, the rows that it changed before, or
nothing, and not even the transaction it is part of. -/
inductive Conflict where
  | abort
  | fail
  | rollback
  deriving DecidableEq, Repr

/-- Refuses a change of a row in which a column equals a text. -/
structure Guard where
  name : String
  event : RowEvent
  table : String
  column : String
  equals : String
  conflict : Conflict
  message : String
  deriving DecidableEq, Repr

/-- Whether a guard refuses a change of a row.  Where it watches the key of the row, its text may
stand for a number; elsewhere it stands for itself. -/
def Guard.refuses (g : Guard) (event : RowEvent) (table : String) (columns : List Column)
    (row : Row) : Bool :=
  g.event = event && Name.same g.table table &&
    (if Table.isKey columns g.column then Affinity.integer else .none).matches?
      (Table.read columns row g.column) (.text g.equals)

/-! ## 2. Databases -/

/-- A view: its columns and rows. -/
structure View where
  name : String
  columns : List String
  rows : List (List Value)
  deriving DecidableEq, Repr

/-- Tables, views and guards.  The guard made last stands first. -/
structure Database where
  tables : List Table
  views : List View
  guards : List Guard
  /-- Whether there ever was a table whose keys are never used again.  From then on there is a
  table in which the store notes their last keys. -/
  sequenced : Bool
  /-- The random numbers that the store is going to draw for tables that are still to be made. -/
  draws : List Draw
  deriving DecidableEq, Repr

namespace Database

/-- A database that holds nothing, and is going to draw these numbers. -/
def drawing (draws : List Draw) : Database :=
  ⟨[], [], [], false, draws⟩

/-- A database that holds nothing. -/
def empty : Database :=
  drawing []

/-- The table with a name. -/
def table? (db : Database) (name : String) : Option Table :=
  db.tables.find? fun t => Name.same t.name name

/-- The view with a name. -/
def view? (db : Database) (name : String) : Option View :=
  db.views.find? fun v => Name.same v.name name

/-- The database with a table in the place of the one with its name. -/
def put (db : Database) (t : Table) : Database :=
  { db with tables := db.tables.map fun other => if Name.same other.name t.name then t else other }

/-- The definition of the table in which the store notes last keys. -/
def sequenceTable : TableDefinition :=
  ⟨"sqlite_sequence", [.untyped "name", .untyped "seq"]⟩

/-- The definitions of all tables, with the one that the store makes for itself.  No statement here
reads or writes the rows of that one. -/
def catalogue (db : Database) : List TableDefinition :=
  db.tables.map (·.definition) ++ if db.sequenced then [sequenceTable] else []

end Database

namespace View

/-- The columns under which a view is read.  Its rows have no keys: each name under which a table
would show a key stands for itself. -/
def readColumns (v : View) : List Column :=
  (v.columns ++ Table.keyNames).map .untyped

/-- The values of a row for these columns. -/
def readValues (v : View) (values : List Value) : List Value :=
  (v.columns.mapIdx fun i _ => (values[i]?).getD .null) ++ Table.keyNames.map .text

/-- The rows of a view. -/
def readRows (v : View) : List Row :=
  v.rows.map fun values => ⟨0, v.readValues values⟩

end View

namespace Database

/-! ## 3. Reading -/

/-- The columns and rows of the table or view with a name. -/
def relation? (db : Database) (name : String) : Except StoreFault (List Column × List Row) :=
  match db.table? name with
  | some t => .ok (t.columns, t.rows)
  | none =>
    match db.view? name with
    | some v => .ok (v.readColumns, v.readRows)
    | none => .error (.noSuchTable name)

/-- The columns of a table or view, and its rows that a filter lets through. -/
def matching (db : Database) (filter : Filter) (parameters : Parameters) :
    Except StoreFault (List Column × List Row) :=
  match db.relation? filter.table with
  | .error fault => .error fault
  | .ok (columns, rows) =>
    .ok (columns, rows.filter (Table.meetsAll columns filter.conditions parameters))

/-- The row of a result. -/
def project (columns : List Column) (outputs : List Output) (row : Row) : ResultRow :=
  ⟨outputs.map fun o => (o.label, Table.read columns row o.column)⟩

/-- What a selection is sorted by: the column of a result with that name, or else the column of
the table. -/
def sortColumn (outputs : List Output) (name : String) : String :=
  match outputs.find? fun o => Name.same o.label name with
  | some o => o.column
  | none => name

/-- Sorts rows by a column.  Rows with equal values stay in the order of their keys, as they do as
long as there is no further index on the table; nothing here makes one. -/
def sortRows (columns : List Column) (column : String) (rows : List Row) : List Row :=
  rows.mergeSort fun a b => (Table.read columns a column).precedes (Table.read columns b column)

/-- The result of a selection. -/
def select (db : Database) (selection : Selection) (parameters : Parameters) :
    Except StoreFault (List ResultRow) :=
  match db.matching selection.toFilter parameters with
  | .error fault => .error fault
  | .ok (columns, rows) =>
    let sorted := match selection.orderBy with
      | some name => sortRows columns (sortColumn selection.outputs name) rows
      | none => rows
    .ok (sorted.map (project columns selection.outputs))

/-- How many rows a filter lets through. -/
def count (db : Database) (filter : Filter) (parameters : Parameters) : Except StoreFault Nat :=
  (db.matching filter parameters).map fun (_, rows) => rows.length

/-- Whether a filter lets any row through. -/
def contains (db : Database) (filter : Filter) (parameters : Parameters) : Except StoreFault Bool :=
  (db.matching filter parameters).map fun (_, rows) => !rows.isEmpty

end Database

end EntityStore

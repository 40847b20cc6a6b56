import EntityStore.Statement
import EntityStore.Name
import EntityStore.Fault.Store
/-!
# Tables

A table is a definition and rows.  Every row has an integer key, and the rows stand in
increasing order of their keys.  If a column is the integer primary key it shows the key of the
row; otherwise the key is hidden.

This module has the parts that statements are made of:

* reading a column of a row by name, and the rows that meet conditions (section 2);
* the key that the store chooses for a new row, which it may have to guess (section 3);
* the checks that a row has to pass (section 4);
* putting a row into the table and taking it out (section 5).
-/

namespace EntityStore

/-! ## 1. Rows and tables -/

/-- A row: its key, and a value for each column in the order of the definition. -/
structure Row where
  key : Int64
  values : List Value
  deriving DecidableEq, Repr

/-- A random number, which the store draws to guess a key. -/
abbrev Draw := Fin 0x4000000000000000

/-- The key that a random number stands for: they begin with one. -/
def Draw.key (d : Draw) : Int64 :=
  Int64.ofNat (d.val + 1)

/-- A table: its definition, its rows, the largest key that was ever inserted, and the random
numbers that the store is going to draw for it, before it draws nothing but zeros. -/
structure Table where
  definition : TableDefinition
  rows : List Row
  /-- At least every key that a row was ever inserted under, and never below zero.  It is only
  looked at in tables whose keys are never used again. -/
  lastKey : Int64
  /-- Nobody knows these numbers beforehand, so whatever is said of a table is said for any. -/
  draws : List Draw
  deriving DecidableEq, Repr

namespace Table

/-- The table of a definition, without rows. -/
def new (definition : TableDefinition) (draws : List Draw) : Table :=
  ⟨definition, [], 0, draws⟩

/-- The name of a table. -/
def name (t : Table) : String :=
  t.definition.name

/-- The columns of a table. -/
def columns (t : Table) : List Column :=
  t.definition.columns

/-! ## 2. Reading -/

/-- The place of the column with a name, ignoring case. -/
def columnIndex? (columns : List Column) (name : String) : Option Nat :=
  columns.findIdx? fun c => Name.same c.name name

/-- Names under which the key of a row can be read where no column has the name. -/
def keyNames : List String :=
  ["rowid", "oid", "_rowid_"]

/-- Whether a name is one of them, ignoring case. -/
def isKeyName (name : String) : Bool :=
  keyNames.any (Name.same name)

/-- The value that a name stands for in a row: that of the column, or the key of the row.  A
name that stands for nothing is taken for a text. -/
def read (columns : List Column) (row : Row) (name : String) : Value :=
  match columnIndex? columns name with
  | some i => (row.values[i]?).getD .null
  | none => if isKeyName name then .integer row.key else .text name

/-- Whether a name stands for the key of a row. -/
def isKey (columns : List Column) (name : String) : Bool :=
  match columns.find? fun c => Name.same c.name name with
  | some c => c.isRowKey
  | none => isKeyName name

/-- Whether a row holds a value under a name that matches a given one. -/
def holds (columns : List Column) (row : Row) (name : String) (given : Value) : Bool :=
  match columns.find? fun c => Name.same c.name name with
  | some c => c.matches? (read columns row name) given
  | none =>
    (if isKeyName name then Affinity.integer else .none).matches? (read columns row name) given

/-- Whether a row meets a condition. -/
def meets (columns : List Column) (parameters : Parameters) (row : Row) (s : Slot) : Bool :=
  holds columns row s.column (parameters.value s.parameter)

/-- Whether a row meets all conditions. -/
def meetsAll (columns : List Column) (conditions : List Slot) (parameters : Parameters)
    (row : Row) : Bool :=
  conditions.all (meets columns parameters row)

/-! ## 3. Keys -/

/-- The largest key that a row can have. -/
def maxKey : Int64 :=
  Int64.maxValue

/-- The key after `k`. -/
def nextKey (k : Int64) : Int64 :=
  Int64.ofInt (k.toInt + 1)

/-- The largest key in the table. -/
def largestKey? (t : Table) : Option Int64 :=
  t.rows.getLast?.map (·.key)

/-- Whether keys chosen by the store are never used again. -/
def isAutoincrement (t : Table) : Bool :=
  t.columns.any (·.autoincrement)

/-- The row with a key. -/
def row? (t : Table) (key : Int64) : Option Row :=
  t.rows.find? (·.key == key)

/-- How often the store guesses a key before it gives up. -/
def guesses : Nat :=
  100

/-- The numbers that are drawn for a key. -/
def drawn (t : Table) : List Draw :=
  (t.draws ++ List.replicate guesses 0).take guesses

/-- A key that no row has, found by guessing. -/
def guessKey (t : Table) : Except StoreFault Int64 :=
  match t.drawn.find? fun d => (t.row? d.key).isNone with
  | some d => .ok d.key
  | none => .error .full

/-- The key of a new row that comes without one: one more than the largest in the table, or
one if there is none; in a table that never uses keys again also more than every key that was
ever inserted.  Past the largest possible key there is none, and a table that uses keys again is
searched for a key that is free. -/
def chooseKey (t : Table) : Except StoreFault Int64 :=
  if t.largestKey? = some maxKey then
    if t.isAutoincrement then .error .full else t.guessKey
  else
    let next := (t.largestKey?.map nextKey).getD 1
    if t.isAutoincrement then
      if t.lastKey = maxKey then .error .full
      else if next ≤ t.lastKey then .ok (nextKey t.lastKey)
      else .ok next
    else .ok next

/-! ## 4. Checks -/

/-- The first column that holds nothing although it must not. -/
def missing? (columns : List Column) (values : List Value) : Option Column :=
  ((columns.zip values).find? fun (c, v) => c.notNull && !c.isRowKey && v == .null).map (·.1)

/-- Whether another row has the same value in the column at a place. -/
def occurs (t : Table) (row : Row) (i : Nat) : Bool :=
  t.rows.any fun other =>
    other.key != row.key && ((other.values[i]?).getD .null).equals ((row.values[i]?).getD .null)

/-- The last column that would hold a value twice. -/
def repeated? (t : Table) (row : Row) : Option Column :=
  ((t.columns.zipIdx.reverse.find? fun (c, i) => c.isDistinct && t.occurs row i)).map (·.1)

/-- The name of the column that shows the keys of the rows. -/
def keyColumn? (t : Table) : Option Column :=
  t.columns.find? (·.isRowKey)

/-! ## 5. Rows in and out -/

/-- Puts a row in its place among rows ordered by key. -/
def place (row : Row) : List Row → List Row
  | [] => [row]
  | other :: rest =>
    if row.key < other.key then row :: other :: rest else other :: place row rest

/-- The table after a key was given out. -/
def record (t : Table) (key : Int64) : Table :=
  { t with lastKey := max t.lastKey key }

/-- The table with a further row.  A number that was drawn for its key is not drawn again. -/
def add (t : Table) (row : Row) : Table :=
  { t with
    rows := place row t.rows
    lastKey := max t.lastKey row.key
    draws := t.draws.eraseP fun d => d.key == row.key }

/-- The table without the row with a key. -/
def remove (t : Table) (key : Int64) : Table :=
  { t with rows := t.rows.filter (·.key != key) }

/-- The table with other values in the row with a key. -/
def replace (t : Table) (key : Int64) (values : List Value) : Table :=
  { t with rows := t.rows.map fun row => if row.key == key then ⟨key, values⟩ else row }

end Table

end EntityStore

import EntityStore.Store.Database
/-!
# References between tables

A column may refer to a column of another table: each value it holds, apart from `null`, has to
occur there.  A row whose value does not occur is an orphan.  Statements and transactions are
judged by how many orphans they add, so that orphans from a time when references were not
enforced do not stand in the way.
-/

namespace EntityStore.Database

/-- The references of a table, each with the name of the column that refers. -/
def references (t : Table) : List (String × Reference) :=
  t.columns.filterMap fun c => c.reference.map fun r => (c.name, r)

/-- The column that a reference leads to.  It has to be the key of its table or unique. -/
def referent (db : Database) (t : Table) (r : Reference) : Except StoreFault (Table × Column) :=
  match db.table? r.table with
  | none =>
    if (db.view? r.table).isSome then .error (.foreignKeyMismatch t.name r.table)
    else .error (.noSuchTable ("main." ++ r.table))
  | some parent =>
    match parent.columns.find? fun c => Name.same c.name r.column && (c.primaryKey || c.unique) with
    | none => .error (.foreignKeyMismatch t.name r.table)
    | some column => .ok (parent, column)

/-- Whether columns of a table can be written to: their references lead to tables and columns. -/
def checkReferences (db : Database) (t : Table) (touches : String → Bool) :
    Except StoreFault Unit :=
  match ((references t).filter fun (column, _) => touches column).findSome? fun (_, r) =>
    match db.referent t r with
    | .error fault => some fault
    | .ok _ => none with
  | some fault => .error fault
  | none => .ok ()

/-- Whether a value occurs in the column that a reference leads to. -/
def leadsSomewhere (db : Database) (t : Table) (r : Reference) (value : Value) : Bool :=
  match db.referent t r with
  | .error _ => false
  | .ok (parent, column) =>
    parent.rows.any fun row =>
      column.matches? (Table.read parent.columns row column.name) value

/-- Whether a row's value in a referring column leads nowhere. -/
def isOrphan (db : Database) (t : Table) (column : String) (r : Reference) (row : Row) : Bool :=
  let value := Table.read t.columns row column
  value != .null && !db.leadsSomewhere t r value

/-- How many orphans a table has, by its references of one sort. -/
def orphansIn (db : Database) (deferred : Bool) (t : Table) : Nat :=
  ((references t).filter fun (_, r) => r.deferred == deferred).foldl
    (fun n (column, r) => n + t.rows.countP (db.isOrphan t column r)) 0

/-- How many orphans there are, by the references of one sort. -/
def orphans (db : Database) (deferred : Bool) : Nat :=
  db.tables.foldl (fun n t => n + db.orphansIn deferred t) 0

end EntityStore.Database

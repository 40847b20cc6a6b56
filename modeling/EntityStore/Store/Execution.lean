import EntityStore.Store.Reference
/-!
# Running statements

How a statement changes a database.  A statement either is done, or it fails and leaves some
database behind (`Conflict` says which), or it fails and ends the transaction it is part of.

A change is judged in two steps.  `check` looks at the names in the statement; what it finds
does not depend on any row.  `runOn` then goes through the rows one by one, in the order of their
keys, and stops at the first that cannot be changed.
-/

namespace EntityStore

/-- How a statement ended. -/
inductive Outcome where
  /-- The database after the statement, how many rows it changed, and the key of the row that it
  added, if it did. -/
  | done (db : Database) (changed : Nat) (key : Option Int64)
  /-- The statement failed and leaves this database behind. -/
  | failed (fault : StoreFault) (db : Database)
  /-- The statement failed and the transaction is over. -/
  | ended (fault : StoreFault)
  deriving Repr

/-- Why a row is not changed. -/
inductive Halt where
  /-- It must not be, and the statement ends. -/
  | refused (fault : StoreFault) (conflict : Conflict)
  /-- It is passed over, and the statement goes on with this table. -/
  | passed (t : Table)
  deriving DecidableEq, Repr

/-- A fault that undoes the whole statement. -/
def Halt.abort (fault : StoreFault) : Halt :=
  .refused fault .abort

namespace Table

/-- What becomes of a row that would hold a value of a column twice.  The table is the one without
the row. -/
def repetition (t : Table) (c : Column) : Halt :=
  if c.ignoresRepeats then .passed t else .abort (.notUnique t.name c.name)

/-- Checks the values of a row against those of the other rows. -/
def checkRow (t : Table) (row : Row) : Except Halt Unit :=
  match missing? t.columns row.values with
  | some c => .error (.abort (.notNull t.name c.name))
  | none =>
    match t.repeated? row with
    | some c => .error (t.repetition c)
    | none => .ok ()

end Table

namespace Database

/-! ## 1. Names -/

/-- The table that a statement may write to. -/
def writable (db : Database) (name : String) : Except StoreFault Table :=
  match db.table? name with
  | some t => .ok t
  | none =>
    match db.view? name with
    | some view => .error (.readOnlyView view.name)
    | none => .error (.noSuchTable name)

/-- What is wrong with the first column of a statement that the statement cannot give a value to:
the table does not have it, or it is generated. -/
def wrongColumn? (t : Table) (unknown generated : String → StoreFault) (slots : List Slot) :
    Option StoreFault :=
  slots.findSome? fun s =>
    match t.columns.find? fun c => Name.same c.name s.column with
    | none => some (unknown s.column)
    | some c => if c.isPlain then none else some (generated c.name)

/-- The table that a change writes to, if the change can give values to all the columns that it
gives values to. -/
def checkNames (db : Database) : Change → Except StoreFault Table
  | .insert name values =>
    match db.writable name with
    | .error fault => .error fault
    | .ok t =>
      match wrongColumn? t (.noColumnNamed name) .insertedGenerated values with
      | some fault => .error fault
      | none => .ok t
  | .update filter values =>
    match db.writable filter.table with
    | .error fault => .error fault
    | .ok t =>
      match wrongColumn? t .noSuchColumn .updatedGenerated values with
      | some fault => .error fault
      | none => .ok t
  | .delete filter => db.writable filter.table

/-- What a change does to rows. -/
def eventOf : Change → RowEvent
  | .insert .. => .insert
  | .update .. => .update
  | .delete .. => .delete

/-- Whether a change can give a column another value. -/
def touches (change : Change) (column : String) : Bool :=
  match change with
  | .update _ values => values.any fun s => Name.same s.column column
  | _ => true

/-- The first column that a guard of a table watches and the table does not have. -/
def unknownGuarded? (db : Database) (event : RowEvent) (t : Table) : Option String :=
  (db.guards.find? fun g => g.event = event && Name.same g.table t.name &&
    (Table.columnIndex? t.columns g.column).isNone && !Table.isKeyName g.column).map fun g =>
      event.rowLabel ++ "." ++ g.column

/-- The table that a change writes to, once all names in the change are known.  References are
looked at only where they are enforced. -/
def check (db : Database) (enforce : Bool) (change : Change) : Except StoreFault Table :=
  match db.checkNames change with
  | .error fault => .error fault
  | .ok t =>
    match db.unknownGuarded? (eventOf change) t with
    | some name => .error (.noSuchColumn name)
    | none =>
      if enforce then
        match db.checkReferences t (touches change) with
        | .error fault => .error fault
        | .ok () => .ok t
      else .ok t

/-! ## 2. Single rows -/

/-- Asks the guards of a table whether a row may be changed. -/
def ask (db : Database) (event : RowEvent) (t : Table) (row : Row) : Except Halt Unit :=
  match db.guards.find? fun g => g.refuses event t.name t.columns row with
  | some g => .error (.refused (.raised g.message) g.conflict)
  | none => .ok ()

/-- The value that a statement gives to a column, if it gives one. -/
def given? (parameters : Parameters) (values : List Slot) (c : Column) : Option Value :=
  (values.find? fun s => Name.same s.column c.name).map fun s =>
    c.affinity.store (parameters.value s.parameter)

/-- The key that a value stands for, if it stands for one. -/
def keyOf (value : Value) : Except Halt (Option Int64) :=
  match value with
  | .null => .ok none
  | .integer key => .ok (some key)
  | _ => .error (.abort .datatypeMismatch)

/-- The key that a statement gives to a new row. -/
def givenKey (t : Table) (values : List Value) : Except Halt (Option Int64) :=
  match t.columns.findIdx? (·.isRowKey) with
  | none => .ok none
  | some i => keyOf ((values[i]?).getD .null)

/-- The values of a row with the key shown in its column. -/
def showKey (columns : List Column) (key : Int64) (values : List Value) : List Value :=
  (columns.zip values).map fun (c, v) => if c.isRowKey then .integer key else v

/-- Checks a new row and adds it.  The key of a row that is passed over is given out all the
same. -/
def addRow (t : Table) (row : Row) : Except Halt Table :=
  match Table.missing? t.columns row.values with
  | some c => .error (.abort (.notNull t.name c.name))
  | none =>
    match t.row? row.key with
    | some _ =>
      .error (.abort (.notUnique t.name ((t.keyColumn?.map (·.name)).getD "rowid")))
    | none =>
      match t.repeated? row with
      | some c => .error ((t.record row.key).repetition c)
      | none => .ok (t.add row)

/-- Whether an insertion can be undone without ending the transaction it is part of, should the
store run out of keys: if guards watch for it, and something about it may be refused. -/
def isUndoable (db : Database) (t : Table) : Bool :=
  let watching := db.guards.filter fun g => g.event = .insert && Name.same g.table t.name
  !watching.isEmpty &&
    (watching.any (·.conflict = .abort) ||
      t.columns.any fun c => (c.notNull && !c.isRowKey) || (c.isDistinct && !c.ignoresRepeats))

/-- The key that a new row gets: the given one, or one that the store chooses. -/
def chosenKey (db : Database) (t : Table) : Option Int64 → Except Halt Int64
  | some key => .ok key
  | none => t.chooseKey.mapError fun fault =>
    .refused fault (if db.isUndoable t then .abort else .rollback)

/-- Adds a row with the given values; columns without a value hold nothing, unless they are
generated.  A guard sees the key `-1` in a row whose key is not chosen yet. -/
def insertRow (db : Database) (t : Table) (parameters : Parameters) (slots : List Slot) :
    Except Halt (Table × Int64) :=
  let values := t.columns.map fun c => (given? parameters slots c).getD c.initial
  match givenKey t values with
  | .error halt => .error halt
  | .ok key? =>
    match db.ask .insert t ⟨key?.getD (-1), showKey t.columns (key?.getD (-1)) values⟩ with
    | .error halt => .error halt
    | .ok () =>
      match db.chosenKey t key? with
      | .error halt => .error halt
      | .ok key =>
        match addRow t ⟨key, showKey t.columns key values⟩ with
        | .error halt => .error halt
        | .ok t' => .ok (t', key)

/-- The key of a row that shows the given values. -/
def shownKey (t : Table) (row : Row) (values : List Value) : Except Halt Int64 :=
  match givenKey t values with
  | .error halt => .error halt
  | .ok none =>
    if (t.columns.find? (·.isRowKey)).isSome then .error (.abort .datatypeMismatch) else .ok row.key
  | .ok (some key) => .ok key

/-- Checks a row whose key has changed and puts it in the place of the old one.  The table
remembers the keys of rows that were inserted, and this one was not. -/
def moveRow (t : Table) (old : Int64) (row : Row) : Except Halt Table :=
  match addRow (t.remove old) row with
  | .error (.passed _) => .error (.passed t)
  | .error halt => .error halt
  | .ok moved => .ok { moved with lastKey := t.lastKey }

/-- Gives other values to a row. -/
def updateRow (db : Database) (parameters : Parameters) (slots : List Slot) (t : Table)
    (row : Row) : Except Halt Table :=
  let values := (t.columns.zip row.values).map fun (c, v) => (given? parameters slots c).getD v
  match shownKey t row values with
  | .error halt => .error halt
  | .ok key =>
    match db.ask .update t ⟨key, values⟩ with
    | .error halt => .error halt
    | .ok () =>
      if key = row.key then
        match t.checkRow ⟨key, values⟩ with
        | .error halt => .error halt
        | .ok () => .ok (t.replace key values)
      else moveRow t row.key ⟨key, values⟩

/-- Takes a row out. -/
def deleteRow (db : Database) (t : Table) (row : Row) : Except Halt Table :=
  match db.ask .delete t row with
  | .error halt => .error halt
  | .ok () => .ok (t.remove row.key)

/-! ## 3. Whole statements -/

/-- Changes rows one after another, up to the first that must not be changed.  The result is the
table, how many rows were changed, and what stopped it. -/
def changeRows (step : Table → Row → Except Halt Table) :
    List Row → Table → Table × Nat × Option Halt
  | [], t => (t, 0, none)
  | row :: rest, t =>
    match step t row with
    | .error (.passed t') => changeRows step rest t'
    | .error halt => (t, 0, some halt)
    | .ok t' =>
      let (last, changed, halt) := changeRows step rest t'
      (last, changed + 1, halt)

/-- How a statement ends that got as far as a table. -/
def settle (db : Database) (t : Table) (changed : Nat) (key : Option Int64) :
    Option Halt → Outcome
  | none => .done (db.put t) changed key
  | some (.passed t') => .done (db.put t') changed key
  | some (.refused fault .abort) => .failed fault db
  | some (.refused fault .fail) => .failed fault (db.put t)
  | some (.refused fault .rollback) => .ended fault

/-- The rows of a table that a change is about. -/
def targets (t : Table) (filter : Filter) (parameters : Parameters) : List Row :=
  t.rows.filter (Table.meetsAll t.columns filter.conditions parameters)

/-- Changes the rows of a table. -/
def apply (db : Database) (t : Table) (change : Change) (parameters : Parameters) : Outcome :=
  match change with
  | .insert _ values =>
    match db.insertRow t parameters values with
    | .ok (t', key) => db.settle t' 1 (some key) none
    | .error halt => db.settle t 0 none (some halt)
  | .update filter values =>
    let (t', changed, halt) :=
      changeRows (db.updateRow parameters values) (targets t filter parameters) t
    db.settle t' changed none halt
  | .delete filter =>
    let (t', changed, halt) := changeRows db.deleteRow (targets t filter parameters) t
    db.settle t' changed none halt

/-- A statement that adds orphans to a reference that is not deferred fails. -/
def enforceReferences (before : Database) : Outcome → Outcome
  | .done after changed key =>
    if before.orphans false < after.orphans false then .failed .foreignKey before
    else .done after changed key
  | outcome => outcome

/-- Runs a change on the table that `check` found for it. -/
def runOn (db : Database) (t : Table) (enforce : Bool) (change : Change)
    (parameters : Parameters) : Outcome :=
  let outcome := db.apply t change parameters
  if enforce then db.enforceReferences outcome else outcome

/-- The key of the row that an insertion has added when a reference makes it fail.  References that
are not deferred are looked at before the row is added, unless guards watch the insertion. -/
def withdrawnKey? (db : Database) (t : Table) (change : Change) (parameters : Parameters) :
    Option Int64 :=
  match db.apply t change parameters with
  | .done after _ key =>
    let watched := db.guards.any fun g => g.event = .insert && Name.same g.table t.name
    if db.orphans false < after.orphans false && !watched then none else key
  | _ => none

/-! ## 4. Tables, views and guards -/

/-- A name that the store keeps for itself. -/
def isReserved (name : String) : Bool :=
  "sqlite_".toList.isPrefixOf (Name.fold name)

/-- Whether a table or view has a name. -/
def isTaken (db : Database) (name : String) : Bool :=
  (db.table? name).isSome || (db.view? name).isSome

/-- The fault of creating something under a name that is taken. -/
def taken (db : Database) (name : String) : StoreFault :=
  .alreadyExists (if (db.view? name).isSome then .view else .table) name

/-- A change of the tables, views or guards themselves. -/
inductive Alteration where
  | createTable (definition : TableDefinition) (unlessTaken : Bool)
  | dropTable (name : String)
  | createView (view : View)
  | createGuard (guard : Guard)
  deriving Repr

/-- The database with a new table. -/
def withTable (db : Database) (definition : TableDefinition) : Database :=
  { db with
    tables := db.tables ++ [.new definition db.draws]
    sequenced := db.sequenced || definition.columns.any (·.autoincrement) }

/-- Creates a table under a name that is free. -/
def createTable (db : Database) (definition : TableDefinition) (unlessTaken : Bool) :
    Except StoreFault Database :=
  if isReserved definition.name then .error (.reservedName definition.name)
  else if db.isTaken definition.name then
    if unlessTaken then .ok db else .error (db.taken definition.name)
  else .ok (db.withTable definition)

/-- The database without a table, and without the guards that watch it. -/
def dropTable (db : Database) (name : String) : Except StoreFault Database :=
  match db.writable name with
  | .error (.readOnlyView view) => .error (.isView view)
  | .error fault => .error fault
  | .ok _ =>
    .ok { db with
      tables := db.tables.filter fun t => !Name.same t.name name
      guards := db.guards.filter fun g => !Name.same g.table name }

/-- The database after an alteration. -/
def alter (db : Database) : Alteration → Except StoreFault Database
  | .createTable definition unlessTaken => db.createTable definition unlessTaken
  | .dropTable name => db.dropTable name
  | .createView view =>
    if isReserved view.name then .error (.reservedName view.name)
    else if db.isTaken view.name then .error (db.taken view.name)
    else .ok { db with views := db.views ++ [view] }
  | .createGuard guard =>
    match db.writable guard.table with
    | .error (.readOnlyView view) => .error (.guardOnView view)
    | .error _ => .error (.noSuchTable ("main." ++ guard.table))
    | .ok _ =>
      if db.guards.any fun g => Name.same g.name guard.name then
        .error (.alreadyExists .guard guard.name)
      else .ok { db with guards := guard :: db.guards }

end Database

end EntityStore

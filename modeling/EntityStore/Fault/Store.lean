/-!
# Faults of the store

The reasons for which the store refuses a statement, a transaction or an opening, each with its
message.  `StoreFault.message` is the only place where their wording is fixed.
-/

namespace EntityStore

/-- The kinds of values, as they are named in messages. -/
inductive ValueClass where
  | null
  | integer
  | real
  | text
  | blob
  deriving DecidableEq, Repr

/-- The name of a kind of value. -/
def ValueClass.label : ValueClass → String
  | .null => "Null"
  | .integer => "Integer"
  | .real => "Real"
  | .text => "Text"
  | .blob => "Blob"

/-- The things in a store that have names. -/
inductive NamedThing where
  | table
  | view
  | guard
  deriving DecidableEq, Repr

/-- The name of a kind of named thing. -/
def NamedThing.label : NamedThing → String
  | .table => "table"
  | .view => "view"
  | .guard => "trigger"

/-- Why the store refuses. -/
inductive StoreFault where
  /-- There is no table or view of that name. -/
  | noSuchTable (name : String)
  /-- An assigned column does not exist. -/
  | noSuchColumn (name : String)
  /-- An inserted column does not exist. -/
  | noColumnNamed (table column : String)
  /-- A generated column was given a value in a new row. -/
  | insertedGenerated (column : String)
  /-- A generated column was given another value. -/
  | updatedGenerated (column : String)
  /-- A view cannot be written to. -/
  | readOnlyView (name : String)
  /-- Names that begin with `sqlite_` are not for tables. -/
  | reservedName (name : String)
  /-- Something of that name exists already. -/
  | alreadyExists (thing : NamedThing) (name : String)
  /-- A table was to be dropped, but the name is that of a view. -/
  | isView (name : String)
  /-- A guard cannot watch a view. -/
  | guardOnView (name : String)
  /-- The key of a row has to be an integer. -/
  | datatypeMismatch
  /-- No key is left that is larger than all that were used, nor was one found that is free. -/
  | full
  /-- A column that must hold something would hold nothing. -/
  | notNull (table column : String)
  /-- A column would hold a value twice. -/
  | notUnique (table column : String)
  /-- A reference would lead nowhere. -/
  | foreignKey
  /-- A reference does not lead to a column that is unique. -/
  | foreignKeyMismatch (child parent : String)
  /-- A guard raised its message. -/
  | raised (message : String)
  /-- A transaction was begun inside a transaction. -/
  | nestedTransaction
  /-- There is no transaction to commit. -/
  | nothingToCommit
  /-- There is no transaction to roll back. -/
  | nothingToRollBack
  /-- Another session is writing to the shared store. -/
  | storeLocked
  /-- Another session has written to this table of the shared store. -/
  | tableLocked (table : String)
  /-- Another session has changed the tables of the shared store. -/
  | schemaLocked
  /-- Another session is writing to the file. -/
  | databaseLocked
  /-- The file is not a database. -/
  | notADatabase
  /-- The file cannot be opened or created. -/
  | cannotOpen (path : String)
  /-- A path must not hold a zero character. -/
  | zeroInPath (position : Nat)
  /-- A column holds a value that the reader of the row does not take. -/
  | columnType (found : ValueClass) (index : Nat) (name : String)
  /-- A row has no column of that name. -/
  | columnName (name : String)
  /-- A query that must give a row gave none. -/
  | noRows
  /-- A query that must only read also writes. -/
  | notReadOnly
  deriving DecidableEq, Repr

namespace StoreFault

/-- The message of a fault. -/
def message : StoreFault → String
  | .noSuchTable name => s!"no such table: {name}"
  | .noSuchColumn name => s!"no such column: {name}"
  | .noColumnNamed table column => s!"table {table} has no column named {column}"
  | .insertedGenerated column => s!"cannot INSERT into generated column \"{column}\""
  | .updatedGenerated column => s!"cannot UPDATE generated column \"{column}\""
  | .readOnlyView name => s!"cannot modify {name} because it is a view"
  | .reservedName name => s!"object name reserved for internal use: {name}"
  | .alreadyExists thing name => s!"{thing.label} \"{name}\" already exists"
  | .isView name => s!"use DROP VIEW to delete view {name}"
  | .guardOnView name => s!"cannot create BEFORE trigger on view: {name}"
  | .datatypeMismatch => "datatype mismatch"
  | .full => "database or disk is full"
  | .notNull table column => s!"NOT NULL constraint failed: {table}.{column}"
  | .notUnique table column => s!"UNIQUE constraint failed: {table}.{column}"
  | .foreignKey => "FOREIGN KEY constraint failed"
  | .foreignKeyMismatch child parent =>
    s!"foreign key mismatch - \"{child}\" referencing \"{parent}\""
  | .raised message => message
  | .nestedTransaction => "cannot start a transaction within a transaction"
  | .nothingToCommit => "cannot commit - no transaction is active"
  | .nothingToRollBack => "cannot rollback - no transaction is active"
  | .storeLocked => "database table is locked"
  | .tableLocked table => s!"database table is locked: {table}"
  | .schemaLocked => "database schema is locked: main"
  | .databaseLocked => "database is locked"
  | .notADatabase => "file is not a database"
  | .cannotOpen path => s!"unable to open database file: {path}"
  | .zeroInPath position => s!"nul byte found in provided data at position: {position}"
  | .columnType found index name =>
    s!"Invalid column type {found.label} at index: {index}, name: {name}"
  | .columnName name => s!"Invalid column name: {name}"
  | .noRows => "Query returned no rows"
  | .notReadOnly => "Query is not read-only"

end StoreFault

end EntityStore

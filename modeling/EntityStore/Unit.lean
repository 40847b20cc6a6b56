import EntityStore.Path
import EntityStore.Text.Blank
import EntityStore.Text.Hex
import EntityStore.Fault.Repository
/-!
# Persistence units

A persistence unit names a place for tables and says how sessions on it are opened: where the
tables live, how long to wait for a lock, whether references are enforced, and what a repository
does about its table.
-/

namespace EntityStore

/-- Where tables live. -/
inductive Storage where
  /-- In memory, anew for each session. -/
  | memory
  /-- In memory, the same for all sessions of the unit that are open together. -/
  | sharedMemory
  /-- In a file. -/
  | file (path : String)
  deriving DecidableEq, Repr

namespace Storage

/-- The name of a storage in units and records. -/
def label : Storage → String
  | .memory => "memory"
  | .sharedMemory => "shared_memory"
  | .file _ => "file"

/-- Whether two storages are the same place. -/
def same : Storage → Storage → Bool
  | .memory, .memory => true
  | .sharedMemory, .sharedMemory => true
  | .file a, .file b => Path.same a b
  | _, _ => false

end Storage

/-- What a repository does about its table when it is opened. -/
inductive SchemaMode where
  | create
  | validate
  | none
  deriving DecidableEq, Repr

/-- The name of a schema mode. -/
def SchemaMode.label : SchemaMode → String
  | .create => "create"
  | .validate => "validate"
  | .none => "none"

/-- A named place for tables, and how sessions on it are opened. -/
structure PersistenceUnit where
  name : String
  storage : Storage
  busyTimeout : Nat
  foreignKeys : Bool
  schemaMode : SchemaMode
  deriving DecidableEq, Repr

namespace PersistenceUnit

/-! ## 1. Settings -/

/-- The largest timeout, in milliseconds, that a unit can hold. -/
def maxTimeout : Nat :=
  UInt64.size - 1

/-- The timeout of a unit, in milliseconds, unless it says otherwise. -/
def defaultTimeout : Nat :=
  5000

/-- A unit with the usual settings. -/
def new (name : String) (storage : Storage) : PersistenceUnit :=
  ⟨name, storage, defaultTimeout, true, .create⟩

/-- The unit with another timeout: whole milliseconds, up to the largest. -/
def withBusyTimeout (u : PersistenceUnit) (seconds nanoseconds : Nat) : PersistenceUnit :=
  { u with busyTimeout := min (1000 * seconds + nanoseconds / 1000000) maxTimeout }

/-- The name of the unit that is there without being registered. -/
def defaultName : String :=
  "mimic-repo"

/-- The unit that is there without being registered. -/
def default : PersistenceUnit :=
  new defaultName .sharedMemory

/-- Whether two units have the same name and settings. -/
def same (a b : PersistenceUnit) : Bool :=
  a.name == b.name && a.storage.same b.storage && a.busyTimeout == b.busyTimeout &&
    a.foreignKeys == b.foreignKeys && a.schemaMode == b.schemaMode

/-! ## 2. Checks -/

/-- The characters that a unit's name is made of. -/
def isNameChar (c : Char) : Bool :=
  c.isAlphanum || c = '-' || c = '_' || c = '.'

/-- What is wrong with a unit, if anything is. -/
def defect? (u : PersistenceUnit) : Option String :=
  if u.name.toList.all isBlank then some "name cannot be empty"
  else if !u.name.toList.all isNameChar then
    some "name may only contain ASCII letters, digits, `-`, `_` and `.`"
  else if u.storage = .file "" then some "file storage path cannot be empty"
  else none

/-- Checks a unit. -/
def validate (u : PersistenceUnit) : Except SessionFault Unit :=
  match u.defect? with
  | some reason => .error (.invalidUnit u.name reason)
  | none => .ok ()

/-! ## 3. The address of shared memory -/

/-- The address under which the sessions of a unit find their shared memory.  The name stands in
it byte by byte, so that different units never share. -/
def sharedAddress (u : PersistenceUnit) : String :=
  "file:mimic-unit-" ++ String.ofList (u.name.toUTF8.toList.flatMap hexByte) ++
    "?mode=memory&cache=shared"

end PersistenceUnit

end EntityStore

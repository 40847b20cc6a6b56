import EntityStore.Store
import EntityStore.Executor
import EntityStore.Mapping
/-!
# Sessions

What a session does with the store it is open on: it controls transactions, adds, replaces,
removes and finds entities, and prepares their tables.  Each operation takes the store and gives
it back together with the result.

A session remembers the key of the row that it added last.  No transaction touches this memory: a
row that is rolled back was added all the same.  Operations that may add a row take the store
together with the key (`Connection`).
-/

namespace EntityStore

/-- A store, and the key that a session on it remembers. -/
structure Connection where
  store : Store
  lastKey : Int64

/-- What comes out of a step on the store alone. -/
def Connection.after {α : Type} (c : Connection) (answer : Except SessionFault α × Store) :
    Except SessionFault α × Connection :=
  (answer.1, { c with store := answer.2 })

namespace Session

variable {E α : Type}

/-! ## 1. Transactions -/

/-- A result of the store, as one of the session. -/
def lift (answer : Except StoreFault α × Store) : Except SessionFault α × Store :=
  (answer.1.mapError .store, answer.2)

/-- Opens a transaction. -/
def begin (s : Session) (st : Store) : Except SessionFault Unit × Store :=
  lift (st.begin s)

/-- Commits the open transaction. -/
def commit (s : Session) (st : Store) : Except SessionFault Unit × Store :=
  lift (st.commit s)

/-- Drops the open transaction. -/
def rollback (s : Session) (st : Store) : Except SessionFault Unit × Store :=
  lift (st.rollback s)

/-- Whether the session is inside a transaction. -/
def isActive (s : Session) (st : Store) : Bool :=
  st.isActive s

/-- The session as a control of transactions on its store. -/
def control (s : Session) : Control Store :=
  ⟨s.begin, s.commit, s.rollback, s.isActive⟩

/-- The same control where the remembered key stands beside the store. -/
def connection (s : Session) : Control Connection where
  begin c := c.after (s.begin c.store)
  commit c := c.after (s.commit c.store)
  rollback c := c.after (s.rollback c.store)
  isActive c := s.isActive c.store

/-! ## 2. Queries and changes -/

/-- Reads each row of a result, up to the first that cannot be read. -/
def decode (fromRow : ResultRow → Except StoreFault E) :
    List ResultRow → Except StoreFault (List E)
  | [] => .ok []
  | row :: rest =>
    match fromRow row with
    | .error fault => .error fault
    | .ok entity =>
      match decode fromRow rest with
      | .error fault => .error fault
      | .ok entities => .ok (entity :: entities)

/-- The entities in the rows of a selection. -/
def queryRows (s : Session) (st : Store) (selection : Selection) (parameters : Parameters)
    (fromRow : ResultRow → Except StoreFault E) : Except SessionFault (List E) :=
  match st.read s selection.table (·.select selection parameters) with
  | .error fault => .error (.store fault)
  | .ok rows => (decode fromRow rows).mapError .store

/-- How many rows a filter lets through. -/
def count (s : Session) (st : Store) (filter : Filter) (parameters : Parameters) :
    Except SessionFault Nat :=
  (st.read s filter.table (·.count filter parameters)).mapError .store

/-- Runs a change; the result is how many rows were changed.  The session remembers the key of the
row that was added, or else the one that it remembered before. -/
def execute (s : Session) (c : Connection) (change : Change) (parameters : Parameters) :
    Except SessionFault Nat × Connection :=
  let (answer, st) := c.store.execute s change parameters
  ((answer.mapError .store).map (·.changed),
    ⟨st, (c.store.addedKey? s change parameters answer).getD c.lastKey⟩)

/-! ## 3. Entities -/

/-- Adds an entity as a new row.  If the entity has no identifier yet, the result is the key that
the session remembers then. -/
def persist (s : Session) (m : Metadata E) (entity : E) (c : Connection) :
    Except SessionFault (Option Int64) × Connection :=
  let withIdentifier := !(m.identifierValue entity).isAbsentIdentifier
  let (answer, c) :=
    s.execute c (m.insertion withIdentifier) (m.attributeValues entity withIdentifier)
  (answer.map fun _ => if withIdentifier then none else some c.lastKey, c)

/-- Replaces the values of the row with the entity's identifier. -/
def merge (s : Session) (m : Metadata E) (entity : E) (c : Connection) :
    Except SessionFault Nat × Connection :=
  match m.replacement? with
  | none => (.ok 0, c)
  | some change => s.execute c change (m.attributeValues entity true)

/-- Removes the row with an identifier. -/
def remove (s : Session) (m : Metadata E) (identifier : Value) (c : Connection) :
    Except SessionFault Nat × Connection :=
  s.execute c (.delete m.sought) (Metadata.soughtValue identifier)

/-- The entity in the first row with an identifier. -/
def find (s : Session) (t : EntityType E) (m : Metadata E) (identifier : Value) (st : Store) :
    Except SessionFault (Option E) :=
  (s.queryRows st m.lookup (Metadata.soughtValue identifier) t.fromRow).map (·.head?)

/-- Whether there is a row with an identifier. -/
def contains (s : Session) (m : Metadata E) (identifier : Value) (st : Store) :
    Except SessionFault Bool :=
  (st.read s m.table (·.contains m.sought (Metadata.soughtValue identifier))).mapError .store

/-! ## 4. Tables -/

/-- Alters the tables, views or guards. -/
def alter (s : Session) (st : Store) (alteration : Database.Alteration) :
    Except SessionFault Unit × Store :=
  lift (st.alter s alteration)

/-- Checks that a table is there under exactly its name, and that each column is listed under
its. -/
def validate (m : Metadata E) (db : Database) : Except SchemaFault Unit :=
  match db.catalogue.find? (·.name == m.table) with
  | none => .error (.missingTable m.table)
  | some definition =>
    match m.attributes.find? fun a => !definition.listed.any (·.name == a.column) with
    | some a => .error (.missingColumn m.table a.column)
    | none => .ok ()

/-- Does what a schema mode asks for about the table of an entity: creates it unless it exists,
checks it, or nothing.  An existing table is never changed. -/
def prepare (s : Session) (m : Metadata E) (mode : SchemaMode) (st : Store) : Reply Store Unit :=
  match mode with
  | .create =>
    match s.alter st (.createTable m.tableDefinition true) with
    | (.error source, st) => ⟨.error (.session source), st, []⟩
    | (.ok (), st) => ⟨.ok (), st, [.tablePrepared m.entity m.table]⟩
  | .validate =>
    match st.readDefinitions s fun db => .ok (validate m db) with
    | .error fault => ⟨.error (.session (.store fault)), st, []⟩
    | .ok checked => ⟨checked.mapError (.initialization m.entity), st, []⟩
  | .none => ⟨.ok (), st, []⟩

end Session

end EntityStore

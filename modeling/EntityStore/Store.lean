import EntityStore.Store.Execution
import EntityStore.Unit
/-!
# Stores and transactions

A store is a committed database and at most one open transaction, which belongs to one session.
Inside its transaction a session sees and changes a database of its own; `commit` puts that in
the place of the committed one and `rollback` drops it.  A statement outside any transaction is
a transaction by itself.

While one session's transaction is open no other session can write.  Where the store is a file,
others read the committed database; where it is shared memory, they read any table that the
transaction has not written to.
-/

namespace EntityStore

/-! ## 1. Sessions and stores -/

/-- Where a store is kept. -/
inductive Place where
  /-- In memory, for one session alone. -/
  | own (session : Nat)
  /-- In memory, for all sessions that know the address. -/
  | shared (address : String)
  /-- In a file. -/
  | file (path : List Component)
  deriving DecidableEq, Repr

/-- Whether a store is in memory and open to several sessions. -/
def Place.isShared : Place → Bool
  | .shared _ => true
  | _ => false

/-- An open session: who it is, what unit it belongs to, where its store is, its settings, and what
it remembers. -/
structure Session where
  id : Nat
  unit : String
  schemaMode : SchemaMode
  place : Place
  foreignKeys : Bool
  busyTimeout : Nat
  /-- The key of the row that the session added last, zero if it has added none. -/
  lastKey : Int64
  deriving DecidableEq, Repr

/-- The session once it remembers a key. -/
def Session.remember (s : Session) (key : Int64) : Session :=
  { s with lastKey := key }

/-- An open transaction: the session it belongs to, the database that the session sees, how many
orphans it has added to deferred references, and what it has written to. -/
structure Transaction where
  owner : Nat
  content : Database
  owed : Nat
  written : List String
  altered : Bool
  deriving Repr

/-- A committed database and the open transaction, if there is one.  A file that is not a
database cannot be read. -/
structure Store where
  committed : Database
  writer : Option Transaction
  readable : Bool
  deriving Repr

namespace Store

/-- A store that holds nothing, and is going to draw these numbers. -/
def drawing (draws : List Draw) : Store :=
  ⟨.drawing draws, none, true⟩

/-- A store that holds nothing. -/
def empty : Store :=
  drawing []

/-- A file that is not a database. -/
def unreadable : Store :=
  ⟨.empty, none, false⟩

/-- The transaction of a session, if it has one open. -/
def own? (st : Store) (s : Session) : Option Transaction :=
  st.writer.filter fun t => t.owner == s.id

/-- The transaction of another session, if one has one open. -/
def other? (st : Store) (s : Session) : Option Transaction :=
  st.writer.filter fun t => t.owner != s.id

/-- Whether a session is inside a transaction. -/
def isActive (st : Store) (s : Session) : Bool :=
  (st.own? s).isSome

/-- What a session is told that cannot write because of another. -/
def lockFault (s : Session) : StoreFault :=
  if s.place.isShared then .storeLocked else .databaseLocked

/-- Why a session can run no statement, not even one about transactions: another session is
changing the tables of a shared store. -/
def barrier? (st : Store) (s : Session) : Option StoreFault :=
  match st.other? s with
  | some t => if s.place.isShared && t.altered then some .schemaLocked else none
  | none => none

/-- Why a session can run no statement about tables. -/
def refusal? (st : Store) (s : Session) : Option StoreFault :=
  if st.readable then st.barrier? s else some .notADatabase

/-! ## 2. Transactions -/

/-- Opens a transaction. -/
def begin (st : Store) (s : Session) : Except StoreFault Unit × Store :=
  match st.writer with
  | some t =>
    (.error ((st.barrier? s).getD (if t.owner = s.id then .nestedTransaction else lockFault s)), st)
  | none =>
    if st.readable then
      (.ok (), { st with writer := some ⟨s.id, st.committed, 0, [], false⟩ })
    else (.error .notADatabase, st)

/-- Commits the transaction of a session.  It stays open while it owes orphans. -/
def commit (st : Store) (s : Session) : Except StoreFault Unit × Store :=
  match st.own? s with
  | none => (.error ((st.barrier? s).getD .nothingToCommit), st)
  | some t =>
    if 0 < t.owed then (.error .foreignKey, st)
    else (.ok (), { st with committed := t.content, writer := none })

/-- Drops the transaction of a session. -/
def rollback (st : Store) (s : Session) : Except StoreFault Unit × Store :=
  match st.own? s with
  | none => (.error ((st.barrier? s).getD .nothingToRollBack), st)
  | some _ => (.ok (), { st with writer := none })

/-- What a session leaves behind that is closed: its transaction is dropped. -/
def leave (st : Store) (s : Session) : Store :=
  (st.rollback s).2

/-! ## 3. Reading -/

/-- The database that a session sees. -/
def seen (st : Store) (s : Session) : Database :=
  match st.own? s with
  | some t => t.content
  | none => st.committed

/-- Whether another session keeps a session from reading a table. -/
def readLock? (st : Store) (s : Session) (table : String) : Option StoreFault :=
  match st.other? s with
  | none => none
  | some t =>
    if s.place.isShared && t.written.any (Name.same table) then some (.tableLocked table) else none

/-- Reads the definitions of the database that a session sees, but no rows. -/
def readDefinitions {α : Type} (st : Store) (s : Session)
    (query : Database → Except StoreFault α) : Except StoreFault α :=
  match st.refusal? s with
  | some fault => .error fault
  | none => query (st.seen s)

/-- Reads a table of the database that a session sees. -/
def read {α : Type} (st : Store) (s : Session) (table : String)
    (query : Database → Except StoreFault α) : Except StoreFault α :=
  st.readDefinitions s fun db =>
    match st.readLock? s table with
    | some fault => .error fault
    | none => query db

/-! ## 4. Writing -/

/-- How many rows a statement changed, and the key of the row that it added, if it did. -/
structure Written where
  changed : Nat
  key : Option Int64
  deriving DecidableEq, Repr

/-- What a transaction owes after a statement. -/
def owedAfter (s : Session) (owed : Nat) (before after : Database) : Nat :=
  if s.foreignKeys then owed + after.orphans true - before.orphans true else owed

/-- The transaction after a statement that wrote to a table. -/
def advance (s : Session) (t : Transaction) (table : String) (after : Database) : Transaction :=
  { t with
    content := after
    owed := owedAfter s t.owed t.content after
    written := table :: t.written }

/-- The table that a change is about. -/
def target : Change → String
  | .insert table _ => table
  | .update filter _ => filter.table
  | .delete filter => filter.table

/-- Runs a change inside the session's own transaction. -/
def executeInside (st : Store) (s : Session) (t : Transaction) (change : Change)
    (parameters : Parameters) : Except StoreFault Written × Store :=
  match t.content.check s.foreignKeys change with
  | .error fault => (.error fault, st)
  | .ok table =>
    match t.content.runOn table s.foreignKeys change parameters with
    | .done db changed key =>
      (.ok ⟨changed, key⟩, { st with writer := some (advance s t (target change) db) })
    | .failed fault db =>
      (.error fault, { st with writer := some (advance s t (target change) db) })
    | .ended fault => (.error fault, { st with writer := none })

/-- Runs a change as a transaction by itself, unless another session is inside one. -/
def executeAlone (st : Store) (s : Session) (change : Change) (parameters : Parameters) :
    Except StoreFault Written × Store :=
  match st.committed.check s.foreignKeys change with
  | .error fault => (.error fault, st)
  | .ok table =>
    if st.writer.isSome then (.error (lockFault s), st)
    else
      match st.committed.runOn table s.foreignKeys change parameters with
      | .done db changed key =>
        if 0 < owedAfter s 0 st.committed db then (.error .foreignKey, st)
        else (.ok ⟨changed, key⟩, { st with committed := db })
      | .failed fault db => (.error fault, { st with committed := db })
      | .ended fault => (.error fault, st)

/-- Runs a change for a session. -/
def execute (st : Store) (s : Session) (change : Change) (parameters : Parameters) :
    Except StoreFault Written × Store :=
  match st.refusal? s with
  | some fault => (.error fault, st)
  | none =>
    match st.own? s with
    | some t => st.executeInside s t change parameters
    | none => st.executeAlone s change parameters

/-- The key of the row that a change has added for a session, if the change fails after that. -/
def withdrawnKey? (st : Store) (s : Session) (change : Change) (parameters : Parameters) :
    Option Int64 :=
  if (st.refusal? s).isSome || (st.other? s).isSome then none
  else
    match (st.seen s).check s.foreignKeys change with
    | .error _ => none
    | .ok table => (st.seen s).withdrawnKey? table change parameters

/-- The key of the row that a change has added, given how the change has ended.  A row that a
reference has taken out again was added all the same. -/
def addedKey? (st : Store) (s : Session) (change : Change) (parameters : Parameters) :
    Except StoreFault Written → Option Int64
  | .ok written => written.key
  | .error _ => st.withdrawnKey? s change parameters

/-! ## 5. Tables, views and guards -/

/-- Whether an alteration has nothing to do. -/
def isIdle (db : Database) : Database.Alteration → Bool
  | .createTable definition true => db.isTaken definition.name
  | _ => false

/-- Whether an alteration leaves orphans: a table may not be dropped that others refer to. -/
def leavesOrphans (s : Session) (before after : Database) : Bool :=
  s.foreignKeys && before.orphans false < after.orphans false

/-- Alters the tables, views or guards inside the session's own transaction.  An alteration that
fails because of orphans keeps other sessions out like one that is done. -/
def alterInside (st : Store) (s : Session) (t : Transaction) (alteration : Database.Alteration) :
    Except StoreFault Unit × Store :=
  match t.content.alter alteration with
  | .error fault => (.error fault, st)
  | .ok after =>
    if leavesOrphans s t.content after then
      (.error .foreignKey, { st with writer := some { t with altered := true } })
    else
      (.ok (), { st with
        writer := some { t with
          content := after
          owed := owedAfter s t.owed t.content after
          altered := t.altered || !isIdle t.content alteration } })

/-- Alters the tables, views or guards as a transaction by itself, unless another session is
inside one. -/
def alterAlone (st : Store) (s : Session) (alteration : Database.Alteration) :
    Except StoreFault Unit × Store :=
  match st.committed.alter alteration with
  | .error fault => (.error fault, st)
  | .ok after =>
    if isIdle st.committed alteration then (.ok (), st)
    else if st.writer.isSome then (.error (lockFault s), st)
    else if leavesOrphans s st.committed after || 0 < owedAfter s 0 st.committed after then
      (.error .foreignKey, st)
    else (.ok (), { st with committed := after })

/-- Alters the tables, views or guards for a session. -/
def alter (st : Store) (s : Session) (alteration : Database.Alteration) :
    Except StoreFault Unit × Store :=
  match st.refusal? s with
  | some fault => (.error fault, st)
  | none =>
    match st.own? s with
    | some t => st.alterInside s t alteration
    | none => st.alterAlone s alteration

end Store

end EntityStore

import EntityStore.Unit.Registry
import EntityStore.Repository
/-!
# The environment of sessions

An environment holds what all sessions of a program share: the registered units, the stores that
are open or lie in files, and the sessions themselves.  Opening a session finds the place of its
store, and closing it drops what nobody else can reach: a store of its own at once, a shared one
when the last of its sessions is closed.  Files stay.

The disk has directories, and files in them; how a file came to be there does not matter.
-/

namespace EntityStore

/-- Registered units, stores in their places, and open sessions. -/
structure Environment where
  units : UnitRegistry
  directories : List (List Component)
  stores : List (Place × Store)
  sessions : List Session
  nextId : Nat

/-- How an opening ended. -/
inductive Opening (ε α : Type) where
  | opened (value : α)
  | refused (fault : ε)
  /-- The settings cannot be applied at all, and the program is given up. -/
  | aborted

/-- What comes out of an opening: how it ended, the environment after it, and the events it
reported. -/
structure Opened (ε α : Type) where
  outcome : Opening ε α
  environment : Environment
  log : List Event

namespace Environment

variable {E : Type}

/-! ## 1. Stores and their places -/

/-- An environment in which nothing is open or registered. -/
def empty (directories : List (List Component)) : Environment :=
  ⟨.empty, directories, [], [], 0⟩

/-- The store in a place; one that was never written to holds nothing.  Which numbers it would draw
makes no difference to what is said of environments, and they are left at zero. -/
def storeAt (env : Environment) (place : Place) : Store :=
  (env.stores.lookup place).getD .empty

/-- The stores in other places. -/
def storesExcept (env : Environment) (place : Place) : List (Place × Store) :=
  env.stores.filter (·.1 != place)

/-- Puts a store in a place. -/
def put (env : Environment) (place : Place) (st : Store) : Environment :=
  { env with stores := (place, st) :: env.storesExcept place }

/-- The store that a session is open on. -/
def store (env : Environment) (s : Session) : Store :=
  env.storeAt s.place

/-- Writes a text into a file.  A text is no database, unless it is empty. -/
def writeFile (env : Environment) (path text : String) : Environment :=
  env.put (.file (Path.destination path)) (if text = "" then .empty else .unreadable)

/-! ## 2. Units -/

/-- Registers a unit. -/
def registerUnit (env : Environment) (u : PersistenceUnit) :
    Except SessionFault (Environment × List Event) :=
  (env.units.register u).map fun (units, log) => ({ env with units }, log)

/-- Looks a unit up. -/
def registeredUnit (env : Environment) (name : String) :
    Except SessionFault (PersistenceUnit × Environment × List Event) :=
  (env.units.resolve name).map fun (u, units, log) => (u, { env with units }, log)

/-! ## 3. Opening -/

/-- The largest timeout, in milliseconds, that a session can be opened with. -/
def largestTimeout : Nat :=
  Int32.maxValue.toNatClampNeg

/-- Where the first zero character stands in the bytes of a path. -/
def zeroPosition? (path : String) : Option Nat :=
  path.toUTF8.toList.findIdx? (· == 0)

/-- The place of the store for a path.  Two paths stand for no file, but for memory of the
session's own.  A path that begins with `file:` is an address with a syntax of its own, which is
not read here (`Path.isAddress`). -/
def placeOfPath (env : Environment) (path : String) : Except StoreFault Place :=
  match zeroPosition? path with
  | some position => .error (.zeroInPath position)
  | none =>
    if path = "" || path = ":memory:" then .ok (.own env.nextId)
    else
      let destination := Path.destination path
      if env.directories.contains destination.dropLast && !env.directories.contains destination
      then .ok (.file destination)
      else .error (.cannotOpen path)

/-- The place of the store for the next session of a unit. -/
def placeOf (env : Environment) (u : PersistenceUnit) : Except StoreFault Place :=
  match u.storage with
  | .memory => .ok (.own env.nextId)
  | .sharedMemory => .ok (.shared u.sharedAddress)
  | .file path => env.placeOfPath path

/-- The environment with a further session. -/
def enter (env : Environment) (s : Session) : Environment :=
  { env with
    stores := (s.place, env.store s) :: env.storesExcept s.place
    sessions := env.sessions ++ [s]
    nextId := env.nextId + 1 }

/-- Opens a session with the settings of a unit, registered or not. -/
def connect (env : Environment) (u : PersistenceUnit) : Opened SessionFault Session :=
  let mode := u.storage.label
  match env.placeOf u with
  | .error fault =>
    ⟨.refused (.store fault), env,
      [.sessionOpening mode, .sessionRefused mode .connect fault.message]⟩
  | .ok place =>
    let s : Session := ⟨env.nextId, u.name, u.schemaMode, place, u.foreignKeys, u.busyTimeout,
      0⟩
    match (env.store s).barrier? s with
    | some fault =>
      ⟨.refused (.store fault), env,
        [.sessionOpening mode, .sessionRefused mode .configure fault.message]⟩
    | none =>
      if largestTimeout < u.busyTimeout then ⟨.aborted, env, [.sessionOpening mode]⟩
      else ⟨.opened s, env.enter s, [.sessionOpening mode, .sessionOpened mode]⟩

/-- The unit of sessions that are opened without a registered one. -/
def adhoc (storage : Storage) : PersistenceUnit :=
  .new "adhoc" storage

/-- Opens a session of a registered unit. -/
def createSession (env : Environment) (name : String) : Opened SessionFault Session :=
  match env.registeredUnit name with
  | .error fault => ⟨.refused fault, env, []⟩
  | .ok (u, env, log) =>
    let opened := env.connect u
    { opened with log := log ++ opened.log }

/-! ## 4. Closing -/

/-- Whether a store is kept after a session on it is closed. -/
def outlives (env : Environment) : Place → Bool
  | .own _ => false
  | .shared address => env.sessions.any fun s => s.place = .shared address
  | .file _ => true

/-- Closes a session. -/
def close (env : Environment) (s : Session) : Environment :=
  let left := env.put s.place ((env.store s).leave s)
  let env := { left with sessions := env.sessions.filter (·.id != s.id) }
  if env.outlives s.place then env else { env with stores := env.storesExcept s.place }

/-- Whether a store lies in a file. -/
def isFile : Place → Bool
  | .file _ => true
  | _ => false

/-- What the next program finds: the files, once all sessions are closed. -/
def restart (env : Environment) : Environment :=
  let closed := env.sessions.foldl close env
  ⟨.empty, env.directories, closed.stores.filter fun entry => isFile entry.1, [], 0⟩

/-! ## 5. Repositories -/

/-- Opens a repository on an open session, which belongs to it from then on.  If that fails the
session is closed. -/
def adopt (env : Environment) (t : EntityType E) (s : Session) :
    Opened RepositoryFault (Repository E) :=
  let reply := Repository.new t s (env.store s)
  let env := env.put s.place reply.state
  match reply.result with
  | .ok r => ⟨.opened r, env, reply.log⟩
  | .error fault => ⟨.refused fault, env.close s, reply.log⟩

/-- Opens a repository on the session that an opening gave. -/
def adoptOpened (t : EntityType E) (opened : Opened SessionFault Session) :
    Opened RepositoryFault (Repository E) :=
  match opened.outcome with
  | .refused fault => ⟨.refused (.session fault), opened.environment, opened.log⟩
  | .aborted => ⟨.aborted, opened.environment, opened.log⟩
  | .opened s =>
    let repository := opened.environment.adopt t s
    { repository with log := opened.log ++ repository.log }

/-- Opens a repository on a new session of a registered unit. -/
def openRepository (env : Environment) (t : EntityType E) (unit : String) :
    Opened RepositoryFault (Repository E) :=
  adoptOpened t (env.createSession unit)

end Environment

end EntityStore

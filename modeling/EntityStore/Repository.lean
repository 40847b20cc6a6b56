import EntityStore.Session
import EntityStore.Query.Registry
import EntityStore.Query.Method
/-!
# Repositories

A repository keeps the entities of one type in one table, through one session.  Each operation
that writes runs in a transaction of its own, so that it happens as a whole or not at all;
operations that read open none.

`save` adds an entity that the store does not know and replaces one that it does.  It works in
two phases: first it looks the identifier up, outside any transaction, and then it writes.
-/

namespace EntityStore

/-- A repository: the session, the resolved schema, how rows are read, the registered queries,
and the executor of its transactions. -/
structure Repository (E : Type) where
  session : Session
  entityType : EntityType E
  metadata : Metadata E
  queries : Query.Registry
  executor : Executor

/-- What `save` did with an entity. -/
inductive SaveOutcome where
  | persisted
  | merged
  deriving DecidableEq, Repr

/-- The name of an outcome in records. -/
def SaveOutcome.label : SaveOutcome → String
  | .persisted => "persist"
  | .merged => "merge"

/-- What comes out of an operation of a repository: its result, the repository and the store
after it, and the events it reported. -/
structure Answer (E α : Type) where
  result : Except RepositoryFault α
  repository : Repository E
  store : Store
  log : List Event

namespace Repository

variable {E α : Type}

/-! ## 1. Opening -/

/-- A repository on a session, with its table prepared. -/
def new (t : EntityType E) (s : Session) (st : Store) : Reply Store (Repository E) :=
  match Metadata.resolve t.schema with
  | .error fault => ⟨.error fault, st, [.repositoryRefused fault.code fault.message]⟩
  | .ok m =>
    let prepared := s.prepare m s.schemaMode st
    match prepared.result with
    | .error fault => ⟨.error fault, prepared.state, prepared.log⟩
    | .ok () =>
      ⟨.ok ⟨s, t, m, .empty, .new⟩, prepared.state,
        prepared.log ++ [.repositoryReady m.entity s.unit]⟩

/-! ## 2. Writing in a transaction -/

/-- The repository after a transaction: its executor, and what its session remembers. -/
def leave (r : Repository E) (x : Executor) (key : Int64) : Repository E :=
  { r with executor := x, session := r.session.remember key }

/-- Runs a unit of work in a transaction of the repository's session. -/
def transact (r : Repository E) (st : Store) (work : Work Connection α) : Answer E α :=
  let (x, reply) := r.executor.run r.session.connection work ⟨st, r.session.lastKey⟩
  ⟨reply.result, r.leave x reply.state.lastKey, reply.state.store, reply.log⟩

/-- A unit of work that is one operation of the session; a fault says which. -/
def attempt (r : Repository E) (operation : Operation)
    (act : Connection → Except SessionFault α × Connection) : Work Connection α := fun c =>
  let (answer, c) := act c
  ⟨answer.mapError (.crud r.metadata.entity operation), c, []⟩

/-- The answer with a further event, which depends on the result. -/
def Answer.report (a : Answer E α) (event : Except RepositoryFault α → Option Event) : Answer E α :=
  { a with log := a.log ++ (event a.result).toList }

/-! ## 3. Saving -/

/-- The first phase of `save`: whether the store knows the entity's identifier. -/
def isKnown (r : Repository E) (entity : E) (st : Store) : Except RepositoryFault Bool :=
  let identifier := r.metadata.identifierValue entity
  if identifier.isAbsentIdentifier then .ok false
  else (r.session.contains r.metadata identifier st).mapError (.crud r.metadata.entity .find)

/-- Adds an entity.  If it has no identifier yet, the key that the session remembers is written
into it. -/
def persistWork (r : Repository E) (entity : E) : Work Connection (E × SaveOutcome) :=
  r.attempt .persist fun c =>
    let (answer, c) := r.session.persist r.metadata entity c
    (answer.map fun key? =>
      ((key?.map (r.metadata.assignIdentifier entity)).getD entity, .persisted), c)

/-- Replaces an entity. -/
def mergeWork (r : Repository E) (entity : E) : Work Connection (E × SaveOutcome) :=
  r.attempt .merge fun c =>
    let (answer, c) := r.session.merge r.metadata entity c
    (answer.map fun _ => (entity, .merged), c)

/-- The event of a save. -/
def saveEvent (entity : String) : Except RepositoryFault (E × SaveOutcome) → Option Event
  | .ok (_, outcome) => some (.saved entity outcome.label)
  | .error fault => some (.saveFailed entity fault.code fault.message)

/-- The second phase of `save`: writes the entity, as a new one or in the place of a known one. -/
def write (r : Repository E) (known : Bool) (entity : E) (st : Store) :
    Answer E (E × SaveOutcome) :=
  Answer.report (r.transact st (if known then r.mergeWork entity else r.persistWork entity))
    (saveEvent r.metadata.entity)

/-- Adds an entity that the store does not know, or replaces one that it does.  The result is
the entity with its identifier, and which of the two was done. -/
def saveWithOutcome (r : Repository E) (entity : E) (st : Store) : Answer E (E × SaveOutcome) :=
  match r.isKnown entity st with
  | .error fault => ⟨.error fault, r, st, []⟩
  | .ok known => r.write known entity st

/-- `saveWithOutcome` without the outcome. -/
def save (r : Repository E) (entity : E) (st : Store) : Answer E E :=
  let a := r.saveWithOutcome entity st
  ⟨a.result.map (·.1), a.repository, a.store, a.log⟩

/-! ## 4. Finding and counting -/

/-- The entities of a selection. -/
def select (r : Repository E) (operation : Operation) (selection : Selection)
    (parameters : Parameters) (st : Store) : Except RepositoryFault (List E) :=
  (r.session.queryRows st selection parameters r.entityType.fromRow).mapError
    (.crud r.metadata.entity operation)

/-- The number of rows that a filter lets through. -/
def tally (r : Repository E) (operation : Operation) (filter : Filter) (parameters : Parameters)
    (st : Store) : Except RepositoryFault Nat :=
  (r.session.count st filter parameters).mapError (.crud r.metadata.entity operation)

/-- The entity with an identifier. -/
def findById (r : Repository E) (identifier : Value) (st : Store) :
    Except RepositoryFault (Option E) :=
  (r.session.find r.entityType r.metadata identifier st).mapError (.crud r.metadata.entity .find)

/-- All entities, in the order of their identifiers. -/
def findAll (r : Repository E) (st : Store) : Except RepositoryFault (List E) :=
  r.select .findAll (Query.Descriptor.unfiltered r.metadata .selectAll).selection [] st

/-- The number of entities. -/
def count (r : Repository E) (st : Store) : Except RepositoryFault Nat :=
  r.tally .count (Query.Descriptor.unfiltered r.metadata .count).filter [] st

/-! ## 5. Deleting -/

/-- Removes all entities. -/
def deleteAll (r : Repository E) (st : Store) : Answer E Unit :=
  let a := r.transact st (r.attempt .deleteAll fun c =>
    r.session.execute c (Query.Descriptor.unfiltered r.metadata .deleteAll).removal [])
  let a := Answer.report a fun
    | .ok removed => some (.deletedAll r.metadata.entity removed)
    | .error _ => none
  ⟨a.result.map fun _ => (), a.repository, a.store, a.log⟩

/-- Removes the entity with an identifier, if there is one. -/
def deleteById (r : Repository E) (identifier : Value) (st : Store) : Answer E Unit :=
  match r.findById identifier st with
  | .error fault => ⟨.error fault, r, st, []⟩
  | .ok none => ⟨.ok (), r, st, [.nothingToDelete r.metadata.entity]⟩
  | .ok (some entity) =>
    let a := r.transact st (r.attempt .remove
      (r.session.remove r.metadata (r.metadata.identifierValue entity)))
    let a := Answer.report a fun
      | .ok _ => some (.deletedById r.metadata.entity)
      | .error _ => none
    ⟨a.result.map fun _ => (), a.repository, a.store, a.log⟩

/-! ## 6. Registered queries -/

/-- Registers a query under a key. -/
def register (r : Repository E) (key : String) (form : Query.Form) (attributes : List String) :
    Except RepositoryFault (Repository E × List Event) :=
  match Query.Descriptor.build r.metadata attributes form with
  | .error fault => .error (.derivation key fault)
  | .ok descriptor =>
    match r.queries.insert key descriptor with
    | .error fault => .error (.derivation key fault)
    | .ok queries =>
      .ok ({ r with queries }, [.queryRegistered r.metadata.entity key form attributes])

/-- Registers the query that a method name stands for, under that name. -/
def registerMethod (r : Repository E) (method : String) :
    Except RepositoryFault (Repository E × List Event) :=
  match Query.Method.parse method with
  | .error fault => .error fault
  | .ok parsed => r.register method parsed.form parsed.attributes

/-- The keys of the registered queries, in increasing order. -/
def registeredQueries (r : Repository E) : List String :=
  r.queries.keys

/-- The query under a key with its arguments, if it has the requested form. -/
def prepareQuery (r : Repository E) (key : String) (form : Query.Form) (arguments : List Value) :
    Except RepositoryFault (Query.Descriptor × Parameters) :=
  match r.queries.lookup key form with
  | .error fault => .error (.derivation key fault)
  | .ok descriptor =>
    match descriptor.bind arguments with
    | .error fault => .error (.derivation key fault)
    | .ok parameters => .ok (descriptor, parameters)

/-- Runs the registered query under a key that selects entities. -/
def findBy (r : Repository E) (key : String) (arguments : List Value) (st : Store) :
    Except RepositoryFault (List E) :=
  match r.prepareQuery key .selectFiltered arguments with
  | .error fault => .error fault
  | .ok (descriptor, parameters) => r.select .query descriptor.selection parameters st

/-- Runs the registered query under a key that counts entities. -/
def countBy (r : Repository E) (key : String) (arguments : List Value) (st : Store) :
    Except RepositoryFault Nat :=
  match r.prepareQuery key .countFiltered arguments with
  | .error fault => .error fault
  | .ok (descriptor, parameters) => r.tally .query descriptor.filter parameters st

/-- Runs the registered query under a key that removes entities.  The result is how many. -/
def deleteBy (r : Repository E) (key : String) (arguments : List Value) (st : Store) :
    Answer E Nat :=
  match r.prepareQuery key .deleteFiltered arguments with
  | .error fault => ⟨.error fault, r, st, []⟩
  | .ok (descriptor, parameters) =>
    Answer.report
      (r.transact st (r.attempt .remove fun c =>
        r.session.execute c descriptor.removal parameters))
      fun
        | .ok removed => some (.deletedByQuery r.metadata.entity key removed)
        | .error _ => none

end Repository

end EntityStore

import EntityStore.Fault.Store
import EntityStore.Query.Form
/-!
# Faults of schemas, queries, sessions and repositories

Each reason for which a schema, a query or an operation is refused, with its message.  The
faults nest: a repository reports a fault of its schema, of a query, of a session or of the
store, together with what it was doing.
-/

namespace EntityStore

/-! ## 1. Schemas -/

/-- Why no repository can be built for an entity. -/
inductive SchemaFault where
  | noIdentifier
  | multipleIdentifiers
  | noIdentifierAccessor
  | noAttributeAccessor (name : String)
  | duplicateAttribute (name : String)
  | duplicateColumn (name : String)
  | invalidName (name : String)
  | missingTable (name : String)
  | missingColumn (table name : String)
  deriving DecidableEq, Repr

/-- The message of a fault of a schema. -/
def SchemaFault.message : SchemaFault → String
  | .noIdentifier => "no identifier attribute declared"
  | .multipleIdentifiers => "multiple identifier attributes declared"
  | .noIdentifierAccessor => "identifier attribute has no accessor"
  | .noAttributeAccessor name => s!"attribute `{name}` has no accessor"
  | .duplicateAttribute name => s!"attribute `{name}` declared twice"
  | .duplicateColumn name => s!"several attributes map to column `{name}`"
  | .invalidName name => s!"`{name}` is not a valid entity/attribute name"
  | .missingTable name => s!"table `{name}` does not exist"
  | .missingColumn table name => s!"column `{name}` is missing from table `{table}`"

/-! ## 2. Queries -/

/-- Why a query cannot be derived, registered or run. -/
inductive QueryFault where
  | missingPrefix
  | emptyAttributeChain
  | malformedAttribute (token : String)
  | unknownAttribute (name : String)
  | duplicateAttribute (name : String)
  | unexpectedConditions
  | alreadyRegistered
  | unknownQuery
  | formMismatch (registered requested : Query.Form)
  | argumentCount (expected actual : Nat)
  deriving DecidableEq, Repr

/-- The message of a fault of a query. -/
def QueryFault.message : QueryFault → String
  | .missingPrefix => "expected a findBy/find/countBy/deleteBy prefix"
  | .emptyAttributeChain => "no filter attributes after the prefix"
  | .malformedAttribute token => s!"malformed attribute token `{token}`"
  | .unknownAttribute name => s!"entity has no attribute `{name}`"
  | .duplicateAttribute name => s!"attribute `{name}` filtered twice"
  | .unexpectedConditions => "unfiltered query forms take no conditions"
  | .alreadyRegistered => "a query is already registered under this key"
  | .unknownQuery => "no query is registered under this key"
  | .formMismatch registered requested =>
    s!"query registered as {registered.label} cannot run as {requested.label}"
  | .argumentCount expected actual => s!"expected {expected} arguments, got {actual}"

/-! ## 3. Sessions -/

/-- Why a unit or a session refuses: a reason of its own, or one of the store. -/
inductive SessionFault where
  | store (fault : StoreFault)
  | unknownUnit (name : String)
  | unitConflict (name : String)
  | invalidUnit (name reason : String)
  deriving DecidableEq, Repr

namespace SessionFault

/-- The message of a fault of a session. -/
def message : SessionFault → String
  | .store fault => fault.message
  | .unknownUnit name => s!"persistence unit `{name}` is not registered"
  | .unitConflict name => s!"persistence unit `{name}` is already registered with different settings"
  | .invalidUnit name reason => s!"invalid persistence unit `{name}`: {reason}"

/-- The messages of a fault and of the fault under it: one of the store stands under one of the
session with the same text. -/
def chain : SessionFault → List String
  | .store fault => [fault.message, fault.message]
  | fault => [fault.message]

end SessionFault

/-! ## 4. Repositories -/

/-- What a repository was doing with an entity. -/
inductive Operation where
  | persist
  | merge
  | remove
  | find
  | findAll
  | count
  | deleteAll
  | query
  deriving DecidableEq, Repr

/-- The name of an operation in messages. -/
def Operation.label : Operation → String
  | .persist => "persist"
  | .merge => "merge"
  | .remove => "remove"
  | .find => "find"
  | .findAll => "find_all"
  | .count => "count"
  | .deleteAll => "delete_all"
  | .query => "query"

/-- The operation with a name. -/
def Operation.ofLabel? : String → Option Operation
  | "persist" => some .persist
  | "merge" => some .merge
  | "remove" => some .remove
  | "find" => some .find
  | "find_all" => some .findAll
  | "count" => some .count
  | "delete_all" => some .deleteAll
  | "query" => some .query
  | _ => none

/-- The part of a transaction that failed. -/
inductive Stage where
  | begin
  | commit
  deriving DecidableEq, Repr

/-- The name of a stage in messages. -/
def Stage.label : Stage → String
  | .begin => "begin"
  | .commit => "commit"

/-- Why an operation of a repository failed. -/
inductive RepositoryFault where
  | initialization (entity : String) (fault : SchemaFault)
  | derivation (method : String) (fault : QueryFault)
  | crud (entity : String) (operation : Operation) (source : SessionFault)
  | transaction (stage : Stage) (source : SessionFault)
  | session (source : SessionFault)
  | invalidData (reason : String)
  deriving DecidableEq, Repr

namespace RepositoryFault

/-- The message of a fault of a repository. -/
def message : RepositoryFault → String
  | .initialization entity fault => s!"cannot build repository for `{entity}`: {fault.message}"
  | .derivation method fault => s!"cannot derive query from `{method}`: {fault.message}"
  | .crud entity operation source => s!"{operation.label} failed for `{entity}`: {source.message}"
  | .transaction stage source => s!"transaction {stage.label} failed: {source.message}"
  | .session source => source.message
  | .invalidData reason => s!"invalid persisted data: {reason}"

/-- The code under which a fault is recorded. -/
def code : RepositoryFault → String
  | .initialization .. => "init_failed"
  | .derivation .. => "query_derivation_failed"
  | .crud .. => "crud_failed"
  | .transaction .. => "transaction_failed"
  | .session .. => "db_failed"
  | .invalidData .. => "invalid_data"

/-- The messages of the faults under a fault, the nearest first. -/
def causes : RepositoryFault → List String
  | .crud _ _ source => source.chain
  | .transaction _ source => source.chain
  | .session source => source.chain
  | _ => []

end RepositoryFault

end EntityStore

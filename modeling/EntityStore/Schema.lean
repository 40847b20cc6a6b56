import EntityStore.Name
import EntityStore.Value.Affinity
import EntityStore.Fault.Store
/-!
# Entities and their schemas

An entity is a value of any type.  What a repository has to know about the type is its
`EntitySchema`: the attributes, how each is read off an entity, and how a key that the store
has chosen is written back.  An `EntityType` adds the way back, from a row of the store to an
entity.

Nothing here is checked; a schema is checked when it is resolved.
-/

namespace EntityStore

/-! ## 1. Attributes -/

/-- One attribute of an entity. -/
structure Attribute where
  name : String
  kind : Kind
  identifier : Bool
  generated : Bool
  nullable : Bool
  unique : Bool
  deriving DecidableEq, Repr

namespace Attribute

/-- An attribute that may hold anything, or nothing. -/
def new (name : String) (kind : Kind) : Attribute :=
  ⟨name, kind, false, false, true, false⟩

/-- An attribute that identifies the entity. -/
def id (name : String) (kind : Kind) : Attribute :=
  ⟨name, kind, true, false, false, false⟩

/-- The store chooses the value. -/
def asGenerated (a : Attribute) : Attribute :=
  { a with generated := true }

/-- The attribute always holds something. -/
def asNotNull (a : Attribute) : Attribute :=
  { a with nullable := false }

/-- No two entities have the same value. -/
def asUnique (a : Attribute) : Attribute :=
  { a with unique := true }

end Attribute

/-! ## 2. Schemas -/

/-- What a repository has to know about entities of type `E`. -/
structure EntitySchema (E : Type) where
  name : String
  attributes : List Attribute
  /-- How an attribute is read, under the attribute's name. -/
  accessors : List (String × (E → Value))
  /-- How a key chosen by the store is written into an entity. -/
  assigner : Option (E → Int64 → E)

namespace EntitySchema

variable {E : Type}

/-- The accessor registered first under a name. -/
def accessor? (schema : EntitySchema E) (name : String) : Option (E → Value) :=
  (schema.accessors.find? (·.1 == name)).map (·.2)

end EntitySchema

/-! ## 3. Rows of a result -/

/-- The kind of a value. -/
def Value.kind : Value → ValueClass
  | .null => .null
  | .integer _ => .integer
  | .real _ => .real
  | .text _ => .text
  | .blob _ => .blob

/-- A row of a result: the value of each result column, under the column's name. -/
structure ResultRow where
  cells : List (String × Value)
  deriving DecidableEq, Repr

namespace ResultRow

/-- The place of the first column with a name, ignoring case. -/
def index? (row : ResultRow) (name : String) : Option Nat :=
  row.cells.findIdx? fun cell => Name.same cell.1 name

/-- The first column with a name, ignoring case, and its place. -/
def cell? (row : ResultRow) (name : String) : Option (Nat × String × Value) :=
  (row.index? name).bind fun i => (row.cells[i]?).map fun cell => (i, cell)

/-- The value of the first column with a name, ignoring case. -/
def get (row : ResultRow) (name : String) : Except StoreFault Value :=
  match row.cell? name with
  | some (_, _, value) => .ok value
  | none => .error (.columnName name)

/-- The value of the first column with a name, ignoring case, as a value of another type.
Values without a counterpart there are refused. -/
def getAs {α : Type} (row : ResultRow) (name : String) (convert? : Value → Option α) :
    Except StoreFault α :=
  match row.cell? name with
  | none => .error (.columnName name)
  | some (index, label, value) =>
    match convert? value with
    | some converted => .ok converted
    | none => .error (.columnType value.kind index label)

end ResultRow

/-- A type of entities: its schema, and how an entity is read off a row. -/
structure EntityType (E : Type) where
  schema : EntitySchema E
  fromRow : ResultRow → Except StoreFault E

end EntityStore

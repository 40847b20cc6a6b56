import EntityStore.Schema
/-!
# Records

Entities that are given by data alone.  A record lists the values of the attributes in the order
of their declaration; a shape says which attributes there are, and which accessor reads which
value.
-/

namespace EntityStore

/-- The values of an entity's attributes, in the order of the attributes. -/
abbrev Record := List Value

/-- A type of records. -/
structure RecordShape where
  name : String
  attributes : List Attribute
  /-- For each accessor its name and the place of the value that it reads. -/
  accessors : List (String × Nat)
  /-- Whether keys can be written into records. -/
  assigner : Bool
  /-- Whether the values of a row have to be of the attributes' kinds. -/
  typed : Bool
  deriving DecidableEq, Repr

namespace RecordShape

/-- The value at a place; places past the end hold nothing. -/
def field (slot : Nat) (record : Record) : Value :=
  (record[slot]?).getD .null

/-- Writes a key into the first identifier. -/
def assign (attributes : List Attribute) (record : Record) (key : Int64) : Record :=
  match attributes.findIdx? (·.identifier) with
  | some i => record.set i (.integer key)
  | none => record

/-- The schema of the records. -/
def schema (shape : RecordShape) : EntitySchema Record where
  name := shape.name
  attributes := shape.attributes
  accessors := shape.accessors.map fun (name, slot) => (name, field slot)
  assigner := if shape.assigner then some (assign shape.attributes) else none

/-- Whether an attribute may hold nothing: if it is declared so, or if the store chooses it. -/
def takesNull (a : Attribute) : Bool :=
  a.nullable || (a.identifier && a.kind = .integer)

/-- The value of an attribute for a value of a row, if the row's value is of the attribute's
kind.  An integer may stand for a real number. -/
def convert? (a : Attribute) : Value → Option Value
  | .null => if takesNull a then some .null else none
  | .integer n =>
    match a.kind with
    | .integer => some (.integer n)
    | .real => some (.real (.ofInt n.toInt))
    | _ => none
  | .real x => if a.kind = .real then some (.real x) else none
  | .text s => if a.kind = .text then some (.text s) else none
  | .blob bytes => if a.kind = .blob then some (.blob bytes) else none

/-- Reads an attribute off a row. -/
def readAttribute (typed : Bool) (row : ResultRow) (a : Attribute) : Except StoreFault Value :=
  if typed then row.getAs a.name (convert? a) else row.get a.name

/-- Reads attributes off a row, up to the first that cannot be read. -/
def readAttributes (typed : Bool) (row : ResultRow) : List Attribute → Except StoreFault Record
  | [] => .ok []
  | a :: rest =>
    match readAttribute typed row a with
    | .error fault => .error fault
    | .ok value =>
      match readAttributes typed row rest with
      | .error fault => .error fault
      | .ok values => .ok (value :: values)

/-- The type of the records. -/
def entityType (shape : RecordShape) : EntityType Record :=
  ⟨shape.schema, fun row => readAttributes shape.typed row shape.attributes⟩

end RecordShape

end EntityStore

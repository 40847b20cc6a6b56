import EntityStore.Schema
import EntityStore.Fault.Repository
/-!
# Resolved schemas

`Metadata.resolve` checks a schema and maps it to a table.  It accepts a schema whose names are
valid, whose attributes fall on different columns, which has exactly one identifier, and in
which every attribute has an accessor; otherwise it reports the first fault, the checks being
made in this order.
-/

namespace EntityStore

/-- An attribute with its column and the accessor that reads it. -/
structure MappedAttribute (E : Type) extends Attribute where
  column : String
  read : E → Value

/-- A checked schema: the attributes in the order of their declaration, and the one among them
that identifies an entity. -/
structure Metadata (E : Type) where
  entity : String
  table : String
  attributes : List (MappedAttribute E)
  identifier : MappedAttribute E
  assigner : Option (E → Int64 → E)

namespace Metadata

variable {E : Type}

/-! ## 1. Resolution -/

/-- Checks the names of attributes in order, given the names and columns met before. -/
def checkNames (names columns : List String) : List Attribute → Except SchemaFault Unit
  | [] => .ok ()
  | a :: rest =>
    let column := Name.storage a.name
    if !Name.isValid a.name then .error (.invalidName a.name)
    else if names.contains a.name then .error (.duplicateAttribute a.name)
    else if columns.contains column then .error (.duplicateColumn column)
    else checkNames (a.name :: names) (column :: columns) rest

/-- There has to be exactly one identifier. -/
def checkIdentifier (attributes : List Attribute) : Except SchemaFault Unit :=
  match attributes.filter (·.identifier) with
  | [] => .error .noIdentifier
  | [_] => .ok ()
  | _ => .error .multipleIdentifiers

/-- Finds the column and the accessor of an attribute. -/
def mapAttribute (schema : EntitySchema E) (a : Attribute) :
    Except SchemaFault (MappedAttribute E) :=
  match schema.accessor? a.name with
  | some read => .ok ⟨a, Name.storage a.name, read⟩
  | none =>
    if a.identifier then .error .noIdentifierAccessor else .error (.noAttributeAccessor a.name)

/-- Maps attributes in order, up to the first without an accessor. -/
def mapAttributes (schema : EntitySchema E) :
    List Attribute → Except SchemaFault (List (MappedAttribute E))
  | [] => .ok []
  | a :: rest =>
    match mapAttribute schema a with
    | .error fault => .error fault
    | .ok mapped =>
      match mapAttributes schema rest with
      | .error fault => .error fault
      | .ok others => .ok (mapped :: others)

/-- Checks a schema and maps it; the fault says what is wrong with it. -/
def check (schema : EntitySchema E) : Except SchemaFault (Metadata E) :=
  if !Name.isValid schema.name then .error (.invalidName schema.name)
  else
    match checkNames [] [] schema.attributes with
    | .error fault => .error fault
    | .ok () =>
      match checkIdentifier schema.attributes with
      | .error fault => .error fault
      | .ok () =>
        match mapAttributes schema schema.attributes with
        | .error fault => .error fault
        | .ok attributes =>
          match attributes.find? (·.identifier) with
          | none => .error .noIdentifier
          | some identifier =>
            .ok ⟨schema.name, Name.storage schema.name, attributes, identifier, schema.assigner⟩

/-- Checks a schema and maps it; the fault names the entity. -/
def resolve (schema : EntitySchema E) : Except RepositoryFault (Metadata E) :=
  (check schema).mapError (.initialization schema.name)

/-! ## 2. Reading a resolved schema -/

/-- The attributes that do not identify the entity. -/
def valueAttributes (m : Metadata E) : List (MappedAttribute E) :=
  m.attributes.filter fun a => !a.identifier

/-- The attribute declared under a name. -/
def attribute? (m : Metadata E) (name : String) : Option (MappedAttribute E) :=
  m.attributes.find? (·.name == name)

/-- The identifier of an entity. -/
def identifierValue (m : Metadata E) (entity : E) : Value :=
  m.identifier.read entity

/-- Writes a key into an entity, if the identifier is an integer and there is a way to. -/
def assignIdentifier? (m : Metadata E) (entity : E) (key : Int64) : Option E :=
  if m.identifier.kind = .integer then m.assigner.map fun assign => assign entity key
  else none

/-- Writes a key into an entity where that is possible. -/
def assignIdentifier (m : Metadata E) (entity : E) (key : Int64) : E :=
  (m.assignIdentifier? entity key).getD entity

/-- The attributes that are written: all of them, or all but the identifier. -/
def writtenAttributes (m : Metadata E) (withIdentifier : Bool) : List (MappedAttribute E) :=
  m.attributes.filter fun a => withIdentifier || !a.identifier

/-- The values of an entity's written attributes, under the attributes' names. -/
def attributeValues (m : Metadata E) (entity : E) (withIdentifier : Bool) :
    List (String × Value) :=
  (m.writtenAttributes withIdentifier).map fun a => (a.name, a.read entity)

end Metadata

end EntityStore

import EntityStore.Metadata
import EntityStore.Statement
/-!
# The statements of an entity

Which statements create, read and write the table of an entity.  The parameter of an attribute
has the attribute's name, so that the values of an entity, given under the names of its
attributes, are the parameters of each of its statements.
-/

namespace EntityStore

variable {E : Type}

namespace MappedAttribute

/-- The attribute's column, filled from or compared with the parameter of its name. -/
def slot (a : MappedAttribute E) : Slot :=
  ⟨a.column, a.name⟩

/-- The attribute's column, read under the attribute's name. -/
def output (a : MappedAttribute E) : Output :=
  ⟨a.column, a.name⟩

/-- The definition of the attribute's column.  An identifier is the primary key, generated by
the store if it is an integer and declared so, and never null otherwise. -/
def definition (a : MappedAttribute E) : Column :=
  if a.identifier then
    let generated := a.generated && a.kind = .integer
    ⟨a.column, some a.kind, true, generated, !generated, false, false, none, none⟩
  else ⟨a.column, some a.kind, false, false, !a.nullable, a.unique, false, none, none⟩

end MappedAttribute

namespace Metadata

/-- The columns of a result that hold an entity. -/
def outputs (m : Metadata E) : List Output :=
  m.attributes.map MappedAttribute.output

/-- The table of the entity. -/
def tableDefinition (m : Metadata E) : TableDefinition :=
  ⟨m.table, m.attributes.map MappedAttribute.definition⟩

/-- The name of the parameter that stands for a sought identifier. -/
def soughtParameter : String :=
  "id"

/-- The row with a sought identifier. -/
def sought (m : Metadata E) : Filter :=
  ⟨m.table, [⟨m.identifier.column, soughtParameter⟩]⟩

/-- The parameters that say which identifier is sought. -/
def soughtValue (value : Value) : Parameters :=
  [(soughtParameter, value)]

/-- Reads the row with a sought identifier. -/
def lookup (m : Metadata E) : Selection :=
  ⟨m.sought, m.outputs, none⟩

/-- Adds an entity, with its identifier or leaving the identifier to the store. -/
def insertion (m : Metadata E) (withIdentifier : Bool) : Change :=
  .insert m.table ((m.writtenAttributes withIdentifier).map MappedAttribute.slot)

/-- Replaces the values of the entity with the same identifier, if it has any. -/
def replacement? (m : Metadata E) : Option Change :=
  if m.valueAttributes.isEmpty then none
  else some (.update ⟨m.table, [m.identifier.slot]⟩ (m.valueAttributes.map MappedAttribute.slot))

end Metadata

end EntityStore

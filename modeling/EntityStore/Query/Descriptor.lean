import EntityStore.Mapping
/-!
# Query descriptors

A descriptor is a query against the table of one entity: its form, and for each condition the
column of an attribute.  It is built from the names of attributes, and checked once, when it
is built; its arguments are checked when they are bound.
-/

namespace EntityStore.Query

variable {E : Type}

/-- A query against the table of an entity.  The parameter of a condition has the name of the
attribute whose column it restricts. -/
structure Descriptor where
  table : String
  outputs : List Output
  identifierColumn : String
  conditions : List Slot
  form : Form
  deriving DecidableEq, Repr

namespace Descriptor

/-! ## 1. Building -/

/-- Finds the columns of attributes in order, given the names met before. -/
def resolve (m : Metadata E) (seen : List String) : List String → Except QueryFault (List Slot)
  | [] => .ok []
  | name :: rest =>
    match m.attribute? name with
    | none => .error (.unknownAttribute name)
    | some a =>
      if seen.contains name then .error (.duplicateAttribute name)
      else
        match resolve m (name :: seen) rest with
        | .error fault => .error fault
        | .ok conditions => .ok (⟨a.column, name⟩ :: conditions)

/-- The query of a form, filtered by attributes.  A form has conditions exactly when it is
filtered. -/
def build (m : Metadata E) (names : List String) (form : Form) : Except QueryFault Descriptor :=
  if form.isFiltered && names.isEmpty then .error .emptyAttributeChain
  else if !form.isFiltered && !names.isEmpty then .error .unexpectedConditions
  else
    match resolve m [] names with
    | .error fault => .error fault
    | .ok conditions => .ok ⟨m.table, m.outputs, m.identifier.column, conditions, form⟩

/-- The query of a form that looks at all rows. -/
def unfiltered (m : Metadata E) (form : Form) : Descriptor :=
  ⟨m.table, m.outputs, m.identifier.column, [], form⟩

/-! ## 2. Statements -/

/-- The rows that the query looks at. -/
def filter (d : Descriptor) : Filter :=
  ⟨d.table, d.conditions⟩

/-- The query as a selection: whole entities, sorted by the identifier's column. -/
def selection (d : Descriptor) : Selection :=
  ⟨d.filter, d.outputs, some d.identifierColumn⟩

/-- The query as a removal. -/
def removal (d : Descriptor) : Change :=
  .delete d.filter

/-- The statement of the query. -/
def text (d : Descriptor) : String :=
  match d.form with
  | .selectAll => d.selection.text
  | .selectFiltered => d.selection.text
  | .count => d.filter.countText
  | .countFiltered => d.filter.countText
  | .deleteAll => d.removal.text
  | .deleteFiltered => d.removal.text

/-! ## 3. Arguments -/

/-- Pairs each condition with the argument in the same place. -/
def bind (d : Descriptor) (arguments : List Value) : Except QueryFault Parameters :=
  if arguments.length = d.conditions.length then
    .ok ((d.conditions.map (·.parameter)).zip arguments)
  else .error (.argumentCount d.conditions.length arguments.length)

end Descriptor

end EntityStore.Query

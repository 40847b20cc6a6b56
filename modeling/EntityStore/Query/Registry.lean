import EntityStore.Query.Descriptor
/-!
# Query registries

A registry holds queries under keys.  A key is registered at most once and keeps its query; the
keys are in increasing order.
-/

namespace EntityStore.Query

/-- Queries under keys, in increasing order of the keys. -/
structure Registry where
  entries : List (String × Descriptor)
  deriving DecidableEq, Repr

namespace Registry

/-- The registry without queries. -/
def empty : Registry :=
  ⟨[]⟩

/-- The query under a key. -/
def find? (r : Registry) (key : String) : Option Descriptor :=
  (r.entries.find? (·.1 == key)).map (·.2)

/-- The keys. -/
def keys (r : Registry) : List String :=
  r.entries.map (·.1)

/-- Puts an entry before the first one with a larger key. -/
def place (key : String) (d : Descriptor) :
    List (String × Descriptor) → List (String × Descriptor)
  | [] => [(key, d)]
  | entry :: rest =>
    if key < entry.1 then (key, d) :: entry :: rest else entry :: place key d rest

/-- Registers a query under a new key. -/
def insert (r : Registry) (key : String) (d : Descriptor) : Except QueryFault Registry :=
  match r.find? key with
  | some _ => .error .alreadyRegistered
  | none => .ok ⟨place key d r.entries⟩

/-- The query registered under a key, if it has the requested form. -/
def lookup (r : Registry) (key : String) (form : Form) : Except QueryFault Descriptor :=
  match r.find? key with
  | none => .error .unknownQuery
  | some d => if d.form = form then .ok d else .error (.formMismatch d.form form)

end Registry

end EntityStore.Query

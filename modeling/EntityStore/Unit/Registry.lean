import EntityStore.Unit
import EntityStore.Event
/-!
# Unit registries

The units that sessions can be opened on, under their names.  A name keeps its settings: a unit
may be registered again only as it is.  The default unit is there without being registered; it
is entered when it is first looked up.
-/

namespace EntityStore

/-- Units with different names. -/
structure UnitRegistry where
  units : List PersistenceUnit
  deriving DecidableEq, Repr

namespace UnitRegistry

/-- The registry without units. -/
def empty : UnitRegistry :=
  ⟨[]⟩

/-- The unit with a name. -/
def find? (r : UnitRegistry) (name : String) : Option PersistenceUnit :=
  r.units.find? (·.name == name)

/-- Enters a unit. -/
def enter (r : UnitRegistry) (u : PersistenceUnit) : UnitRegistry :=
  ⟨r.units ++ [u]⟩

/-- Registers a unit. -/
def register (r : UnitRegistry) (u : PersistenceUnit) :
    Except SessionFault (UnitRegistry × List Event) :=
  match u.validate with
  | .error fault => .error fault
  | .ok () =>
    match r.find? u.name with
    | some known => if known.same u then .ok (r, []) else .error (.unitConflict u.name)
    | none => .ok (r.enter u, [.unitRegistered u.name u.storage.label false])

/-- Looks a unit up. -/
def resolve (r : UnitRegistry) (name : String) :
    Except SessionFault (PersistenceUnit × UnitRegistry × List Event) :=
  match r.find? name with
  | some known => .ok (known, r, [])
  | none =>
    if name = PersistenceUnit.defaultName then
      .ok (.default, r.enter .default,
        [.unitRegistered name PersistenceUnit.default.storage.label true])
    else .error (.unknownUnit name)

end UnitRegistry

end EntityStore

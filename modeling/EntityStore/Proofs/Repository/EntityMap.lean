import EntityStore.Proofs.Repository.Reachable
import EntityStore.Proofs.Repository.Columns
/-!
# Repositories as maps

What a repository is to those who use it: a finite map from identifiers to the values of the other
attributes.  This module states it, as a relation between a map, a call, its result and the map
after the call (`MapStep`), and for whole sequences of calls (`MapRun`).  It mentions no tables,
rows or statements.

A save that would leave two entries with one identifier replaces the entry that is there; every
other save adds an entry.  The relation says exactly which saves fail (`Refusal`); all other calls
succeed.

Identifiers are compared as the store does, in the column of the identifier, so that for example the
text `"7"` finds the entry under the integer seven if identifiers are integers.
-/

namespace EntityStore

variable {E : Type}

/-! ## 1. Maps -/

/-- An entry: an identifier, and the values of the other attributes in their order. -/
structure Entry where
  identifier : Value
  values : List Value

/-- A map, and the identifiers of all entries that were ever added to it.  The latter only serve to
say when there are no keys left. -/
structure EntityMap where
  entries : List Entry
  added : List Value

/-- The map without entries, before any was added. -/
def EntityMap.empty : EntityMap :=
  ⟨[], []⟩

namespace Metadata

/-- An entity as an entry under some identifier. -/
def entry (m : Metadata E) (identifier : Value) (entity : E) : Entry :=
  ⟨identifier, m.valueAttributes.map (·.read entity)⟩

/-- An entity as an entry under its own identifier. -/
def ownEntry (m : Metadata E) (entity : E) : Entry :=
  m.entry (m.identifierValue entity) entity

/-- Whether an entry is the one under a given identifier. -/
def isAt (m : Metadata E) (given : Value) (entry : Entry) : Bool :=
  m.identifier.definition.matches? entry.identifier given.bound

/-- No two entries are under the same identifier. -/
def IsMap (m : Metadata E) (entries : List Entry) : Prop :=
  entries.Pairwise fun x y => ∀ given, ¬ (m.isAt given x = true ∧ m.isAt given y = true)

/-! ## 2. Refusals -/

/-- An entity lacks a required value, or shares a unique one with another entry. -/
def Clashes (m : Metadata E) (others : List Entry) (entity : E) : Prop :=
  (∃ a ∈ m.valueAttributes, a.nullable = false ∧ a.read entity = .null) ∨
    ∃ a ∈ m.valueAttributes, a.unique = true ∧ ∃ other ∈ others, ∃ value,
      (a, value) ∈ m.valueAttributes.zip other.values ∧ value.equals (a.read entity) = true

/-- Whether an entity comes without an identifier. -/
def isNew (m : Metadata E) (entity : E) : Bool :=
  (m.identifierValue entity).isAbsentIdentifier

/-- The entries that a save leaves alone: all but the one under the entity's identifier. -/
def others (m : Metadata E) (entries : List Entry) (entity : E) : List Entry :=
  if m.isNew entity then entries
  else entries.filter fun entry => !m.isAt (m.identifierValue entity) entry

/-- There is no key left.  Integer identifiers are keys themselves.

* Keys that the store generates are never used again, so the largest one has been used.
* Other integers are guessed past the largest one.  It is in the map, and so is each of a hundred
  guesses.
* If identifiers are no integers, the store has numbered every entry, from one to the largest key.
  The entry there is in the map, and so is another that the store guesses. -/
def Exhausted (m : Metadata E) (M : EntityMap) : Prop :=
  if m.identifier.kind = .integer then
    if m.identifier.generated then .integer Table.maxKey ∈ M.added
    else .integer Table.maxKey ∈ M.entries.map (·.identifier) ∧
      ∃ guesses : List Draw, guesses.length = Table.guesses ∧
        ∀ d ∈ guesses, .integer d.key ∈ M.entries.map (·.identifier)
  else 2 ^ 63 - 1 ≤ M.added.length ∧ 2 ≤ M.entries.length

/-- Why a save fails. -/
inductive Refusal (m : Metadata E) (M : EntityMap) (entity : E) : Prop
  /-- Required values are missing, or unique ones taken. -/
  | clash : m.Clashes (m.others M.entries entity) entity → Refusal m M entity
  /-- The identifier is declared an integer and is none. -/
  | notAKey : m.isNew entity = false → m.identifier.kind = .integer →
      (∀ key, m.identifierValue entity ≠ .integer key) → Refusal m M entity
  /-- There is no identifier, and the store chooses none. -/
  | noIdentifier : m.isNew entity = true → m.identifier.kind ≠ .integer → Refusal m M entity
  /-- The store would have to choose a key and cannot. -/
  | exhausted : m.Exhausted M →
      (m.isNew entity = true ∨ m.identifier.kind ≠ .integer ∧
        ∀ entry ∈ M.entries, m.isAt (m.identifierValue entity) entry = false) →
      Refusal m M entity

end Metadata

/-! ## 3. Calls -/

/-- A call of a repository that finds, counts, saves or removes entities. -/
inductive Call (E : Type) where
  | save (entity : E)
  | findById (identifier : Value)
  | findAll
  | count
  | deleteById (identifier : Value)
  | deleteAll

/-- What a call returns. -/
inductive Response (E : Type) where
  | saved (entity : E) (outcome : SaveOutcome)
  | found (entity? : Option E)
  | listed (entities : List E)
  | counted (n : Nat)
  | removed

namespace Call

/-- Makes a call. -/
def run (r : Repository E) (st : Store) : Call E → Answer E (Response E)
  | .save entity =>
    let a := r.saveWithOutcome entity st
    ⟨a.result.map fun (entity, outcome) => .saved entity outcome, a.repository, a.store, a.log⟩
  | .findById identifier => ⟨(r.findById identifier st).map .found, r, st, []⟩
  | .findAll => ⟨(r.findAll st).map .listed, r, st, []⟩
  | .count => ⟨(r.count st).map .counted, r, st, []⟩
  | .deleteById identifier =>
    let a := r.deleteById identifier st
    ⟨a.result.map fun _ => .removed, a.repository, a.store, a.log⟩
  | .deleteAll =>
    let a := r.deleteAll st
    ⟨a.result.map fun _ => .removed, a.repository, a.store, a.log⟩

/-- Makes calls one after another; the results in their order. -/
def runAll (r : Repository E) (st : Store) :
    List (Call E) → List (Except RepositoryFault (Response E))
  | [] => []
  | call :: rest =>
    let a := call.run r st
    a.result :: runAll a.repository a.store rest

end Call

/-! ## 4. The map that a repository is -/

/-- What a call does to a map. -/
inductive MapStep (m : Metadata E) (M : EntityMap) :
    Call E → Except RepositoryFault (Response E) → EntityMap → Prop
  /-- An entity whose identifier is in the map replaces the entry there. -/
  | merged {entity : E} : m.isNew entity = false →
      (∃ entry ∈ M.entries, m.isAt (m.identifierValue entity) entry = true) →
      ¬ m.Clashes (m.others M.entries entity) entity →
      MapStep m M (.save entity) (.ok (.saved entity .merged))
        { M with entries := M.entries.map fun entry =>
            if m.isAt (m.identifierValue entity) entry then m.entry entry.identifier entity
            else entry }
  /-- An entity whose identifier is not in the map is added. -/
  | persisted {entity : E} : m.isNew entity = false →
      (∀ entry ∈ M.entries, m.isAt (m.identifierValue entity) entry = false) →
      ¬ m.Clashes (m.others M.entries entity) entity →
      (m.identifier.kind = .integer → ∃ key, m.identifierValue entity = .integer key) →
      MapStep m M (.save entity) (.ok (.saved entity .persisted))
        ⟨m.ownEntry entity :: M.entries, m.identifierValue entity :: M.added⟩
  /-- An entity without an identifier is added under a key that is not in the map. -/
  | generated {entity : E} {key : Int64} : m.isNew entity = true →
      m.identifier.kind = .integer →
      (∀ entry ∈ M.entries, m.isAt (.integer key) entry = false) →
      ¬ m.Clashes (m.others M.entries entity) entity →
      MapStep m M (.save entity) (.ok (.saved (m.assignIdentifier entity key) .persisted))
        ⟨m.entry (.integer key) entity :: M.entries, .integer key :: M.added⟩
  | refused {entity : E} {fault : RepositoryFault} : m.Refusal M entity →
      MapStep m M (.save entity) (.error fault) M
  | found {identifier : Value} {entity : E} : m.ownEntry entity ∈ M.entries →
      m.isAt identifier (m.ownEntry entity) = true →
      MapStep m M (.findById identifier) (.ok (.found (some entity))) M
  | notFound {identifier : Value} : (∀ entry ∈ M.entries, m.isAt identifier entry = false) →
      MapStep m M (.findById identifier) (.ok (.found none)) M
  | listed {entities : List E} : (entities.map m.ownEntry).Perm M.entries →
      MapStep m M .findAll (.ok (.listed entities)) M
  | counted : MapStep m M .count (.ok (.counted M.entries.length)) M
  | removed {identifier : Value} : MapStep m M (.deleteById identifier) (.ok .removed)
      { M with entries := M.entries.filter fun entry => !m.isAt identifier entry }
  | removedAll : MapStep m M .deleteAll (.ok .removed) { M with entries := [] }

/-- What a sequence of calls returns from a map.  After each call there is a map again. -/
inductive MapRun (m : Metadata E) :
    EntityMap → List (Call E) → List (Except RepositoryFault (Response E)) → Prop
  | nil {M : EntityMap} : MapRun m M [] []
  | cons {M M' : EntityMap} {call : Call E} {rest : List (Call E)}
      {result : Except RepositoryFault (Response E)}
      {results : List (Except RepositoryFault (Response E))} :
      MapStep m M call result M' → m.IsMap M'.entries → MapRun m M' rest results →
      MapRun m M (call :: rest) (result :: results)

end EntityStore

import EntityStore.Environment
/-!
# The demonstration

A program that keeps people and items, and prints what it finds.  It takes the path of a file to
keep them in; without one it keeps them in memory.

The program is a function of the environment it starts in.  What it prints depends on the file
alone, and there only on the keys that were given out by earlier runs.
-/

namespace EntityStore.Demo

/-! ## 1. People and items -/

/-- A person. -/
structure Person where
  id : Option Int64
  name : String
  birthYear : Int64
  deriving DecidableEq, Repr

/-- An item. -/
structure Item where
  id : Option Int64
  name : String
  deriving DecidableEq, Repr

/-- A key as a value. -/
def keyValue : Option Int64 → Value
  | some key => .integer key
  | none => .null

/-- A value as a key, which may be missing. -/
def key? : Value → Option (Option Int64)
  | .null => some none
  | .integer key => some (some key)
  | _ => none

/-- A value as an integer. -/
def integer? : Value → Option Int64
  | .integer n => some n
  | _ => none

/-- A value as a text. -/
def text? : Value → Option String
  | .text s => some s
  | _ => none

/-- The schema of people. -/
def Person.schema : EntitySchema Person where
  name := "Person"
  attributes := [
    (Attribute.id "id" .integer).asGenerated,
    (Attribute.new "name" .text).asNotNull,
    (Attribute.new "birthYear" .integer).asNotNull]
  accessors := [
    ("id", fun person => keyValue person.id),
    ("name", fun person => .text person.name),
    ("birthYear", fun person => .integer person.birthYear)]
  assigner := some fun person key => { person with id := some key }

/-- Reads a person off a row. -/
def Person.fromRow (row : ResultRow) : Except StoreFault Person := do
  let id ← row.getAs "id" key?
  let name ← row.getAs "name" text?
  let birthYear ← row.getAs "birthYear" integer?
  return ⟨id, name, birthYear⟩

/-- The type of people. -/
def people : EntityType Person :=
  ⟨Person.schema, Person.fromRow⟩

/-- The schema of items. -/
def Item.schema : EntitySchema Item where
  name := "Item"
  attributes := [
    (Attribute.id "id" .integer).asGenerated,
    (Attribute.new "name" .text).asNotNull]
  accessors := [
    ("id", fun item => keyValue item.id),
    ("name", fun item => .text item.name)]
  assigner := some fun item key => { item with id := some key }

/-- Reads an item off a row. -/
def Item.fromRow (row : ResultRow) : Except StoreFault Item := do
  let id ← row.getAs "id" key?
  let name ← row.getAs "name" text?
  return ⟨id, name⟩

/-- The type of items. -/
def items : EntityType Item :=
  ⟨Item.schema, Item.fromRow⟩

/-! ## 2. Scripts -/

/-- Why the program fails. -/
inductive Fault where
  | registration (fault : SessionFault)
  | repository (fault : RepositoryFault)
  | aborted
  deriving DecidableEq, Repr

/-- What the program says about its failure. -/
def Fault.message : Fault → String
  | .registration fault => s!"cannot register unit: {fault.message}"
  | .repository fault => s!"mimic_cli failed: {fault.message}"
  | .aborted => "aborted"

/-- How far the program has got: the environment, and the lines that it has printed. -/
structure Progress where
  environment : Environment
  lines : List String

/-- A part of the program. -/
abbrev Script := ExceptT Fault (StateM Progress)

variable {E α : Type}

/-- Prints a line. -/
def print (line : String) : Script Unit :=
  modify fun p => { p with lines := p.lines ++ [line] }

/-- The value of a result; the program ends with a fault. -/
def settle : Except RepositoryFault α → Script α
  | .ok value => pure value
  | .error fault => throw (.repository fault)

/-- Opens a repository on a new session of a unit. -/
def openRepository (t : EntityType E) (unit : String) : Script (Repository E) := do
  let p ← get
  let opened := p.environment.openRepository t unit
  set { p with environment := opened.environment }
  match opened.outcome with
  | .opened r => return r
  | .refused fault => throw (.repository fault)
  | .aborted => throw .aborted

/-- Registers a query under the name of a method. -/
def register (r : Repository E) (method : String) : Script (Repository E) := do
  let (r, _) ← settle (r.registerMethod method)
  return r

/-- Runs an operation that reads. -/
def read (r : Repository E) (act : Store → Except RepositoryFault α) : Script α := do
  let p ← get
  settle (act (p.environment.store r.session))

/-- Runs an operation that writes. -/
def write (r : Repository E) (act : Store → Answer E α) : Script (α × Repository E) := do
  let p ← get
  let a := act (p.environment.store r.session)
  set { p with environment := p.environment.put r.session.place a.store }
  let value ← settle a.result
  return (value, a.repository)

/-! ## 3. What the program does -/

/-- The version of the program. -/
def version : String :=
  "0.1.0"

/-- A key as it is printed. -/
def showKey : Option Int64 → String
  | some key => s!"Some({Rendering.integer key})"
  | none => "None"

/-- The people that are saved. -/
def cast : List (String × Int64) :=
  [("IU", 1993), ("IU", 1995), ("Taeyeon", 1989)]

/-- Saves a new person and prints the saved one. -/
def savePerson (r : Repository Person) (name : String) (birthYear : Int64) :
    Script (Repository Person) := do
  let (saved, r) ← write r (r.save ⟨none, name, birthYear⟩)
  print s!"saved id={showKey saved.id} name={saved.name} birth_year={Rendering.integer saved.birthYear}"
  return r

/-- Saves people in order. -/
def savePeople (r : Repository Person) : List (String × Int64) → Script (Repository Person)
  | [] => pure r
  | (name, birthYear) :: rest => do
    let r ← savePerson r name birthYear
    savePeople r rest

/-- Prints people that were found. -/
def printFound : List Person → Script Unit
  | [] => pure ()
  | person :: rest => do
    print s!"find_by_name_and_birth_year(IU,1995) id={showKey person.id}"
    printFound rest

/-- Opens the repository of people and registers its queries. -/
def openPeople (unit : String) : Script (Repository Person) := do
  let r ← openRepository people unit
  let r ← register r "findByName"
  let r ← register r "findByNameAndBirthYear"
  register r "countByBirthYear"

/-- Opens the repository of items and registers its query. -/
def openItems (unit : String) : Script (Repository Item) := do
  let r ← openRepository items unit
  register r "findByName"

/-- The part about people. -/
def runPeople (unit : String) : Script Unit := do
  let r ← openPeople unit
  print s!"mimic_core version={version}"
  let r ← savePeople r cast
  let all ← read r r.count
  print s!"count={all}"
  let named ← read r (r.findBy "findByName" [.text "IU"])
  print s!"find_by_name(IU)={named.length}"
  let found ← read r (r.findBy "findByNameAndBirthYear" [.text "IU", .integer 1995])
  printFound found
  let born ← read r (r.countBy "countByBirthYear" [.integer 1993])
  print s!"count_by_birth_year(1993)={born}"
  let (_, r) ← write r r.deleteAll
  let left ← read r r.count
  print s!"count_after_delete_all={left}"

/-- Removes an item that has a key. -/
def removeItem (r : Repository Item) : Option Int64 → Script (Repository Item)
  | none => pure r
  | some key => do
    let (_, r) ← write r (r.deleteById (.integer key))
    return r

/-- The part about items. -/
def runItems (unit : String) : Script Unit := do
  let r ← openItems unit
  let (jean, r) ← write r (r.save ⟨none, "black jean"⟩)
  let (jean, r) ← write r (r.save { jean with name := "blue jean" })
  print s!"item id={showKey jean.id} name={jean.name}"
  let black ← read r (r.findBy "findByName" [.text "black jean"])
  print s!"find_by_name(black jean)={black.length}"
  let blue ← read r (r.findBy "findByName" [.text "blue jean"])
  print s!"find_by_name(blue jean)={blue.length}"
  let r ← removeItem r jean.id
  let left ← read r r.count
  print s!"item_count_after_delete_by_id={left}"

/-- The name of the unit for a file. -/
def fileUnitName : String :=
  "mimic-cli"

/-- Registers the unit that the program runs on.  Only the first argument counts. -/
def chooseUnit : List String → Script String
  | [] => pure PersistenceUnit.defaultName
  | path :: _ => do
    let p ← get
    match p.environment.registerUnit (.new fileUnitName (.file path)) with
    | .ok (environment, _) =>
      set { p with environment }
      return fileUnitName
    | .error fault => throw (.registration fault)

/-- The whole program. -/
def script (arguments : List String) : Script Unit := do
  let unit ← chooseUnit arguments
  runPeople unit
  runItems unit

/-- What a run leaves behind: why it failed, if it did, the lines it printed, and the
environment for the next run. -/
structure Result where
  failure : Option Fault
  lines : List String
  environment : Environment

/-- Runs the program in an environment in which no session is open. -/
def run (env : Environment) (arguments : List String) : Result :=
  match (script arguments).run ⟨env, []⟩ with
  | (.ok (), p) => ⟨none, p.lines, p.environment.restart⟩
  | (.error fault, p) => ⟨some fault, p.lines, p.environment.restart⟩

end EntityStore.Demo

import EntityStore.Demo
import EntityStore.Proofs.Repository.Ledger
/-!
# The tables of the demonstration

What the demonstration keeps in its store: a table of people and a table of items, each with the
last number that was given out.  Earlier runs leave both tables behind without rows (`leftBy`), and
before the first run there is none.  A repository of people and one of items can be opened on what
is there (`new_people`, `new_items`); the tables are isolated from each other, and the rows of both
can be read.
-/

namespace EntityStore

/-! ## 1. Tables and rows -/

namespace People

/-- The attributes of people with their columns and accessors. -/
def metadata : Metadata Demo.Person where
  entity := "Person"
  table := "person"
  attributes := [⟨(Attribute.id "id" .integer).asGenerated, "id",
      fun person => Demo.keyValue person.id⟩,
    ⟨(Attribute.new "name" .text).asNotNull, "name", fun person => .text person.name⟩,
    ⟨(Attribute.new "birthYear" .integer).asNotNull, "birth_year",
      fun person => .integer person.birthYear⟩]
  identifier := ⟨(Attribute.id "id" .integer).asGenerated, "id",
    fun person => Demo.keyValue person.id⟩
  assigner := some fun person key => { person with id := some key }

end People

namespace Demo

theorem resolve_people : Metadata.resolve people.schema = .ok People.metadata := rfl

theorem resolve_items : Metadata.resolve items.schema = .ok Items.metadata := rfl

/-- A table of people, in which `k` is the last number. -/
def peopleTable (rows : List Row) (k : Nat) : Table :=
  ⟨People.metadata.tableDefinition, rows, .ofNat k, []⟩

/-- A table of items, in which `k` is the last number. -/
def itemTable (rows : List Row) (k : Nat) : Table :=
  ⟨Items.metadata.tableDefinition, rows, .ofNat k, []⟩

theorem item_ne_people (rows rows' : List Row) (k k' : Nat) :
    Name.same (itemTable rows k).name (peopleTable rows' k').name = false :=
  show Name.same "item" "person" = false by decide

/-- The row of a person. -/
def personRow (k : Nat) (name : String) (birthYear : Int64) : Row :=
  ⟨.ofNat k, [.integer (.ofNat k), .text name, .integer birthYear]⟩

/-- The row of an item. -/
def itemRow (k : Nat) (name : String) : Row :=
  ⟨.ofNat k, [.integer (.ofNat k), .text name]⟩

variable {rows : List Row} {s : Session}

theorem fromRow_person (k : Nat) (name : String) (birthYear : Int64) :
    people.fromRow (Database.project People.metadata.tableDefinition.columns
      People.metadata.outputs (personRow k name birthYear)) =
        .ok ⟨some (.ofNat k), name, birthYear⟩ := by
  have hproject : Database.project People.metadata.tableDefinition.columns People.metadata.outputs
      (personRow k name birthYear) =
        ⟨[("id", .integer (.ofNat k)), ("name", .text name), ("birthYear", .integer birthYear)]⟩ :=
    rfl
  have hnames : Name.same "id" "name" = false ∧ Name.same "id" "birthYear" = false ∧
      Name.same "name" "birthYear" = false := by decide
  rw [hproject]
  simp only [people, Person.fromRow, ResultRow.getAs, ResultRow.cell?, ResultRow.index?,
    List.findIdx?_cons, hnames, Name.same_refl]
  rfl

theorem fromRow_item (k : Nat) (name : String) :
    items.fromRow (Database.project Items.metadata.tableDefinition.columns
      Items.metadata.outputs (itemRow k name)) = .ok ⟨some (.ofNat k), name⟩ := by
  have hproject : Database.project Items.metadata.tableDefinition.columns Items.metadata.outputs
      (itemRow k name) = ⟨[("id", .integer (.ofNat k)), ("name", .text name)]⟩ := rfl
  have hname : Name.same "id" "name" = false := by decide
  rw [hproject]
  simp only [items, Item.fromRow, ResultRow.getAs, ResultRow.cell?, ResultRow.index?,
    List.findIdx?_cons, hname, Name.same_refl]
  rfl

/-! ## 2. Stores -/

/-- A store that holds tables and nothing else.  Each of them has keys that are never used again. -/
def shelf (tables : List Table) : Store :=
  ⟨⟨tables, [], [], !tables.isEmpty, []⟩, none, true⟩

/-- The tables of items that there are after some runs. -/
def itemTables : Nat → List Table
  | 0 => []
  | n + 1 => [itemTable [] (n + 1)]

/-- What a number of runs have left behind. -/
def leftBy : Nat → Store
  | 0 => .empty
  | n + 1 => shelf (peopleTable [] (3 * (n + 1)) :: itemTables (n + 1))

theorem idle_shelf (tables : List Table) : (shelf tables).Idle := ⟨rfl, rfl⟩

theorem mem_itemTables {table : Table} {n : Nat} (h : table ∈ itemTables n) :
    table = itemTable [] n := by
  cases n with
  | zero => cases h
  | succ n => exact List.mem_singleton.mp h

theorem isTaken_people (rows : List Row) (k : Nat) (tables : List Table) :
    (shelf (peopleTable rows k :: tables)).committed.isTaken People.metadata.table = true := by
  have hfound : (shelf (peopleTable rows k :: tables)).committed.table? People.metadata.table =
      some (peopleTable rows k) := List.find?_cons_of_pos (Name.same_refl _)
  simp only [Database.isTaken, hfound, Option.isSome_some, Bool.true_or]

theorem put_people (rows rows' : List Row) (k k' n : Nat) :
    (shelf (peopleTable rows k :: itemTables n)).committed.put (peopleTable rows' k') =
      (shelf (peopleTable rows' k' :: itemTables n)).committed := by
  have hitems : (itemTables n).map (fun other =>
      if Name.same other.name (peopleTable rows' k').name then peopleTable rows' k' else other) =
        itemTables n := by
    refine (List.map_congr_left fun other hother => ?_).trans (List.map_id _)
    rw [mem_itemTables hother, item_ne_people]
    rfl
  have hpeople : Name.same (peopleTable rows k).name (peopleTable rows' k').name = true :=
    Name.same_refl _
  simp only [shelf, Database.put, List.map_cons, hitems, hpeople, if_true, List.isEmpty_cons]

theorem put_items (rows rows' : List Row) (k n n' : Nat) :
    (shelf [peopleTable [] k, itemTable rows n]).committed.put (itemTable rows' n') =
      (shelf [peopleTable [] k, itemTable rows' n']).committed := by
  have hpeople : Name.same (peopleTable [] k).name (itemTable rows' n').name = false := by
    rw [Name.same_comm, item_ne_people]
  have hitem : Name.same (itemTable rows n).name (itemTable rows' n').name = true :=
    Name.same_refl _
  simp only [shelf, Database.put, List.map_cons, List.map_nil, hpeople, hitem, if_true,
    Bool.false_eq_true, if_false, List.isEmpty_cons]

theorem isolated_people (k n : Nat) :
    (shelf (peopleTable rows k :: itemTables n)).committed.Isolated (peopleTable rows k) := by
  refine Database.isolated_of_plain rfl List.mem_cons_self ?_ ?_
  · intro other hother hsame
    rcases List.mem_cons.mp hother with rfl | hother
    · rfl
    · rw [mem_itemTables hother, item_ne_people] at hsame
      cases hsame
  · intro other hother
    rcases List.mem_cons.mp hother with rfl | hother
    · exact People.metadata.reference_columns
    · rw [mem_itemTables hother]
      exact Items.metadata.reference_columns

theorem isolated_items (k n : Nat) :
    (shelf [peopleTable [] k, itemTable rows n]).committed.Isolated (itemTable rows n) := by
  refine Database.isolated_of_plain rfl (List.mem_cons_of_mem _ List.mem_cons_self) ?_ ?_
  · intro other hother hsame
    rcases List.mem_cons.mp hother with rfl | hother
    · rw [Name.same_comm, item_ne_people] at hsame
      cases hsame
    · exact List.mem_singleton.mp hother
  · intro other hother
    rcases List.mem_cons.mp hother with rfl | hother
    · exact People.metadata.reference_columns
    · rw [List.mem_singleton.mp hother]
      exact Items.metadata.reference_columns

/-! ## 3. Opening -/

/-- A repository of people creates the table before the first run, and finds it after others. -/
theorem new_people (n : Nat) (hmode : s.schemaMode = .create) :
    (Repository.new people s (leftBy n)).result =
        .ok ⟨s, people, People.metadata, .empty, .new⟩ ∧
      (Repository.new people s (leftBy n)).state =
        shelf (peopleTable [] (3 * n) :: itemTables n) := by
  have hname : Database.isReserved People.metadata.table = false := by decide
  cases n with
  | zero => exact Repository.new_of_idle resolve_people hmode ⟨rfl, rfl⟩ hname
  | succ n =>
    have hnew := Repository.new_of_idle resolve_people hmode
      (idle_shelf (peopleTable [] (3 * (n + 1)) :: itemTables (n + 1))) hname
    rwa [isTaken_people, if_pos rfl] at hnew

/-- A repository of items creates the table before the first run, and finds it after others. -/
theorem new_items (k n : Nat) (hmode : s.schemaMode = .create) :
    (Repository.new items s (shelf (peopleTable [] k :: itemTables n))).result =
        .ok ⟨s, items, Items.metadata, .empty, .new⟩ ∧
      (Repository.new items s (shelf (peopleTable [] k :: itemTables n))).state =
        shelf [peopleTable [] k, itemTable [] n] := by
  have hname : Database.isReserved Items.metadata.table = false := by decide
  have hother : Name.same (peopleTable [] k).name Items.metadata.table = false :=
    (Name.same_comm _ _).trans (item_ne_people [] [] 0 k)
  have hnew := Repository.new_of_idle resolve_items hmode
    (idle_shelf (peopleTable [] k :: itemTables n)) hname
  cases n with
  | zero =>
    have hfree : (shelf (peopleTable [] k :: itemTables 0)).committed.isTaken
        Items.metadata.table = false := by
      simp [shelf, itemTables, Database.isTaken, Database.table?, Database.view?, hother]
    rw [hfree] at hnew
    exact hnew
  | succ n =>
    have hitem : Name.same (itemTable [] (n + 1)).name Items.metadata.table = true :=
      Name.same_refl _
    have htaken : (shelf (peopleTable [] k :: itemTables (n + 1))).committed.isTaken
        Items.metadata.table = true := by
      simp [shelf, itemTables, Database.isTaken, Database.table?, hother, hitem]
    rwa [htaken, if_pos rfl] at hnew

end Demo

end EntityStore

import EntityStore.Proofs.Demo.Steps
import EntityStore.Proofs.Demo.Tables
/-!
# The parts of the demonstration

The demonstration has a part about people (`runPeople_ends`) and one about items (`runItems_ends`).
Both come to their end on what earlier runs have left behind, and leave the same behind, with the
next numbers.  All that they print is known beforehand: only the numbers differ from run to run
(`peopleLines`, `itemLines`).

Between two steps the store is a ledger of the repository at work (`HoldsPeople`, `HoldsItems`), so
that each step is one of the lemmas about ledgers.
-/

namespace EntityStore

/-! ## 1. Repositories -/

namespace People

/-- The people with a name. -/
def byName : Query.Descriptor :=
  ⟨"person", metadata.outputs, "id", [⟨"name", "name"⟩], .selectFiltered⟩

/-- The people with a name and a year of birth. -/
def byNameAndYear : Query.Descriptor :=
  ⟨"person", metadata.outputs, "id", [⟨"name", "name"⟩, ⟨"birth_year", "birthYear"⟩],
    .selectFiltered⟩

/-- The number of people with a year of birth. -/
def countByYear : Query.Descriptor :=
  ⟨"person", metadata.outputs, "id", [⟨"birth_year", "birthYear"⟩], .countFiltered⟩

/-- The queries on people. -/
def queries : Query.Registry :=
  ⟨[("countByBirthYear", countByYear), ("findByName", byName),
    ("findByNameAndBirthYear", byNameAndYear)]⟩

end People

namespace Items

/-- The items with a name. -/
def byName : Query.Descriptor :=
  ⟨"item", metadata.outputs, "id", [⟨"name", "name"⟩], .selectFiltered⟩

/-- The query on items. -/
def queries : Query.Registry :=
  ⟨[("findByName", byName)]⟩

end Items

namespace Demo

open Repository (Ledger Done)

variable {directories : List (List Component)} {u : PersistenceUnit} {place : Place}
  {lines : List String} {p : Progress} {s : Session} {x : Executor} {rows : List Row} {k n : Nat}

/-- A repository of people with its queries. -/
def clerk (s : Session) (x : Executor) : Repository Person :=
  ⟨s, people, People.metadata, People.queries, x⟩

/-- A repository of items with its query. -/
def keeper (s : Session) (x : Executor) : Repository Item :=
  ⟨s, items, Items.metadata, Items.queries, x⟩

/-- Between two steps a clerk has a ledger of people. -/
abbrev HoldsPeople (directories : List (List Component)) (u : PersistenceUnit) (place : Place)
    (s : Session) (n : Nat) (x : Executor) (rows : List Row) (k : Nat) (lines : List String)
    (p : Progress) : Prop :=
  Holds directories u place people (clerk s x) (shelf (peopleTable rows k :: itemTables n))
    (peopleTable rows k) k lines p

/-- Between two steps a keeper has a ledger of items. -/
abbrev HoldsItems (directories : List (List Component)) (u : PersistenceUnit) (place : Place)
    (s : Session) (k : Nat) (x : Executor) (rows : List Row) (n : Nat) (lines : List String)
    (p : Progress) : Prop :=
  Holds directories u place items (keeper s x) (shelf [peopleTable [] k, itemTable rows n])
    (itemTable rows n) n lines p

theorem openPeople_ends (hunit : Usable directories u place) (hk : 3 * n < 2 ^ 63)
    (h : Stage directories u place (leftBy n) lines p) :
    Ends (openPeople u.name) p fun r p' => ∃ s x, r = clerk s x ∧
      HoldsPeople directories u place s n x [] (3 * n) lines p' := by
  have hclosed : (leftBy n).writer = none := by cases n <;> rfl
  have hname : Query.Method.parse "findByName" = .ok ⟨.selectFiltered, ["name"]⟩ := rfl
  have hboth : Query.Method.parse "findByNameAndBirthYear" =
      .ok ⟨.selectFiltered, ["name", "birthYear"]⟩ := rfl
  have hyear : Query.Method.parse "countByBirthYear" = .ok ⟨.countFiltered, ["birthYear"]⟩ := rfl
  have hfirst : Query.Registry.empty.insert "findByName" People.byName =
      .ok ⟨[("findByName", People.byName)]⟩ := rfl
  have hsecond : Query.Registry.insert ⟨[("findByName", People.byName)]⟩ "findByNameAndBirthYear"
      People.byNameAndYear = .ok ⟨[("findByName", People.byName),
        ("findByNameAndBirthYear", People.byNameAndYear)]⟩ := rfl
  have hthird : Query.Registry.insert ⟨[("findByName", People.byName),
      ("findByNameAndBirthYear", People.byNameAndYear)]⟩ "countByBirthYear" People.countByYear =
        .ok People.queries := rfl
  refine (ends_open h hunit hclosed fun _ hmode => new_people n hmode).bind ?_
  rintro _ _ ⟨⟨s, hs, rfl⟩, h⟩
  refine (ends_register hname rfl hfirst).bind ?_
  rintro _ _ ⟨rfl, rfl⟩
  refine (ends_register hboth rfl hsecond).bind ?_
  rintro _ _ ⟨rfl, rfl⟩
  refine (ends_register hyear rfl hthird).mono ?_
  rintro _ _ ⟨rfl, rfl⟩
  refine ⟨s, .new, rfl, h, ?_, hs⟩
  exact Ledger.of_empty rfl (Metadata.resolved_of_resolve resolve_people) rfl rfl
    (idle_shelf _) (isolated_people _ _) rfl rfl (Table.toInt_key hk)

theorem openItems_ends (hunit : Usable directories u place) (hn : n < 2 ^ 63)
    (h : Stage directories u place (shelf (peopleTable [] k :: itemTables n)) lines p) :
    Ends (openItems u.name) p fun r p' => ∃ s x, r = keeper s x ∧
      HoldsItems directories u place s k x [] n lines p' := by
  have hname : Query.Method.parse "findByName" = .ok ⟨.selectFiltered, ["name"]⟩ := rfl
  have hinsert : Query.Registry.empty.insert "findByName" Items.byName = .ok Items.queries := rfl
  refine (ends_open h hunit rfl fun _ hmode => new_items k n hmode).bind ?_
  rintro _ _ ⟨⟨s, hs, rfl⟩, h⟩
  refine (ends_register hname rfl hinsert).mono ?_
  rintro _ _ ⟨rfl, rfl⟩
  refine ⟨s, .new, rfl, h, ?_, hs⟩
  exact Ledger.of_empty rfl (Metadata.resolved_of_resolve resolve_items) rfl rfl
    (idle_shelf _) (isolated_items _ _) rfl rfl (Table.toInt_key hn)

/-- An operation that leaves other people behind. -/
theorem HoldsPeople.write {α : Type} {act : Store → Answer Person α} {value : α} {rows' : List Row}
    {k' : Nat} (h : HoldsPeople directories u place s n x rows k lines p)
    (hdone : Done people (clerk s x) (shelf (peopleTable rows k :: itemTables n))
      (peopleTable rows' k') k' value (act (shelf (peopleTable rows k :: itemTables n)))) :
    Ends (write (clerk s x) act) p fun a p' => ∃ s' x', a = (value, clerk s' x') ∧
      HoldsPeople directories u place s' n x' rows' k' lines p' := by
  refine (Holds.write h hdone).mono ?_
  rintro _ p' ⟨x', key, rfl, h'⟩
  rw [put_people] at h'
  exact ⟨s.remember key, x', rfl, h'⟩

/-- An operation that leaves other items behind. -/
theorem HoldsItems.write {α : Type} {act : Store → Answer Item α} {value : α} {rows' : List Row}
    {n' : Nat} (h : HoldsItems directories u place s k x rows n lines p)
    (hdone : Done items (keeper s x) (shelf [peopleTable [] k, itemTable rows n])
      (itemTable rows' n') n' value (act (shelf [peopleTable [] k, itemTable rows n]))) :
    Ends (write (keeper s x) act) p fun a p' => ∃ s' x', a = (value, keeper s' x') ∧
      HoldsItems directories u place s' k x' rows' n' lines p' := by
  refine (Holds.write h hdone).mono ?_
  rintro _ p' ⟨x', key, rfl, h'⟩
  rw [put_items] at h'
  exact ⟨s.remember key, x', rfl, h'⟩

/-! ## 2. Lines -/

theorem integer_ofNat (h : k < 2 ^ 63) : Rendering.integer (.ofNat k) = toString k := by
  have hint : (Int64.ofNat k).toInt = k := Table.toInt_key h
  have hnonneg : ¬ (k : Int) < 0 := by omega
  simp only [Rendering.integer, hint, Int.natAbs_natCast, if_neg hnonneg]
  rfl

/-- A key stands between brackets. -/
theorem showKey_ofNat (h : k < 2 ^ 63) :
    showKey (some (.ofNat k)) = "Some(" ++ toString k ++ ")" := by
  rw [← integer_ofNat h]
  rfl

/-- What is printed about a person that was saved. -/
def savedLine (k : Nat) (name : String) (birthYear : Int64) : String :=
  s!"saved id=Some({k}) name={name} birth_year={Rendering.integer birthYear}"

/-- What is printed about people that are saved one after another. -/
def savedLines (k : Nat) : List (String × Int64) → List String
  | [] => []
  | (name, birthYear) :: rest => savedLine (k + 1) name birthYear :: savedLines (k + 1) rest

/-- What is printed about people, if `k` is the last number. -/
def peopleLines (k : Nat) : List String :=
  "mimic_core version=0.1.0" :: savedLines k cast ++ ["count=3", "find_by_name(IU)=2",
    s!"find_by_name_and_birth_year(IU,1995) id=Some({k + 2})",
    "count_by_birth_year(1993)=1", "count_after_delete_all=0"]

/-- What is printed about an item that was given a name. -/
def itemLine (k : Nat) (name : String) : String :=
  s!"item id=Some({k}) name={name}"

/-- What is printed about items, if `n` is the last number. -/
def itemLines (n : Nat) : List String :=
  [itemLine (n + 1) "blue jean", "find_by_name(black jean)=0",
    "find_by_name(blue jean)=1", "item_count_after_delete_by_id=0"]

theorem saved_line (h : k < 2 ^ 63) (name : String) (birthYear : Int64) :
    s!"saved id={showKey (some (.ofNat k))} name={name} birth_year={Rendering.integer birthYear}" =
      savedLine k name birthYear := by
  have hopening : "saved id=Some(" = "saved id=" ++ "Some(" := by decide
  have hclosing : ") name=" = ")" ++ " name=" := by decide
  rw [showKey_ofNat h]
  show "saved id=" ++ ("Some(" ++ toString k ++ ")") ++ " name=" ++ name ++ " birth_year=" ++
      Rendering.integer birthYear =
    "saved id=Some(" ++ toString k ++ ") name=" ++ name ++ " birth_year=" ++
      Rendering.integer birthYear
  rw [hopening, hclosing]
  simp only [String.append_assoc]

theorem found_line (h : k < 2 ^ 63) :
    s!"find_by_name_and_birth_year(IU,1995) id={showKey (some (.ofNat k))}" =
      s!"find_by_name_and_birth_year(IU,1995) id=Some({k})" := by
  have hopening : "find_by_name_and_birth_year(IU,1995) id=Some(" =
      "find_by_name_and_birth_year(IU,1995) id=" ++ "Some(" := by decide
  rw [showKey_ofNat h, hopening]
  exact (String.append_assoc ..).symm

theorem item_line (h : k < 2 ^ 63) (name : String) :
    s!"item id={showKey (some (.ofNat k))} name={name}" = itemLine k name := by
  have hopening : "item id=Some(" = "item id=" ++ "Some(" := by decide
  have hclosing : ") name=" = ")" ++ " name=" := by decide
  rw [showKey_ofNat h]
  show "item id=" ++ ("Some(" ++ toString k ++ ")") ++ " name=" ++ name =
    "item id=Some(" ++ toString k ++ ") name=" ++ name
  rw [hopening, hclosing]
  simp only [String.append_assoc]

theorem people_counts : s!"mimic_core version={version}" = "mimic_core version=0.1.0" ∧
    s!"count={3}" = "count=3" ∧ s!"find_by_name(IU)={2}" = "find_by_name(IU)=2" ∧
    s!"count_by_birth_year(1993)={1}" = "count_by_birth_year(1993)=1" ∧
    s!"count_after_delete_all={0}" = "count_after_delete_all=0" := by decide

theorem item_counts : s!"find_by_name(black jean)={0}" = "find_by_name(black jean)=0" ∧
    s!"find_by_name(blue jean)={1}" = "find_by_name(blue jean)=1" ∧
    s!"item_count_after_delete_by_id={0}" = "item_count_after_delete_by_id=0" := by decide

/-! ## 3. People -/

/-- The rows of people that are saved one after another. -/
def personRows (k : Nat) : List (String × Int64) → List Row
  | [] => []
  | (name, birthYear) :: rest => personRow (k + 1) name birthYear :: personRows (k + 1) rest

/-- The person in a row. -/
def personOf (row : Row) : Person :=
  match row.values with
  | [_, .text name, .integer birthYear] => ⟨some row.key, name, birthYear⟩
  | _ => ⟨none, "", 0⟩

theorem fromRow_personRows {list : List (String × Int64)} : ∀ row ∈ personRows k list,
    people.fromRow (Database.project People.metadata.tableDefinition.columns
      People.metadata.outputs row) = .ok (personOf row) := by
  induction list generalizing k with
  | nil => nofun
  | cons entry rest ih =>
    obtain ⟨name, birthYear⟩ := entry
    intro row hrow
    rcases List.mem_cons.mp hrow with rfl | hrow
    · exact fromRow_person (k + 1) name birthYear
    · exact ih row hrow

theorem savePerson_ends (h : HoldsPeople directories u place s n x rows k lines p)
    (hroom : k + 1 < 2 ^ 63) (name : String) (birthYear : Int64) :
    Ends (savePerson (clerk s x) name birthYear) p fun r p' => ∃ s' x', r = clerk s' x' ∧
      HoldsPeople directories u place s' n x' (rows ++ [personRow (k + 1) name birthYear]) (k + 1)
        (lines ++ [savedLine (k + 1) name birthYear]) p' := by
  refine (HoldsPeople.write h (h.ledger.save_new ⟨none, name, birthYear⟩ rfl hroom rfl)).bind ?_
  rintro _ p' ⟨s', x', rfl, h'⟩
  rw [← saved_line hroom name birthYear]
  exact (h'.print _).bind fun _ _ h'' => ends_pure ⟨s', x', rfl, h''⟩

/-- **People that are saved get the next numbers**, in order. -/
theorem savePeople_ends (list : List (String × Int64))
    (h : HoldsPeople directories u place s n x rows k lines p)
    (hroom : k + list.length < 2 ^ 63) :
    Ends (savePeople (clerk s x) list) p fun r p' => ∃ s' x', r = clerk s' x' ∧
      HoldsPeople directories u place s' n x' (rows ++ personRows k list) (k + list.length)
        (lines ++ savedLines k list) p' := by
  induction list generalizing s x rows k lines p with
  | nil =>
    rw [personRows, savedLines, List.append_nil, List.append_nil]
    exact ends_pure ⟨s, x, rfl, h⟩
  | cons entry rest ih =>
    obtain ⟨name, birthYear⟩ := entry
    rw [List.length_cons] at hroom
    refine (savePerson_ends h (by omega) name birthYear).bind ?_
    rintro _ p' ⟨s', x', rfl, h'⟩
    have hrest := ih h' (by omega)
    rw [List.append_assoc, List.append_assoc, Nat.add_assoc, Nat.add_comm 1] at hrest
    exact hrest

theorem printFound_ends (found : List Person)
    (h : HoldsPeople directories u place s n x rows k lines p) :
    Ends (printFound found) p fun _ p' => HoldsPeople directories u place s n x rows k
      (lines ++ found.map fun person =>
        s!"find_by_name_and_birth_year(IU,1995) id={showKey person.id}") p' := by
  induction found generalizing lines p with
  | nil =>
    rw [List.map_nil, List.append_nil]
    exact ends_pure h
  | cons person rest ih =>
    refine (h.print _).bind fun _ _ h' => ?_
    have hrest := ih h'
    rw [List.append_assoc] at hrest
    exact hrest

theorem prepare_byName :
    (clerk s x).prepareQuery "findByName" .selectFiltered [.text "IU"] =
      .ok (People.byName, [("name", .text "IU")]) := rfl

theorem prepare_byNameAndYear :
    (clerk s x).prepareQuery "findByNameAndBirthYear" .selectFiltered
        [.text "IU", .integer 1995] =
      .ok (People.byNameAndYear, [("name", .text "IU"), ("birthYear", .integer 1995)]) := rfl

theorem prepare_countByYear :
    (clerk s x).prepareQuery "countByBirthYear" .countFiltered [.integer 1993] =
      .ok (People.countByYear, [("birthYear", .integer 1993)]) := rfl

/-- **The part about people.**  It saves three, finds them again, and removes all. -/
theorem runPeople_ends (hunit : Usable directories u place) (hroom : 3 * n + 3 < 2 ^ 63)
    (h : Stage directories u place (leftBy n) lines p) :
    Ends (runPeople u.name) p fun _ p' =>
      Stage directories u place (shelf (peopleTable [] (3 * n + 3) :: itemTables n))
        (lines ++ peopleLines (3 * n)) p' := by
  obtain ⟨hversion, hcount, hnamed, hborn, hleft⟩ := people_counts
  refine (openPeople_ends hunit (by omega) h).bind ?_
  rintro _ _ ⟨s, x, rfl, h⟩
  refine (h.print _).bind fun _ _ h => ?_
  refine (savePeople_ends cast h hroom).bind ?_
  rintro _ _ ⟨s, x, rfl, h⟩
  have hread : ∀ row ∈ personRows (3 * n) cast, _ := fromRow_personRows
  have hall : (clerk s x).count _ = .ok 3 := h.ledger.count
  refine h.read hall ?_
  refine (h.print _).bind fun _ _ h => ?_
  -- The order in which entities are found does not matter here: two are counted, and one is alone.
  obtain ⟨found, hfound, hperm⟩ := h.ledger.findBy hread prepare_byName
  refine h.read hfound ?_
  rw [show found.length = 2 from hperm.length_eq]
  refine (h.print _).bind fun _ _ h => ?_
  obtain ⟨found, hfound, hperm⟩ := h.ledger.findBy hread prepare_byNameAndYear
  obtain rfl : found = [⟨some (.ofNat (3 * n + 2)), "IU", 1995⟩] := List.perm_singleton.mp hperm
  refine h.read hfound ?_
  refine (printFound_ends _ h).bind fun _ _ h => ?_
  rw [List.map_singleton, found_line (by omega)] at h
  have hyear : (clerk s x).countBy "countByBirthYear" [.integer 1993] _ = .ok 1 :=
    h.ledger.countBy prepare_countByYear
  refine h.read hyear ?_
  refine (h.print _).bind fun _ _ h => ?_
  have hdone : Done people (clerk s x) _ (peopleTable [] (3 * n + 3)) (3 * n + 3) () _ :=
    h.ledger.deleteAll
  refine (HoldsPeople.write h hdone).bind ?_
  rintro _ _ ⟨s, x, rfl, h⟩
  have hnone : (clerk s x).count _ = .ok 0 := h.ledger.count
  refine h.read hnone ?_
  refine (h.print _).mono fun _ _ h => ?_
  have hstage := h.stage
  rw [hversion, hcount, hnamed, hborn, hleft] at hstage
  simp only [List.append_assoc] at hstage
  exact hstage

/-! ## 4. Items -/

theorem prepare_item (name : String) :
    (keeper s x).prepareQuery "findByName" .selectFiltered [.text name] =
      .ok (Items.byName, [("name", .text name)]) := rfl

theorem ofNat_ne_zero (h : n + 1 < 2 ^ 63) : Int64.ofNat (n + 1) ≠ 0 := by
  intro hzero
  have hint : (Int64.ofNat (n + 1)).toInt = ((n + 1 : Nat) : Int) := Table.toInt_key h
  rw [hzero, Int64.toInt_zero] at hint
  omega

/-- The only item is given another name. -/
theorem replace_item (k : Nat) (name name' : String) :
    (itemTable [itemRow k name] k).replace (.ofNat k) (itemRow k name').values =
      itemTable [itemRow k name'] k := by
  simp [itemTable, Table.replace, itemRow]

/-- The only item is removed. -/
theorem without_item (k : Nat) (name : String) :
    (itemTable [itemRow k name] k).without (·.key == .ofNat k) = itemTable [] k := by
  simp [itemTable, Table.without, itemRow]

/-- An item that can be removed is. -/
theorem removeItem_ends {key : Int64} {rows' : List Row}
    (h : HoldsItems directories u place s k x rows n lines p)
    (hdone : Done items (keeper s x) (shelf [peopleTable [] k, itemTable rows n])
      (itemTable rows' n) n ()
      ((keeper s x).deleteById (.integer key) (shelf [peopleTable [] k, itemTable rows n]))) :
    Ends (removeItem (keeper s x) (some key)) p fun r p' => ∃ s' x', r = keeper s' x' ∧
      HoldsItems directories u place s' k x' rows' n lines p' := by
  refine (HoldsItems.write h hdone).bind ?_
  rintro _ _ ⟨s', x', rfl, h'⟩
  exact ends_pure ⟨s', x', rfl, h'⟩

/-- **The part about items.**  It saves one, saves it again under another name, and removes it. -/
theorem runItems_ends (hunit : Usable directories u place) (hroom : n + 1 < 2 ^ 63)
    (h : Stage directories u place (shelf (peopleTable [] k :: itemTables n)) lines p) :
    Ends (runItems u.name) p fun _ p' =>
      Stage directories u place (shelf [peopleTable [] k, itemTable [] (n + 1)])
        (lines ++ itemLines n) p' := by
  obtain ⟨hblack, hblue, hleft⟩ := item_counts
  refine (openItems_ends hunit (by omega) h).bind ?_
  rintro _ _ ⟨s, x, rfl, h⟩
  have hsaved : Done items (keeper s x) _ (itemTable [itemRow (n + 1) "black jean"] (n + 1)) (n + 1)
      (⟨some (.ofNat (n + 1)), "black jean"⟩ : Item) _ :=
    h.ledger.save_new ⟨none, "black jean"⟩ rfl hroom rfl
  refine (HoldsItems.write h hsaved).bind ?_
  rintro _ _ ⟨s, x, rfl, h⟩
  have hrenamed : Done items (keeper s x) _
      ((itemTable [itemRow (n + 1) "black jean"] (n + 1)).replace (.ofNat (n + 1))
        (itemRow (n + 1) "blue jean").values) (n + 1)
      (⟨some (.ofNat (n + 1)), "blue jean"⟩ : Item) _ :=
    h.ledger.save_known ⟨some (.ofNat (n + 1)), "blue jean"⟩ List.mem_cons_self
      (ofNat_ne_zero hroom) rfl nofun rfl
  rw [replace_item] at hrenamed
  refine (HoldsItems.write h hrenamed).bind ?_
  rintro _ _ ⟨s, x, rfl, h⟩
  refine (h.print _).bind fun _ _ h => ?_
  have hread : ∀ row ∈ [itemRow (n + 1) "blue jean"], items.fromRow
      (Database.project Items.metadata.tableDefinition.columns Items.metadata.outputs row) =
        .ok ⟨some (.ofNat (n + 1)), "blue jean"⟩ := by
    intro row hrow
    rw [List.mem_singleton.mp hrow]
    exact fromRow_item (n + 1) "blue jean"
  obtain ⟨found, hfound, hperm⟩ := h.ledger.findBy hread (prepare_item "black jean")
  refine h.read hfound ?_
  rw [show found.length = 0 from hperm.length_eq]
  refine (h.print _).bind fun _ _ h => ?_
  obtain ⟨found, hfound, hperm⟩ := h.ledger.findBy hread (prepare_item "blue jean")
  refine h.read hfound ?_
  rw [show found.length = 1 from hperm.length_eq]
  refine (h.print _).bind fun _ _ h => ?_
  have hremoved : Done items (keeper s x) _
      ((itemTable [itemRow (n + 1) "blue jean"] (n + 1)).without (·.key == .ofNat (n + 1))) (n + 1)
      () _ :=
    h.ledger.deleteById List.mem_cons_self (fromRow_item (n + 1) "blue jean") rfl
  rw [without_item] at hremoved
  refine (removeItem_ends h hremoved).bind ?_
  rintro _ _ ⟨s, x, rfl, h⟩
  have hnone : (keeper s x).count _ = .ok 0 := h.ledger.count
  refine h.read hnone ?_
  refine (h.print _).mono fun _ _ h => ?_
  have hstage := h.stage
  rw [hblack, hblue, hleft, item_line hroom "blue jean"] at hstage
  simp only [List.append_assoc] at hstage
  exact hstage

end Demo

end EntityStore

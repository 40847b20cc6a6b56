import EntityStore.Proofs.Store.Soundness
/-!
# Names that are kept for one definition

Statements change the rows of a table, but not its definition, and they forget no key
(`Table.Later`).  So a name that is kept for the tables of one definition, and that no guard
watches, stays so whatever statements are run, on whatever tables (`lasting_dedicated`).
-/

namespace EntityStore

/-! ## 1. Later tables -/

/-- A later state of a table: the definition is the same, and no key is forgotten. -/
structure Table.Later (t t' : Table) : Prop where
  definition : t'.definition = t.definition
  lastKey : t.lastKey.toInt ≤ t'.lastKey.toInt

namespace Table

variable {t t' t'' : Table}

theorem Later.refl (t : Table) : t.Later t :=
  ⟨rfl, Int.le_refl _⟩

theorem Later.trans (h : t.Later t') (h' : t'.Later t'') : t.Later t'' :=
  ⟨h'.definition.trans h.definition, Int.le_trans h.lastKey h'.lastKey⟩

theorem later_record (t : Table) (key : Int64) : t.Later (t.record key) where
  definition := rfl
  lastKey := by
    rw [show (t.record key).lastKey = if t.lastKey ≤ key then key else t.lastKey from rfl]
    split
    · rename_i hle
      exact Int64.le_iff_toInt_le.mp hle
    · exact Int.le_refl _

theorem later_add (t : Table) (row : Row) : t.Later (t.add row) :=
  ⟨rfl, (later_record t row.key).lastKey⟩

theorem later_remove (t : Table) (key : Int64) : t.Later (t.remove key) :=
  ⟨rfl, Int.le_refl _⟩

theorem later_replace (t : Table) (key : Int64) (values : List Value) :
    t.Later (t.replace key values) :=
  ⟨rfl, Int.le_refl _⟩

end Table

namespace Database

open Table

variable {db : Database} {t t' : Table} {row : Row} {parameters : Parameters} {slots : List Slot}

theorem later_addRow (h : addRow t row = .ok t') : t.Later t' := by
  obtain ⟨-, -, -, rfl⟩ := addRow_eq_ok.mp h
  exact later_add t row

theorem later_insertRow {key : Int64} (h : db.insertRow t parameters slots = .ok (t', key)) :
    t.Later t' := by
  obtain ⟨-, -, -, hadd⟩ := insertRow_ok h
  exact later_addRow hadd

theorem later_updateRow (h : db.updateRow parameters slots t row = .ok t') : t.Later t' := by
  obtain ⟨key, -, ⟨-, -, rfl⟩ | ⟨-, moved, hadd, rfl⟩⟩ := updateRow_ok h
  · exact later_replace t _ _
  · exact ⟨(later_addRow hadd).definition, Int.le_refl _⟩

theorem later_deleteRow (h : db.deleteRow t row = .ok t') : t.Later t' := by
  obtain rfl := deleteRow_ok h
  exact later_remove t row.key

theorem later_changeRows {step : Table → Row → Except Halt Table} (hpassed : KeepsPassed step)
    (hstep : ∀ t row t', step t row = .ok t' → t.Later t') (rows : List Row) (t : Table) :
    t.Later (changeRows step rows t).1 :=
  changeRows_invariant (P := t.Later) hpassed
    (fun x row x' _ hx hdone => hx.trans (hstep x row x' hdone)) (.refl t)

/-- **A statement puts a later table in the place of one**, if it leaves anything behind. -/
theorem leaves_later {P : Database → Prop} (h : P db) (hput : ∀ t', t.Later t' → P (db.put t'))
    (change : Change) (parameters : Parameters) : Leaves P (db.apply t change parameters) := by
  cases change with
  | insert name values =>
    unfold Database.apply
    dsimp only
    split
    · rename_i t' key hinsert
      exact leaves_settle h (hput t' (later_insertRow hinsert)) _ _ nofun
    · rename_i hinsert
      refine leaves_settle h (hput t (.refl t)) _ _ fun t' hpassed => ?_
      cases hpassed
      obtain ⟨⟨key, rfl⟩, -⟩ := insertRow_passed hinsert
      exact hput _ (later_record t key)
  | update filter values =>
    exact leaves_changeRows h
      (hput _ (later_changeRows keepsPassed_updateRow (fun _ _ _ => later_updateRow) _ t)) none
  | delete filter =>
    exact leaves_changeRows h
      (hput _ (later_changeRows keepsPassed_deleteRow (fun _ _ _ => later_deleteRow) _ t)) none

/-! ## 2. Dedicated names -/

/-- A name is kept for one definition: only tables of that definition have it, they remember a key
that is not below zero, and no guard watches them. -/
structure Dedicated (definition : TableDefinition) (db : Database) : Prop where
  tables : ∀ t ∈ db.tables, Name.same t.name definition.name = true →
    t.definition = definition ∧ 0 ≤ t.lastKey.toInt
  guards : ∀ g ∈ db.guards, Name.same g.table definition.name = false

variable {definition : TableDefinition}

theorem Dedicated.table? (h : db.Dedicated definition)
    (ht : db.table? definition.name = some t) :
    t.definition = definition ∧ 0 ≤ t.lastKey.toInt :=
  h.tables t (List.mem_of_find?_eq_some ht)
    (List.find?_some (p := fun x : Table => Name.same x.name definition.name) ht)

/-- **A dedicated name stays dedicated**, whatever statements are run. -/
theorem lasting_dedicated (definition : TableDefinition) : Lasting (Dedicated definition) := by
  intro db t change parameters h ht
  refine leaves_later h (fun t' hlater => ⟨fun x hx hname => ?_, h.guards⟩) change parameters
  obtain ⟨y, hy, rfl⟩ := List.mem_map.mp hx
  split at hname
  · rename_i hput
    rw [if_pos hput]
    have htable := h.tables t (List.mem_of_find?_eq_some ht)
      (by rwa [name, ← hlater.definition])
    exact ⟨hlater.definition.trans htable.1, Int.le_trans htable.2 hlater.lastKey⟩
  · rename_i hput
    rw [if_neg hput]
    exact h.tables y hy hname

/-- No table has a name, and no guard watches it. -/
structure Vacant (name : String) (db : Database) : Prop where
  tables : ∀ t ∈ db.tables, Name.same t.name name = false
  guards : ∀ g ∈ db.guards, Name.same g.table name = false

/-- A vacant name is kept for whatever definition comes. -/
theorem Vacant.dedicated (h : db.Vacant definition.name) : db.Dedicated definition where
  tables := fun t ht hname => by
    rw [h.tables t ht] at hname
    cases hname
  guards := h.guards

/-- Creating the table of the definition, or one of another name, keeps the name dedicated. -/
theorem Dedicated.createTable (h : db.Dedicated definition) {other : TableDefinition}
    (hother : Name.same other.name definition.name = true → other = definition) {unlessTaken : Bool}
    {after : Database} (hdone : db.alter (.createTable other unlessTaken) = .ok after) :
    after.Dedicated definition := by
  rcases createTable_ok hdone with rfl | rfl
  · exact h
  · refine ⟨fun t ht hname => ?_, h.guards⟩
    rcases List.mem_append.mp ht with ht | ht
    · exact h.tables t ht hname
    · rw [List.mem_singleton.mp ht] at hname ⊢
      exact ⟨hother hname, Int.le_refl _⟩

end Database

end EntityStore

import EntityStore.Proofs.Store.Creation
import EntityStore.Proofs.Store.Filtering
/-!
# Tables on their own

A table is isolated in a database if no other table has its name, no guard watches it, and no
reference leads from it or to it.  What a statement does to an isolated table depends on that table
alone: nothing but its own columns and rows can make the statement fail, and no orphan comes or
goes (`Isolated.perform_done`, `Isolated.perform_halted`).

A table that is created under a name that nothing in the database has or refers to is isolated
(`Unused.isolated`).
-/

namespace EntityStore.Database

variable {db : Database} {t t' : Table}

/-- Nothing but the table itself has to do with its name. -/
structure Isolated (db : Database) (t : Table) : Prop where
  mem : t ∈ db.tables
  only : ∀ other ∈ db.tables, Name.same other.name t.name = true → other = t
  guards : ∀ g ∈ db.guards, Name.same g.table t.name = false
  references : ∀ c ∈ t.columns, c.reference = none
  referrers : ∀ other ∈ db.tables, ∀ c ∈ other.columns, ∀ r, c.reference = some r →
    Name.same r.table t.name = false

/-- Nothing has a name, and nothing refers to it. -/
structure Unused (db : Database) (name : String) : Prop where
  tables : ∀ t ∈ db.tables, Name.same t.name name = false
  views : ∀ view ∈ db.views, Name.same view.name name = false
  guards : ∀ g ∈ db.guards, Name.same g.table name = false
  referrers : ∀ t ∈ db.tables, ∀ c ∈ t.columns, ∀ r, c.reference = some r →
    Name.same r.table name = false

/-! ## 1. Orphans -/

/-- Two databases in which names other than `name` stand for tables of the same rows and columns,
and for views alike. -/
def AgreeBut (name : String) (db db' : Database) : Prop :=
  ∀ other, Name.same other name = false →
    db'.table? other = db.table? other ∧ db'.view? other = db.view? other

/-- The orphans of a table are the same in both, if its references do not lead to the name. -/
theorem orphansIn_congr {name : String} {db db' : Database} (h : AgreeBut name db db')
    {other : Table} (href : ∀ c ∈ other.columns, ∀ r, c.reference = some r →
      Name.same r.table name = false) (deferred : Bool) :
    db'.orphansIn deferred other = db.orphansIn deferred other := by
  unfold orphansIn
  refine List.foldl_ext _ _ _ fun n (column, r) hr => ?_
  have hname : Name.same r.table name = false := by
    obtain ⟨c, hc, hcr⟩ := List.mem_filterMap.mp (List.mem_filter.mp hr).1
    obtain ⟨r', hr', heq⟩ := Option.map_eq_some_iff.mp hcr
    cases heq
    exact href c hc r hr'
  obtain ⟨htable, hview⟩ := h r.table hname
  have hlead : ∀ value, db'.leadsSomewhere other r value = db.leadsSomewhere other r value := by
    intro value
    simp only [leadsSomewhere, referent, htable, hview]
  have horphan : db'.isOrphan other column r = db.isOrphan other column r := by
    funext row
    simp only [isOrphan, hlead]
  simp only [horphan]

/-! ## 2. Tables without guards -/

section Unguarded

variable {change : Change} {parameters : Parameters}

/-- A statement on a table without guards and references is looked at for its names only. -/
theorem check_of_unguarded (hguards : ∀ g ∈ db.guards, Name.same g.table t.name = false)
    (hreferences : ∀ c ∈ t.columns, c.reference = none) (enforce : Bool)
    (hnames : db.checkNames change = .ok t) : db.check enforce change = .ok t := by
  have hguarded : db.unknownGuarded? (eventOf change) t = none := by
    have : db.guards.find? (fun g => g.event = eventOf change && Name.same g.table t.name &&
        (Table.columnIndex? t.columns g.column).isNone && !Table.isKeyName g.column) = none :=
      List.find?_eq_none.mpr fun g hg => by simp [hguards g hg]
    simp [unknownGuarded?, this]
  have hreferred : db.checkReferences t (touches change) = .ok () := by
    simp [checkReferences, references_eq_nil hreferences]
  simp only [Database.check, hnames, hguarded, hreferred, ite_self]

theorem ask_of_unguarded (hguards : ∀ g ∈ db.guards, Name.same g.table t.name = false)
    (event : RowEvent) (row : Row) : db.ask event t row = .ok () := by
  have : db.guards.find? (fun g => g.refuses event t.name t.columns row) = none :=
    List.find?_eq_none.mpr fun g hg => by simp [Guard.refuses, hguards g hg]
  simp [Database.ask, this]

theorem updateRow_of_unguarded (hguards : ∀ g ∈ db.guards, Name.same g.table t.name = false)
    (slots : List Slot) {row : Row}
    (hkey : shownKey t row (otherValues t parameters slots row) = .ok row.key) :
    db.updateRow parameters slots t row =
      match t.checkRow ⟨row.key, otherValues t parameters slots row⟩ with
      | .error halt => .error halt
      | .ok () => .ok (t.replace row.key (otherValues t parameters slots row)) := by
  unfold otherValues at hkey ⊢
  rw [Database.updateRow]
  simp only [hkey, ask_of_unguarded hguards]
  cases t.checkRow _ <;> rfl

end Unguarded

/-! ## 3. Putting an isolated table -/

namespace Isolated

theorem table? (h : db.Isolated t) {name : String} (hname : Name.same t.name name = true) :
    db.table? name = some t := by
  have hsame : ∀ other : Table, Name.same other.name name = Name.same other.name t.name := by
    intro other
    simp only [Name.same, eq_of_beq hname]
  cases hfound : db.table? name with
  | none =>
    have := List.find?_eq_none.mp hfound t h.mem
    exact absurd hname (by simpa using this)
  | some other =>
    have hmatch : Name.same other.name name = true :=
      List.find?_some (p := fun x : Table => Name.same x.name name) hfound
    rw [h.only other (List.mem_of_find?_eq_some hfound) (hsame other ▸ hmatch)]

/-- Another table in its place changes nothing for other names. -/
theorem agree_put (ht : t'.name = t.name) : AgreeBut t.name db (db.put t') := by
  intro other hother
  refine ⟨?_, rfl⟩
  have hkeep : ((fun x : Table => Name.same x.name other) ∘
      fun x => if Name.same x.name t'.name then t' else x) = fun x => Name.same x.name other := by
    funext x
    simp only [Function.comp_apply, ht]
    split
    · rename_i hx
      have hfold : Name.fold x.name = Name.fold t.name := eq_of_beq hx
      simp only [Name.same, ht, hfold]
    · rfl
  unfold Database.table? put
  rw [List.find?_map, hkeep]
  cases hfound : db.tables.find? fun x => Name.same x.name other with
  | none => rfl
  | some x =>
    have hx : Name.same x.name other = true :=
      List.find?_some (p := fun x : Table => Name.same x.name other) hfound
    have hne : Name.same x.name t'.name = false := by
      simp only [Name.same, ht, eq_of_beq hx] at hother ⊢
      exact hother
    simp [hne]

theorem put (h : db.Isolated t) (hdef : t'.definition = t.definition) :
    (db.put t').Isolated t' := by
  have hname : t'.name = t.name := congrArg TableDefinition.name hdef
  have hcases : ∀ x ∈ (db.put t').tables,
      x = t' ∨ (x ∈ db.tables ∧ Name.same x.name t.name = false) := by
    intro x hx
    obtain ⟨y, hy, rfl⟩ := List.mem_map.mp hx
    cases hs : Name.same y.name t'.name with
    | true => simp
    | false => exact .inr ⟨by simpa [hs] using hy, by simpa [hs, hname] using hs⟩
  refine ⟨?_, fun x hx hsame => ?_, fun g hg => hname ▸ h.guards g hg, ?_, fun x hx => ?_⟩
  · refine List.mem_map.mpr ⟨t, h.mem, ?_⟩
    rw [hname, Name.same_refl, if_pos rfl]
  · rcases hcases x hx with rfl | ⟨-, hne⟩
    · rfl
    · rw [hname, hne] at hsame
      cases hsame
  · rw [Table.columns, hdef]
    exact h.references
  · rw [hname]
    rcases hcases x hx with rfl | ⟨hmem, -⟩
    · rw [Table.columns, hdef]
      exact h.referrers t h.mem
    · exact h.referrers x hmem

/-- No orphan comes or goes where an isolated table is put. -/
theorem orphans_put (h : db.Isolated t) (hdef : t'.definition = t.definition) (deferred : Bool) :
    (db.put t').orphans deferred = db.orphans deferred := by
  have hname : t'.name = t.name := congrArg TableDefinition.name hdef
  unfold orphans
  rw [show (db.put t').tables = db.tables.map fun other =>
    if Name.same other.name t'.name then t' else other from rfl, List.foldl_map]
  refine List.foldl_ext _ _ _ fun n other hother => ?_
  cases hs : Name.same other.name t'.name with
  | false =>
    simp only [Bool.false_eq_true, if_false]
    rw [orphansIn_congr (agree_put hname) (h.referrers other hother)]
  | true =>
    have hother : other = t := h.only other hother (hname ▸ hs)
    have hreferences : ∀ c ∈ t'.columns, c.reference = none := by
      rw [Table.columns, hdef]
      exact h.references
    simp only [if_true]
    rw [orphansIn_of_no_references hreferences, hother, orphansIn_of_no_references h.references]

/-! ## 4. Statements -/

variable {change : Change} {parameters : Parameters} {name : String} {slots : List Slot}

theorem apply_insert_ok {key : Int64} (h : db.insertRow t parameters slots = .ok (t', key)) :
    db.apply t (.insert name slots) parameters = .done (db.put t') 1 (some key) := by
  simp only [apply, h, settle]

theorem apply_insert_error {halt : Halt} (h : db.insertRow t parameters slots = .error halt) :
    db.apply t (.insert name slots) parameters = db.settle t 0 none (some halt) := by
  simp only [apply, h]

/-- Nothing outside an isolated table is looked at before a statement, apart from the names in
it. -/
theorem check (h : db.Isolated t) (enforce : Bool) (hnames : db.checkNames change = .ok t) :
    db.check enforce change = .ok t :=
  check_of_unguarded h.guards h.references enforce hnames

/-- No guard stands in the way. -/
theorem ask (h : db.Isolated t) (ht : t'.name = t.name) (event : RowEvent) (row : Row) :
    db.ask event t' row = .ok () :=
  ask_of_unguarded (ht ▸ h.guards) event row

/-- An insertion takes a key, and adds a row under it. -/
theorem insertRow (h : db.Isolated t) (slots : List Slot) : db.insertRow t parameters slots =
    match givenKey t (newValues t parameters slots) with
    | .error halt => .error halt
    | .ok key? =>
      match db.chosenKey t key? with
      | .error halt => .error halt
      | .ok key =>
        match addRow t ⟨key, showKey t.columns key (newValues t parameters slots)⟩ with
        | .error halt => .error halt
        | .ok t' => .ok (t', key) := by
  unfold Database.insertRow
  simp only [h.ask rfl]
  rfl

/-- An update that keeps the key of a row checks the other values and puts them in. -/
theorem updateRow (h : db.Isolated t) (slots : List Slot) {row : Row}
    (hkey : shownKey t row (otherValues t parameters slots row) = .ok row.key) :
    db.updateRow parameters slots t row =
      match t.checkRow ⟨row.key, otherValues t parameters slots row⟩ with
      | .error halt => .error halt
      | .ok () => .ok (t.replace row.key (otherValues t parameters slots row)) :=
  updateRow_of_unguarded h.guards slots hkey

/-- A removal takes the row out. -/
theorem deleteRow (h : db.Isolated t) (ht : t'.name = t.name) (row : Row) :
    db.deleteRow t' row = .ok (t'.remove row.key) := by
  simp only [Database.deleteRow, h.ask ht]

/-- No removal of rows is stopped. -/
theorem changeRows_deleteRow (h : db.Isolated t) (ht : t'.name = t.name) (rows : List Row) :
    (changeRows db.deleteRow rows t').2.2 = none := by
  induction rows generalizing t' with
  | nil => rfl
  | cons row rest ih =>
    simp only [changeRows, h.deleteRow ht]
    exact ih ht

/-- **A statement that gets through the rows of an isolated table is performed.** -/
theorem perform_done (h : db.Isolated t) (s : Session) (hnames : db.checkNames change = .ok t)
    {changed : Nat} {key : Option Int64}
    (happly : db.apply t change parameters = .done (db.put t') changed key)
    (hdef : t'.definition = t.definition) :
    db.perform s change parameters = .ok (⟨changed, key⟩, db.put t') := by
  have hrun : db.runOn t s.foreignKeys change parameters = .done (db.put t') changed key := by
    cases hf : s.foreignKeys <;> simp [runOn, happly, enforceReferences, h.orphans_put hdef]
  have howed : Store.owedAfter s 0 db (db.put t') = 0 := by
    simp [Store.owedAfter, h.orphans_put hdef]
  simp [Database.perform, h.check s.foreignKeys hnames, hrun, howed]

/-- A statement that is stopped by a row is not performed. -/
theorem perform_halted (h : db.Isolated t) (s : Session) (hnames : db.checkNames change = .ok t)
    {changed : Nat} {key : Option Int64} {fault : StoreFault} {conflict : Conflict}
    (happly : db.apply t change parameters =
      db.settle t' changed key (some (.refused fault conflict))) :
    db.perform s change parameters = .error fault := by
  rw [Database.perform, h.check s.foreignKeys hnames]
  cases conflict <;> cases hf : s.foreignKeys <;> simp [runOn, happly, settle, enforceReferences]

/-- The rows that a filter lets through can always be removed. -/
theorem perform_delete (h : db.Isolated t) (hsound : t.Sound) (s : Session) {f : Filter}
    (hname : Name.same t.name f.table = true) :
    db.perform s (.delete f) parameters =
      .ok (⟨t.rows.countP (Table.meetsAll t.columns f.conditions parameters), none⟩,
        db.put (t.without (Table.meetsAll t.columns f.conditions parameters))) := by
  have hnames : db.checkNames (.delete f) = .ok t := by
    simp [checkNames, writable, h.table? hname]
  have hdone := h.changeRows_deleteRow rfl (targets t f parameters)
  rcases hrows : changeRows db.deleteRow (targets t f parameters) t with ⟨last, changed, halt⟩
  rw [hrows] at hdone
  obtain rfl : halt = none := hdone
  have happly : db.apply t (.delete f) parameters = .done (db.put last) changed none := by
    simp only [apply, hrows, settle]
  have hlast : last.definition = t.definition := by
    obtain ⟨-, rfl⟩ := Database.changeRows_deleteRow hrows
    rfl
  obtain ⟨hchanged, hput⟩ := apply_delete_done hsound happly
  rw [h.perform_done s hnames happly hlast, hchanged, hput]

end Isolated

/-! ## 5. New tables -/

namespace Unused

variable {definition : TableDefinition}

theorem table? {name : String} (h : db.Unused name) : db.table? name = none :=
  List.find?_eq_none.mpr fun t ht => by simp [h.tables t ht]

theorem isTaken {name : String} (h : db.Unused name) : db.isTaken name = false := by
  have hview : db.view? name = none := List.find?_eq_none.mpr fun v hv => by simp [h.views v hv]
  simp [Database.isTaken, h.table?, hview]

/-- **A table that is created under an unused name is isolated**, if it has no references. -/
theorem isolated (h : db.Unused definition.name)
    (href : ∀ c ∈ definition.columns, c.reference = none) :
    (db.withTable definition).Isolated (.new definition db.draws) where
  mem := List.mem_append_right _ List.mem_cons_self
  only := fun other hother hsame => by
    rcases List.mem_append.mp hother with hother | hother
    · have hne := h.tables other hother
      rw [show Name.same other.name definition.name = true from hsame] at hne
      cases hne
    · exact List.mem_singleton.mp hother
  guards := h.guards
  references := href
  referrers := fun other hother c hc r hr => by
    rcases List.mem_append.mp hother with hother | hother
    · exact h.referrers other hother c hc r hr
    · rw [List.mem_singleton.mp hother] at hc
      rw [href c hc] at hr
      cases hr

/-- On an idle store a table can be created under an unused name, unless the store keeps the name
for itself. -/
theorem alter {st : Store} (h : st.committed.Unused definition.name) (hidle : st.Idle) (s : Session)
    (href : ∀ c ∈ definition.columns, c.reference = none) :
    st.alter s (.createTable definition true) =
      if isReserved definition.name then (.error (.reservedName definition.name), st)
      else (.ok (), { st with committed := st.committed.withTable definition }) := by
  have hrefusal : st.refusal? s = none := by
    simp [Store.refusal?, Store.barrier?, Store.other?, hidle.writer, hidle.readable]
  have hown : st.own? s = none := by simp [Store.own?, hidle.writer]
  have hother : st.other? s = none := by simp [Store.other?, hidle.writer]
  rw [Store.alter_createTable st s href, hrefusal]
  simp only [hidle.seen s, h.isTaken, hother, Store.withTable, hown, Option.isSome_none,
    Bool.false_eq_true, if_false]

end Unused

end EntityStore.Database

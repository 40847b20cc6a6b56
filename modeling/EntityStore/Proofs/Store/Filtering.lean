import EntityStore.Proofs.Store.Soundness
import EntityStore.Proofs.Store.Transaction
import EntityStore.Proofs.Value.Order
/-!
# What a filter lets through

Selections, counts and removals filter the rows of a table by the same conditions, but each in its
own way: a selection filters and then sorts, a count filters and forgets the rows, and a removal
filters once and then takes out one row after another, by its key.  This module relates all three
to the rows of the table.

* A selection is the sorted list of all rows, filtered (`select_eq`): since sorting is stable it
  makes no difference which is done first (`filter_mergeSort`).
* A removal that is done takes out exactly the rows that the filter lets through
  (`perform_delete`), provided that no two rows have the same key.
-/

namespace EntityStore

/-! ## 1. Filtering and sorting -/

section Sorting

variable {α : Type} {le : α → α → Bool}

/-- A list falls in one way only into a part that fails a test and a part that passes it. -/
theorem append_inj_of_split {q : α → Bool} {l₁ l₂ m₁ m₂ : List α}
    (hl₁ : ∀ b ∈ l₁, q b = false) (hl₂ : ∀ b ∈ l₂, q b = true)
    (hm₁ : ∀ b ∈ m₁, q b = false) (hm₂ : ∀ b ∈ m₂, q b = true) (h : l₁ ++ l₂ = m₁ ++ m₂) :
    l₁ = m₁ ∧ l₂ = m₂ := by
  have hnone : ∀ l : List α, (∀ b ∈ l, q b = false) → l.filter q = [] := by
    intro l hl
    exact List.filter_eq_nil_iff.mpr fun b hb => by simp [hl b hb]
  have hright : l₂ = m₂ := by
    have := congrArg (List.filter q) h
    rwa [List.filter_append, List.filter_append, hnone l₁ hl₁, hnone m₁ hm₁,
      List.filter_eq_self.mpr hl₂, List.filter_eq_self.mpr hm₂] at this
  subst hright
  exact ⟨List.append_cancel_right h, rfl⟩

/-- **Filtering commutes with sorting.**  The head of the list goes where everything before it is
strictly smaller and everything after it is not, with or without the other elements. -/
theorem filter_mergeSort (trans : ∀ a b c, le a b = true → le b c = true → le a c = true)
    (total : ∀ a b, (le a b || le b a) = true) (p : α → Bool) (l : List α) :
    (l.mergeSort le).filter p = (l.filter p).mergeSort le := by
  induction l with
  | nil => simp
  | cons a l ih =>
    obtain ⟨l₁, l₂, hl, hl', hbefore⟩ := List.mergeSort_cons trans total a l
    have hsorted := List.pairwise_mergeSort trans total (a :: l)
    rw [hl] at hsorted
    rw [hl', List.filter_append] at ih
    by_cases ha : p a = true
    · obtain ⟨m₁, m₂, hm, hm', hbefore'⟩ := List.mergeSort_cons trans total a (l.filter p)
      have hsorted' := List.pairwise_mergeSort trans total (a :: l.filter p)
      rw [hm] at hsorted'
      rw [hm'] at ih
      obtain ⟨h₁, h₂⟩ := append_inj_of_split (q := le a)
        (fun b hb => by simpa using hbefore b (List.mem_filter.mp hb).1)
        (fun b hb => List.rel_of_pairwise_cons (List.pairwise_append.mp hsorted).2.1
          (List.mem_filter.mp hb).1)
        (fun b hb => by simpa using hbefore' b hb)
        (fun b hb => List.rel_of_pairwise_cons (List.pairwise_append.mp hsorted').2.1 hb) ih
      rw [hl, List.filter_append, List.filter_cons_of_pos ha, List.filter_cons_of_pos ha, hm, h₁,
        h₂]
    · rw [hl, List.filter_append, List.filter_cons_of_neg ha, List.filter_cons_of_neg ha, ih]

end Sorting

namespace Database

variable {db : Database} {columns : List Column} {rows : List Row} {parameters : Parameters}

theorem sortRows_perm (columns : List Column) (column : String) (rows : List Row) :
    (sortRows columns column rows).Perm rows :=
  List.mergeSort_perm rows _

/-- Rows with equal values stay in the order of their keys, so a filter can come first or last. -/
theorem filter_sortRows (columns : List Column) (column : String) (p : Row → Bool)
    (rows : List Row) :
    (sortRows columns column rows).filter p = sortRows columns column (rows.filter p) :=
  filter_mergeSort (fun a b c => Value.precedes_trans (Table.read columns a column)
    (Table.read columns b column) (Table.read columns c column))
    (fun a b => Value.precedes_total (Table.read columns a column) (Table.read columns b column))
    p rows

/-! ## 2. Reading -/

theorem relation?_eq {name : String} (h : db.table? name = some t) :
    db.relation? name = .ok (t.columns, t.rows) := by
  simp only [relation?, h]

theorem matching_eq {f : Filter} (h : db.relation? f.table = .ok (columns, rows)) :
    db.matching f parameters =
      .ok (columns, rows.filter (Table.meetsAll columns f.conditions parameters)) := by
  simp [matching, h]

theorem matching_error {f : Filter} {fault : StoreFault}
    (h : db.relation? f.table = .error fault) : db.matching f parameters = .error fault := by
  simp [matching, h]

/-- **A sorted selection is the list of all rows in the same order, filtered.** -/
theorem select_eq {f : Filter} (h : db.relation? f.table = .ok (columns, rows))
    (outputs : List Output) (name : String) :
    db.select ⟨f, outputs, some name⟩ parameters =
      .ok (((sortRows columns (sortColumn outputs name) rows).filter
        (Table.meetsAll columns f.conditions parameters)).map (project columns outputs)) := by
  simp only [select, matching_eq h, filter_sortRows]

theorem count_eq {f : Filter} (h : db.relation? f.table = .ok (columns, rows)) :
    db.count f parameters = .ok (rows.countP (Table.meetsAll columns f.conditions parameters)) := by
  simp [count, matching_eq h, Except.map, List.countP_eq_length_filter]

theorem contains_eq {f : Filter} (h : db.relation? f.table = .ok (columns, rows)) :
    db.contains f parameters =
      .ok (rows.any (Table.meetsAll columns f.conditions parameters)) := by
  have hany : (!(rows.filter (Table.meetsAll columns f.conditions parameters)).isEmpty) =
      rows.any (Table.meetsAll columns f.conditions parameters) := by
    rw [Bool.eq_iff_iff]
    simp
  simp only [contains, matching_eq h, Except.map, hany]

/-! ## 3. `null` -/

/-- A column that shows keys stores integers. -/
theorem affinity_of_isRowKey {c : Column} (h : c.isRowKey = true) : c.affinity = .integer := by
  simp only [Column.isRowKey, Bool.and_eq_true, decide_eq_true_eq] at h
  simp [Column.affinity, h.2, Affinity.ofType]

/-- A column that shows no key matches `null` with nothing. -/
theorem matches_null {c : Column} {held : Value} (h : c.isRowKey = true → held ≠ .null) :
    c.matches? held .null = false := by
  unfold Column.matches?
  split
  · rename_i hkey
    simpa [affinity_of_isRowKey hkey, Affinity.store, Affinity.toNumber, Affinity.toInteger]
      using h hkey
  · cases hc : c.affinity <;> simp [Affinity.matches?, Affinity.compare, Affinity.toNumber,
      Affinity.toText]

/-- A row that fits its columns has its key in the column that shows it. -/
theorem read_of_isRowKey {row : Row} (h : row.Fits columns) {name : String} {c : Column}
    (hc : (columns.find? fun c => Name.same c.name name) = some c) (hkey : c.isRowKey = true) :
    Table.read columns row name = .integer row.key := by
  rw [List.find?_eq_bind_findIdx?_getElem?, Option.bind_eq_some_iff] at hc
  obtain ⟨i, hi, hci⟩ := hc
  simp [Table.read, Table.columnIndex?, hi, h.shown i c hci hkey]

/-- The rows of a sound table fit its columns, and so do those of a view. -/
theorem Sound.fits_relation {name : String} (h : db.Sound)
    (hrelation : db.relation? name = .ok (columns, rows)) : ∀ row ∈ rows, row.Fits columns := by
  unfold relation? at hrelation
  split at hrelation
  · rename_i t ht
    cases hrelation
    exact (h.table? ht).fits
  · split at hrelation
    · rename_i v _
      cases hrelation
      intro row hrow
      obtain ⟨values, -, rfl⟩ := List.mem_map.mp hrow
      refine ⟨by simp [View.readValues, View.readColumns], fun i c hc hkey => ?_⟩
      obtain ⟨name, -, rfl⟩ := List.mem_map.mp (List.mem_of_getElem? hc)
      cases hkey
    · cases hrelation

/-- **`null` equals nothing**, not even where a row holds `null`. -/
theorem holds_null {row : Row} (h : row.Fits columns) (name : String) :
    Table.holds columns row name .null = false := by
  unfold Table.holds
  split
  · rename_i c hc
    refine matches_null fun hkey => ?_
    rw [read_of_isRowKey h hc hkey]
    exact nofun
  · split <;> simp [Affinity.matches?, Affinity.compare, Affinity.toNumber]

end Database

/-! ## 4. Removing -/

/-- The table without the rows that pass a test. -/
def Table.without (t : Table) (p : Row → Bool) : Table :=
  { t with rows := t.rows.filter fun row => !p row }

theorem Table.Sound.without {t : Table} (h : t.Sound) (p : Row → Bool) : (t.without p).Sound where
  oneKey := h.oneKey
  sorted := h.sorted.filter _
  fits := fun row hrow => h.fits row (List.mem_filter.mp hrow).1

namespace Database

variable {db : Database} {parameters : Parameters} {t t' : Table}

/-- Rows that are removed one after another are removed by their keys. -/
theorem changeRows_deleteRow {changed : Nat} {rows : List Row}
    (h : changeRows db.deleteRow rows t = (t', changed, none)) :
    changed = rows.length ∧ t' = t.without fun row => rows.any (·.key == row.key) := by
  induction rows generalizing t changed with
  | nil =>
    cases h
    simp [Table.without]
  | cons row rest ih =>
    rw [changeRows] at h
    split at h
    · rename_i hover
      exact absurd hover not_passed_of_deleteRow
    · cases h
    rename_i t₁ hstep
    obtain rfl := deleteRow_ok hstep
    rcases hrest : changeRows db.deleteRow rest (t.remove row.key) with ⟨last, removed, halt⟩
    rw [hrest] at h
    cases h
    obtain ⟨rfl, rfl⟩ := ih hrest
    refine ⟨rfl, ?_⟩
    simp only [Table.without, Table.remove, List.filter_filter, List.any_cons]
    congr 1
    refine List.filter_congr fun other _ => ?_
    rw [Bool.not_or, Bool.and_comm, Bool.beq_comm, bne]

/-- In a sound table the keys of the rows that pass a test are those of no other row. -/
theorem any_key_filter (ht : t.Sound) {p : Row → Bool} {row : Row} (hrow : row ∈ t.rows) :
    ((t.rows.filter p).any (·.key == row.key)) = p row := by
  rw [Bool.eq_iff_iff, List.any_eq_true]
  constructor
  · rintro ⟨other, hother, hkey⟩
    obtain ⟨hmem, hp⟩ := List.mem_filter.mp hother
    rwa [← ht.eq_of_key hmem hrow (eq_of_beq hkey)]
  · exact fun hp => ⟨row, List.mem_filter.mpr ⟨hrow, hp⟩, beq_self_eq_true _⟩

/-- A statement that stops at no row it passes over is done if it goes through all rows. -/
theorem settle_eq_done {after : Database} {n changed : Nat} {k key : Option Int64}
    {halt : Option Halt} (hpassed : ∀ t', halt ≠ some (.passed t')) :
    db.settle t n k halt = .done after changed key ↔
      halt = none ∧ db.put t = after ∧ n = changed ∧ k = key := by
  rcases halt with - | ⟨fault, conflict⟩ | ⟨t'⟩
  · simp [settle]
  · cases conflict <;> simp [settle]
  · exact absurd rfl (hpassed t')

/-- So does a statement that changes rows one after another. -/
theorem settle_changeRows_done {step : Table → Row → Except Halt Table} {rows : List Row}
    {after : Database} {n changed : Nat} {k key : Option Int64} {halt : Option Halt}
    (hrows : changeRows step rows t = (t', n, halt))
    (h : db.settle t' n k halt = .done after changed key) :
    halt = none ∧ db.put t' = after ∧ n = changed ∧ k = key := by
  refine (settle_eq_done fun skipped => ?_).mp h
  have hnot : (changeRows step rows t).2.2 ≠ some (.passed skipped) := not_passed_of_changeRows
  rwa [hrows] at hnot

/-- **A removal that is done takes out the rows that the filter lets through, and no other.** -/
theorem apply_delete_done (ht : t.Sound) {f : Filter} {after : Database} {changed : Nat}
    {key : Option Int64} (h : db.apply t (.delete f) parameters = .done after changed key) :
    changed = t.rows.countP (Table.meetsAll t.columns f.conditions parameters) ∧
      after = db.put (t.without (Table.meetsAll t.columns f.conditions parameters)) := by
  simp only [apply] at h
  rcases hrows : changeRows db.deleteRow (targets t f parameters) t with ⟨t', removed, halt⟩
  rw [hrows] at h
  obtain ⟨rfl, hput, rfl, -⟩ := settle_changeRows_done hrows h
  obtain ⟨rfl, rfl⟩ := changeRows_deleteRow hrows
  have hkept : t.without (fun row => (targets t f parameters).any (·.key == row.key)) =
      t.without (Table.meetsAll t.columns f.conditions parameters) := by
    simp only [Table.without, targets]
    congr 1
    exact List.filter_congr fun row hrow => by rw [any_key_filter ht hrow]
  rw [hkept] at hput
  exact ⟨by rw [targets, List.countP_eq_length_filter], hput.symm⟩

/-- What a statement that can be performed has done. -/
theorem perform_ok {s : Session} {change : Change} {written : Store.Written} {after : Database}
    (h : db.perform s change parameters = .ok (written, after)) :
    ∃ t, db.table? (Store.target change) = some t ∧
      db.apply t change parameters = .done after written.changed written.key := by
  unfold perform at h
  split at h
  · cases h
  rename_i t hcheck
  refine ⟨t, check_ok hcheck, ?_⟩
  split at h
  · cases h
  · cases h
  rename_i db' changed key hrun
  split at h
  · cases h
  cases h
  unfold runOn enforceReferences at hrun
  dsimp only at hrun
  split at hrun
  · split at hrun
    · rename_i happly
      split at hrun
      · cases hrun
      · cases hrun
        exact happly
    · exact hrun
  · exact hrun

/-- Putting a table changes what is found under its own name only. -/
theorem table?_put_eq (db : Database) (t : Table) (name : String) :
    (db.put t).table? name =
      (db.table? name).map fun other => if Name.same other.name t.name then t else other := by
  have hnames : ((fun x : Table => Name.same x.name name) ∘
      fun other => if Name.same other.name t.name then t else other) =
        fun x => Name.same x.name name := by
    funext other
    simp only [Function.comp_apply]
    split
    · rename_i hsame
      simp only [Name.same, eq_of_beq hsame]
    · rfl
  simp only [table?, put, List.find?_map, hnames]

/-- Where a table is put, it is found. -/
theorem table?_put {name : String} (h : db.table? name = some t) (ht : t'.name = t.name) :
    (db.put t').table? name = some t' := by
  rw [table?_put_eq, h, Option.map_some, ht, if_pos (Name.same_refl _)]

/-- Under another name there is that table too, or what was there before. -/
theorem table?_put_cases {name : String} (h : db.table? name = some t) (ht : t'.name = t.name)
    (other : String) : db.table? other = some t ∧ (db.put t').table? other = some t' ∨
      (db.put t').table? other = db.table? other := by
  rw [table?_put_eq]
  cases hfound : db.table? other with
  | none => exact .inr rfl
  | some x =>
    rw [Option.map_some]
    split
    · -- The two tables have one name for the store, so they are one table.
      rename_i hsame
      have hname : Name.same t.name name = true :=
        List.find?_some (p := fun x : Table => Name.same x.name name) h
      have hother : Name.same x.name other = true :=
        List.find?_some (p := fun x : Table => Name.same x.name other) hfound
      have hfold : Name.fold other = Name.fold name := by
        rw [← eq_of_beq hother, eq_of_beq hsame, ht]
        exact eq_of_beq hname
      have hboth : db.table? other = db.table? name := by
        simp only [table?, Name.same, hfold]
      rw [hboth, h] at hfound
      obtain rfl := Option.some.inj hfound
      exact .inl ⟨rfl, rfl⟩
    · exact .inr rfl

end Database

end EntityStore

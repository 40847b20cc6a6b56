import EntityStore.Proofs.Store.Filtering
import EntityStore.Proofs.Store.Dedicated
/-!
# What writing leaves in a table

Statements may be run on tables that somebody else has made, with columns of other types and in
another order.  This module says what is in such a table after a statement on it is done, as far as
columns can be found by their names:

* a row shows each value that an insertion or an update gave it, the way its column stores the value
  (`shows_inserted`, `shows_updated`), and keeps the others (`read_otherValues`);
* an update of several rows leaves a row for each of them, although their keys may change, and does
  not touch the other rows (`changeRows_updateRow`);
* tables stay under their names with the columns they have, and remember their keys
  (`later_perform`).
-/

namespace EntityStore

/-! ## 1. Columns by name -/

namespace Table

/-- The first column with a name, ignoring case. -/
def column? (columns : List Column) (name : String) : Option Column :=
  columns.find? fun c => Name.same c.name name

/-- A row shows a value that was written into a column: it holds the value as the column stores it,
or the row's key if the column shows keys and was given nothing. -/
def Shows (columns : List Column) (row : Row) (name : String) (written : Value) : Prop :=
  ∃ c, column? columns name = some c ∧ read columns row name =
    if c.isRowKey = true ∧ c.affinity.store written.bound = .null then .integer row.key
    else c.affinity.store written.bound

variable {columns : List Column} {name : String} {c : Column} {t : Table} {row : Row}

theorem same_of_column? (h : column? columns name = some c) : Name.same c.name name = true :=
  List.find?_some (p := fun c : Column => Name.same c.name name) h

/-- A column that has a name is read in its place. -/
theorem place_of_column? (h : column? columns name = some c) :
    ∃ i : Nat, columns[i]? = some c ∧
      ∀ row, read columns row name = (row.values[i]?).getD .null := by
  rw [column?, List.find?_eq_bind_findIdx?_getElem?] at h
  obtain ⟨i, hi, hc⟩ := Option.bind_eq_some_iff.mp h
  refine ⟨i, hc, ?_⟩
  intro row
  simp only [read, columnIndex?, hi]

/-- A condition on a column compares what the row holds there. -/
theorem holds_of_column? (h : column? columns name = some c) (row : Row) (given : Value) :
    holds columns row name given = c.matches? (read columns row name) given := by
  rw [column?] at h
  simp only [holds, h]

/-- What a row shows in a column that stores the value as something. -/
theorem shows_of_read (h : column? columns name = some c) {written : Value}
    (hread : read columns row name = c.affinity.store written.bound)
    (hkey : c.isRowKey = true → c.affinity.store written.bound ≠ .null) :
    Shows columns row name written := by
  refine ⟨c, h, ?_⟩
  split
  · rename_i hnull
    exact absurd hnull.2 (hkey hnull.1)
  · exact hread

end Table

namespace Database

open Table

variable {db : Database} {t t' : Table} {row : Row} {parameters : Parameters} {slots : List Slot}
  {name : String} {c : Column}

/-! ## 2. Rows that are written -/

/-- What a new row holds in a column. -/
theorem read_newValues (h : column? t.columns name = some c) (key : Int64) :
    read t.columns ⟨key, showKey t.columns key (newValues t parameters slots)⟩ name =
      if c.isRowKey then .integer key else (given? parameters slots c).getD c.initial := by
  obtain ⟨i, hi, hread⟩ := place_of_column? h
  have hpair : (t.columns.zip (newValues t parameters slots))[i]? =
      some (c, (given? parameters slots c).getD c.initial) :=
    List.getElem?_zip_eq_some.mpr ⟨hi, by simp [newValues, hi]⟩
  rw [hread]
  simp only [showKey, List.getElem?_map, hpair, Option.map_some, Option.getD_some]

/-- What an updated row holds in a column: what the update gives to it, or what was there. -/
theorem read_otherValues (h : column? t.columns name = some c)
    (hrow : row.values.length = t.columns.length) (key : Int64) :
    read t.columns ⟨key, otherValues t parameters slots row⟩ name =
      (given? parameters slots c).getD (read t.columns row name) := by
  obtain ⟨i, hi, hread⟩ := place_of_column? h
  have hlt : i < row.values.length := hrow ▸ (List.getElem?_eq_some_iff.mp hi).1
  have hpair : (t.columns.zip row.values)[i]? = some (c, row.values[i]) :=
    List.getElem?_zip_eq_some.mpr ⟨hi, List.getElem?_eq_getElem hlt⟩
  rw [hread, hread, List.getElem?_eq_getElem hlt]
  simp only [otherValues, List.getElem?_map, hpair, Option.map_some, Option.getD_some]

/-- The key of a new row is the one given to the column that shows keys, unless nothing is. -/
theorem key_of_given (ht : OneKey t.columns) (h : column? t.columns name = some c)
    (hkey : c.isRowKey = true) {value : Value} (hgiven : given? parameters slots c = some value)
    {key : Int64} (hinsert : db.insertRow t parameters slots = .ok (t', key)) :
    value = .null ∨ value = .integer key := by
  obtain ⟨i, hi, -⟩ := place_of_column? h
  obtain ⟨key?, hstands, hchosen, -⟩ := insertRow_ok hinsert
  have hindex : t.columns.findIdx? (·.isRowKey) = some i := by
    cases hfound : t.columns.findIdx? (·.isRowKey) with
    | none =>
      have hnone := List.findIdx?_eq_none_iff.mp hfound c (List.mem_of_getElem? hi)
      rw [hkey] at hnone
      cases hnone
    | some j =>
      obtain ⟨hj, hjkey, -⟩ := List.findIdx?_eq_some_iff_getElem.mp hfound
      rw [ht j i _ c (List.getElem?_eq_getElem hj) hi hjkey hkey]
  have hvalue : (newValues t parameters slots)[i]? = some value := by
    simp [newValues, hi, hgiven]
  simp only [givenKey, hindex, hvalue, Option.getD_some] at hstands
  cases value with
  | null => exact .inl rfl
  | integer k =>
    cases hstands
    cases hchosen
    exact .inr rfl
  | real x => cases hstands
  | text s => cases hstands
  | blob bytes => cases hstands

/-- **A new row shows the values that it was given.** -/
theorem shows_inserted (ht : OneKey t.columns) (h : column? t.columns name = some c)
    {written : Value} (hgiven : given? parameters slots c = some (c.affinity.store written.bound))
    {key : Int64} (hinsert : db.insertRow t parameters slots = .ok (t', key)) :
    Shows t.columns ⟨key, showKey t.columns key (newValues t parameters slots)⟩ name written := by
  refine ⟨c, h, ?_⟩
  rw [read_newValues h, hgiven, Option.getD_some]
  cases hkey : c.isRowKey with
  | false => simp
  | true =>
    rcases key_of_given ht h hkey hgiven hinsert with hnull | hinteger
    · simp [hnull]
    · simp [hinteger]

/-- **An updated row shows the values that it was given.** -/
theorem shows_updated (h : column? t.columns name = some c)
    (hrow : row.values.length = t.columns.length) {key : Int64}
    (hfits : (Row.mk key (otherValues t parameters slots row)).Fits t.columns) {written : Value}
    (hgiven : given? parameters slots c = some (c.affinity.store written.bound)) :
    Shows t.columns ⟨key, otherValues t parameters slots row⟩ name written := by
  have hread : read t.columns ⟨key, otherValues t parameters slots row⟩ name =
      c.affinity.store written.bound := by
    rw [read_otherValues h hrow, hgiven, Option.getD_some]
  refine shows_of_read h hread ?_
  intro hkey hnull
  obtain ⟨i, hi, hplace⟩ := place_of_column? h
  have hshown := hfits.shown i c hi hkey
  rw [hplace, hshown, Option.getD_some, hnull] at hread
  cases hread

/-- An insertion that is done has put the table with the new row, or has passed the row over and
given out a key for it. -/
theorem apply_insert_cases {after : Database} {changed : Nat} {key : Option Int64}
    (h : db.apply t (.insert name slots) parameters = .done after changed key) :
    (∃ t' k, db.insertRow t parameters slots = .ok (t', k) ∧ db.put t' = after ∧ key = some k) ∨
      ∃ k, db.insertRow t parameters slots = .error (.passed (t.record k)) ∧
        db.put (t.record k) = after ∧ changed = 0 ∧ key = none := by
  simp only [apply] at h
  split at h
  · rename_i t' k hinsert
    cases h
    exact .inl ⟨t', k, hinsert, rfl, rfl⟩
  · rename_i halt hinsert
    cases halt with
    | refused fault conflict => cases conflict <;> cases h
    | passed t' =>
      obtain ⟨⟨k, rfl⟩, -⟩ := insertRow_passed hinsert
      cases h
      exact .inr ⟨k, hinsert, rfl, rfl, rfl⟩

/-- An insertion into a strict table that is done has put the table with the new row. -/
theorem apply_insert_done {after : Database} {changed : Nat} {key : Option Int64}
    (hstrict : t.definition.Strict)
    (h : db.apply t (.insert name slots) parameters = .done after changed key) :
    ∃ t' k, db.insertRow t parameters slots = .ok (t', k) ∧ db.put t' = after ∧ key = some k := by
  rcases apply_insert_cases h with hdone | ⟨k, hskipped, -⟩
  · exact hdone
  · exact absurd hstrict (insertRow_passed hskipped).2

/-! ## 3. Updates of several rows -/

/-- An update of a row leaves a row with the other values, under a key that no other row has, and
does not touch the other rows. -/
theorem updateRow_mem (hrow : row ∈ t.rows)
    (hupdate : db.updateRow parameters slots t row = .ok t') :
    (∃ key, ⟨key, otherValues t parameters slots row⟩ ∈ t'.rows ∧
      ∀ other ∈ t.rows, other.key ≠ row.key → other.key ≠ key) ∧
      ∀ other ∈ t.rows, other.key ≠ row.key → other ∈ t'.rows := by
  obtain ⟨key, -, hdone⟩ := updateRow_ok hupdate
  rcases hdone with ⟨rfl, -, rfl⟩ | ⟨-, moved, hadd, rfl⟩
  · constructor
    · refine ⟨row.key, List.mem_map.mpr ⟨row, hrow, ?_⟩, fun _ _ hne => hne⟩
      rw [if_pos (beq_self_eq_true _)]
    · intro other hother hne
      refine List.mem_map.mpr ⟨other, hother, ?_⟩
      rw [if_neg (by simpa using hne)]
  · obtain ⟨-, hnew, -, rfl⟩ := addRow_eq_ok.mp hadd
    have hkept : ∀ other ∈ t.rows, other.key ≠ row.key → other ∈ (t.remove row.key).rows := by
      intro other hother hne
      exact List.mem_filter.mpr ⟨hother, by simpa using hne⟩
    constructor
    · refine ⟨key, mem_add.mpr (.inl rfl), ?_⟩
      intro other hother hne
      exact row?_eq_none.mp hnew other (hkept other hother hne)
    · intro other hother hne
      exact mem_add.mpr (.inr (hkept other hother hne))

/-- The other values of a row depend on the columns of its table only. -/
theorem otherValues_congr (h : t'.definition = t.definition) (row : Row) :
    otherValues t' parameters slots row = otherValues t parameters slots row := by
  simp only [otherValues, columns, h]

/-- **An update of several rows leaves a row with the other values for each**, and does not touch
the rest of the table. -/
theorem changeRows_updateRow {rows : List Row} {changed : Nat} (ht : t.Sound)
    (hstrict : t.definition.Strict) (hrows : ∀ row ∈ rows, row ∈ t.rows)
    (hkeys : rows.Pairwise fun a b => a.key ≠ b.key)
    (hdone : changeRows (db.updateRow parameters slots) rows t = (t', changed, none)) :
    (∀ row ∈ rows, ∃ key, ⟨key, otherValues t parameters slots row⟩ ∈ t'.rows) ∧
      ∀ other ∈ t.rows, (∀ row ∈ rows, other.key ≠ row.key) → other ∈ t'.rows := by
  induction rows generalizing t changed with
  | nil =>
    cases hdone
    exact ⟨fun _ hrow => absurd hrow List.not_mem_nil, fun other hother _ => hother⟩
  | cons row rest ih =>
    obtain ⟨hrow, hrest⟩ := List.pairwise_cons.mp hkeys
    have hmem := hrows row List.mem_cons_self
    have hne : ∀ other ∈ rest, other.key ≠ row.key := fun other hother => (hrow other hother).symm
    unfold changeRows at hdone
    split at hdone
    · rename_i hskipped
      exact absurd hstrict (updateRow_passed hskipped).2
    · cases hdone
    rename_i t₁ hupdate
    obtain ⟨hsound, hdef⟩ := sound_updateRow ht (ht.fits row hmem) hupdate
    obtain ⟨⟨key, hnew, hfresh⟩, hkept⟩ := updateRow_mem hmem hupdate
    rcases hlast : changeRows (db.updateRow parameters slots) rest t₁ with ⟨last, n, halt⟩
    rw [hlast] at hdone
    cases hdone
    -- The rows that are still to be updated are where they were, and the new row is none of them.
    obtain ⟨hothers, huntouched⟩ := ih hsound (hdef ▸ hstrict)
      (fun other hother => hkept other (hrows other (List.mem_cons_of_mem _ hother))
        (hne other hother)) hrest hlast
    have hstays : ⟨key, otherValues t parameters slots row⟩ ∈ t'.rows := by
      refine huntouched _ hnew ?_
      intro other hother
      exact (hfresh other (hrows other (List.mem_cons_of_mem _ hother)) (hne other hother)).symm
    constructor
    · intro other hother
      rcases List.mem_cons.mp hother with rfl | hother
      · exact ⟨key, hstays⟩
      · obtain ⟨k, hk⟩ := hothers other hother
        rw [otherValues_congr hdef] at hk
        exact ⟨k, hk⟩
    · intro other hother hnone
      have hnot := hnone row List.mem_cons_self
      refine huntouched other (hkept other hother hnot) ?_
      intro x hx
      exact hnone x (List.mem_cons_of_mem _ hx)

/-- The rows that a statement is about have different keys. -/
theorem targets_keys (ht : t.Sound) (filter : Filter) (parameters : Parameters) :
    (targets t filter parameters).Pairwise fun a b => a.key ≠ b.key :=
  List.pairwise_map.mp ((List.filter_sublist.map _).nodup ht.nodup_keys)

/-- An update that is done has updated all rows that its filter lets through. -/
theorem apply_update_ok {filter : Filter} {after : Database} {changed : Nat} {key : Option Int64}
    (h : db.apply t (.update filter slots) parameters = .done after changed key) :
    ∃ t', changeRows (db.updateRow parameters slots) (targets t filter parameters) t =
      (t', changed, none) ∧ db.put t' = after ∧ t'.definition = t.definition := by
  simp only [apply] at h
  have hlater : t.Later
      (changeRows (db.updateRow parameters slots) (targets t filter parameters) t).1 :=
    later_changeRows keepsPassed_updateRow (fun _ _ _ hdone => later_updateRow hdone) _ t
  rcases hrows : changeRows (db.updateRow parameters slots) (targets t filter parameters) t with
    ⟨t', n, halt⟩
  rw [hrows] at h hlater
  obtain ⟨rfl, hput, rfl, -⟩ := settle_changeRows_done hrows h
  exact ⟨t', rfl, hput, hlater.definition⟩

/-! ## 4. Later tables -/

/-- A later state of a database: a later table is under every name that had one, and no other name
has got one. -/
def Later (db after : Database) : Prop :=
  ∀ name, Option.Rel Table.Later (db.table? name) (after.table? name)

theorem Later.refl (db : Database) : db.Later db := by
  intro name
  cases db.table? name with
  | none => exact .none
  | some t => exact .some (.refl t)

theorem Later.table? {after : Database} (h : db.Later after) (ht : db.table? name = some t) :
    ∃ t', after.table? name = some t' ∧ t.Later t' := by
  have hrel := h name
  rw [ht] at hrel
  cases hfound : after.table? name with
  | none =>
    rw [hfound] at hrel
    cases hrel
  | some t' =>
    rw [hfound] at hrel
    cases hrel with
    | some hlater => exact ⟨t', rfl, hlater⟩

theorem Later.table?_before {after : Database} (h : db.Later after)
    (ht : after.table? name = some t') : ∃ t, db.table? name = some t ∧ t.Later t' := by
  have hrel := h name
  cases hfound : db.table? name with
  | none =>
    rw [hfound, ht] at hrel
    cases hrel
  | some t =>
    obtain ⟨t'', ht', hlater⟩ := h.table? hfound
    cases ht.symm.trans ht'
    exact ⟨t, rfl, hlater⟩

theorem Later.trans {between after : Database} (h : db.Later between) (h' : between.Later after) :
    db.Later after := by
  intro name
  cases hfound : after.table? name with
  | some t'' =>
    obtain ⟨t', ht', hlater'⟩ := h'.table?_before hfound
    obtain ⟨t, ht, hlater⟩ := h.table?_before ht'
    rw [ht]
    exact .some (hlater.trans hlater')
  | none =>
    cases hbefore : db.table? name with
    | none => exact .none
    | some t =>
      obtain ⟨t', ht', -⟩ := h.table? hbefore
      obtain ⟨t'', ht'', -⟩ := h'.table? ht'
      cases hfound.symm.trans ht''

/-- **A statement leaves a later database.** -/
theorem later_perform {s : Session} {change : Change} {written : Store.Written}
    {after : Database} (h : db.perform s change parameters = .ok (written, after)) :
    db.Later after := by
  obtain ⟨t, htable, happly⟩ := perform_ok h
  have hleft : Leaves (fun after => after = db ∨ ∃ t', t.Later t' ∧ after = db.put t')
      (db.apply t change parameters) :=
    leaves_later (.inl rfl) (fun t' hlater => .inr ⟨t', hlater, rfl⟩) change parameters
  rw [happly] at hleft
  rcases hleft with rfl | ⟨t', hlater, rfl⟩
  · exact .refl after
  intro name
  rcases table?_put_cases htable (congrArg TableDefinition.name hlater.definition) name with
    ⟨hfound, hput⟩ | hsame
  · rw [hfound, hput]
    exact .some hlater
  · rw [hsame]
    exact Later.refl db name

/-! ## 5. Columns that a statement names -/

/-- The columns that a change gives values to. -/
def assigned : Change → List Slot
  | .insert _ values => values
  | .update _ values => values
  | .delete _ => []

theorem column?_of_wrongColumn? {unknown generated : String → StoreFault}
    (h : wrongColumn? t unknown generated slots = none) {s : Slot} (hs : s ∈ slots) :
    ∃ c, column? t.columns s.column = some c := by
  have hfound := List.findSome?_eq_none_iff.mp h s hs
  split at hfound
  · cases hfound
  · exact ⟨_, ‹_›⟩

/-- A statement that is run has all the columns that it gives values to. -/
theorem column?_of_check {enforce : Bool} {change : Change}
    (h : db.check enforce change = .ok t) {s : Slot} (hs : s ∈ assigned change) :
    ∃ c, column? t.columns s.column = some c := by
  have hnames : db.checkNames change = .ok t := by
    unfold check at h
    split at h
    · cases h
    rename_i hnames
    split at h
    · cases h
    split at h
    · split at h <;> cases h
      exact hnames
    · cases h
      exact hnames
  cases change with
  | delete filter => cases hs
  | insert table values =>
    simp only [checkNames] at hnames
    split at hnames
    · cases hnames
    split at hnames <;> cases hnames
    exact column?_of_wrongColumn? ‹_› hs
  | update filter values =>
    simp only [checkNames] at hnames
    split at hnames
    · cases hnames
    split at hnames <;> cases hnames
    exact column?_of_wrongColumn? ‹_› hs

/-- What a statement that can be performed has done, and that the table has the columns for it. -/
theorem perform_columns {s : Session} {change : Change} {written : Store.Written}
    {after : Database} (h : db.perform s change parameters = .ok (written, after)) :
    ∃ t, db.table? (Store.target change) = some t ∧
      db.apply t change parameters = .done after written.changed written.key ∧
      ∀ slot ∈ assigned change, ∃ c, column? t.columns slot.column = some c := by
  obtain ⟨t, htable, happly⟩ := perform_ok h
  refine ⟨t, htable, happly, ?_⟩
  intro slot hslot
  unfold perform at h
  split at h
  · cases h
  rename_i t' hcheck
  obtain rfl : t = t' := Option.some.inj (htable.symm.trans (check_ok hcheck))
  exact column?_of_check hcheck hslot

end Database

end EntityStore

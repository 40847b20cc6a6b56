import EntityStore.Proofs.Store.Lasting
import Mathlib
/-!
# What holds of every store

A table is sound if at most one of its columns shows the key of a row, its rows are strictly
increasing in their keys, and every row fits the columns: it has a value for each and shows its
key where a column asks for it.  Statements read and write rows by their keys, so that much of what
they do can only be said of sound tables.

Every step of the store keeps tables sound: single rows (section 2), whole statements (section 3),
and what sessions do with a store (section 4).  So all tables are sound in every store that
sessions can bring about (`Reachable.sound`).
-/

namespace EntityStore

/-! ## 1. Sound tables -/

/-- A row has a value for each column, and its key is in the column that shows it. -/
structure Row.Fits (columns : List Column) (row : Row) : Prop where
  length : row.values.length = columns.length
  shown : ∀ (i : Nat) c, columns[i]? = some c → c.isRowKey = true →
    row.values[i]? = some (.integer row.key)

/-- At most one column shows the keys of the rows. -/
def OneKey (columns : List Column) : Prop :=
  ∀ (i j : Nat) c d, columns[i]? = some c → columns[j]? = some d →
    c.isRowKey = true → d.isRowKey = true → i = j

/-- At most one column shows the key, the rows are strictly increasing in their keys, and every
row fits the columns. -/
structure Table.Sound (t : Table) : Prop where
  oneKey : OneKey t.columns
  sorted : t.rows.Pairwise fun a b => a.key < b.key
  fits : ∀ row ∈ t.rows, row.Fits t.columns

namespace Table

variable {t t' : Table} {row other : Row}

theorem lt_of_not_lt_of_ne {a b : Int64} (h : ¬ a < b) (hne : b ≠ a) : b < a := by
  rw [Int64.lt_iff_toInt_lt] at *
  have : b.toInt ≠ a.toInt := fun he => hne (Int64.toInt_inj.mp he)
  omega

theorem place_perm (row : Row) (rows : List Row) : (place row rows).Perm (row :: rows) := by
  induction rows with
  | nil => exact List.Perm.refl _
  | cons other rest ih =>
    unfold place
    split
    · exact List.Perm.refl _
    · exact (ih.cons other).trans (List.Perm.swap row other rest)

/-- A row is put where its key belongs, if no row has its key yet. -/
theorem sorted_place {rows : List Row} (h : rows.Pairwise fun a b => a.key < b.key)
    (hnew : ∀ other ∈ rows, other.key ≠ row.key) :
    (place row rows).Pairwise fun a b => a.key < b.key := by
  induction rows with
  | nil => simp [place]
  | cons other rest ih =>
    obtain ⟨hother, hrest⟩ := List.pairwise_cons.mp h
    unfold place
    split
    · rename_i hlt
      refine List.pairwise_cons.mpr ⟨fun x hx => ?_, h⟩
      rcases List.mem_cons.mp hx with rfl | hx
      · exact hlt
      · exact Int64.lt_trans hlt (hother x hx)
    · rename_i hlt
      refine List.pairwise_cons.mpr ⟨fun x hx => ?_,
        ih hrest fun y hy => hnew y (List.mem_cons_of_mem _ hy)⟩
      rcases List.mem_cons.mp ((place_perm row rest).mem_iff.mp hx) with rfl | hx
      · exact lt_of_not_lt_of_ne hlt (hnew other List.mem_cons_self)
      · exact hother x hx

/-- No two rows of a sound table have the same key. -/
theorem Sound.nodup_keys (h : t.Sound) : (t.rows.map (·.key)).Nodup := by
  refine List.pairwise_map.mpr (h.sorted.imp fun {a b} hlt heq => ?_)
  rw [heq] at hlt
  exact Int64.lt_irrefl hlt

/-- Rows of a sound table with the same key are the same. -/
theorem Sound.eq_of_key (h : t.Sound) (hrow : row ∈ t.rows) (hother : other ∈ t.rows)
    (hkey : row.key = other.key) : row = other :=
  List.inj_on_of_nodup_map h.nodup_keys hrow hother hkey

/-- Only one row of a sound table passes a test for its key. -/
theorem Sound.filter_eq (h : t.Sound) (hrow : row ∈ t.rows) {p : Row → Bool}
    (hp : ∀ other ∈ t.rows, p other = true ↔ other.key = row.key) : t.rows.filter p = [row] := by
  have hnodup : (t.rows.filter p).Nodup := (List.Nodup.of_map _ h.nodup_keys).filter _
  have hmem : row ∈ t.rows.filter p := List.mem_filter.mpr ⟨hrow, (hp row hrow).mpr rfl⟩
  have hall : ∀ other ∈ t.rows.filter p, other = row := fun other hother => by
    obtain ⟨hother, hpass⟩ := List.mem_filter.mp hother
    exact h.eq_of_key hother hrow ((hp other hother).mp hpass)
  generalize t.rows.filter p = found at hnodup hmem hall
  match found with
  | [] => cases hmem
  | [x] => rw [hall x List.mem_cons_self]
  | x :: y :: rest =>
    have hxy : x = y := (hall x List.mem_cons_self).trans
      (hall y (List.mem_cons_of_mem _ List.mem_cons_self)).symm
    exact absurd (hxy ▸ List.mem_cons_self) (List.nodup_cons.mp hnodup).1

theorem sound_new {definition : TableDefinition} {draws : List Draw}
    (h : OneKey definition.columns) : (new definition draws).Sound where
  oneKey := h
  sorted := List.Pairwise.nil
  fits := fun _ hrow => absurd hrow List.not_mem_nil

/-! ## 2. Single rows -/

theorem row?_eq_none {key : Int64} : t.row? key = none ↔ ∀ row ∈ t.rows, row.key ≠ key := by
  simp [row?, List.find?_eq_none]

theorem mem_add {other : Row} : other ∈ (t.add row).rows ↔ other = row ∨ other ∈ t.rows :=
  (place_perm row t.rows).mem_iff.trans List.mem_cons

theorem Sound.add (h : t.Sound) (hfits : row.Fits t.columns) (hnew : t.row? row.key = none) :
    (t.add row).Sound where
  oneKey := h.oneKey
  sorted := sorted_place h.sorted (row?_eq_none.mp hnew)
  fits := fun x hx => by
    rcases mem_add.mp hx with rfl | hx
    · exact hfits
    · exact h.fits x hx

theorem Sound.record (h : t.Sound) (key : Int64) : (t.record key).Sound :=
  ⟨h.oneKey, h.sorted, h.fits⟩

theorem Sound.remove (h : t.Sound) (key : Int64) : (t.remove key).Sound where
  oneKey := h.oneKey
  sorted := h.sorted.filter _
  fits := fun x hx => h.fits x (List.mem_filter.mp hx).1

theorem Sound.replace (h : t.Sound) {key : Int64} {values : List Value}
    (hfits : (Row.mk key values).Fits t.columns) : (t.replace key values).Sound where
  oneKey := h.oneKey
  sorted := by
    refine List.pairwise_map.mpr (h.sorted.imp fun {a b} hlt => ?_)
    have hkey : ∀ x : Row, (if x.key == key then Row.mk key values else x).key = x.key := by
      intro x
      split
      · rename_i he
        exact (eq_of_beq he).symm
      · rfl
    rw [hkey, hkey]
    exact hlt
  fits := fun x hx => by
    obtain ⟨y, hy, rfl⟩ := List.mem_map.mp hx
    split
    · exact hfits
    · exact h.fits y hy

end Table

namespace Database

open Table

variable {db : Database} {t t' : Table} {row : Row} {parameters : Parameters} {slots : List Slot}

/-- A row is added only if its key is new, nothing required is missing, and nothing distinct is
repeated. -/
theorem addRow_eq_ok : addRow t row = .ok t' ↔
    missing? t.columns row.values = none ∧ t.row? row.key = none ∧ t.repeated? row = none ∧
      t' = t.add row := by
  unfold addRow
  cases missing? t.columns row.values <;> cases t.row? row.key <;> cases t.repeated? row <;>
    simp [eq_comm]

/-- A row with a key of its own passes the checks if nothing required is missing and nothing
distinct is repeated. -/
theorem checkRow_eq_ok :
    t.checkRow row = .ok () ↔ missing? t.columns row.values = none ∧ t.repeated? row = none := by
  unfold checkRow
  cases missing? t.columns row.values <;> cases t.repeated? row <;> simp

theorem length_showKey {columns : List Column} {key : Int64} {values : List Value}
    (h : values.length = columns.length) :
    (showKey columns key values).length = columns.length := by
  simp [showKey, h]

/-- A row with its key shown fits the columns. -/
theorem fits_showKey {columns : List Column} {values : List Value} (key : Int64)
    (h : values.length = columns.length) :
    (Row.mk key (showKey columns key values)).Fits columns where
  length := length_showKey h
  shown := fun i c hc hkey => by
    obtain ⟨hi, -⟩ := List.getElem?_eq_some_iff.mp hc
    have hv : values[i]? = some values[i] := List.getElem?_eq_getElem (h ▸ hi)
    have hz : (columns.zip values)[i]? = some (c, values[i]) :=
      List.getElem?_zip_eq_some.mpr ⟨hc, hv⟩
    simp [showKey, hz, hkey]

/-- The values that an insertion gives to the columns. -/
def newValues (t : Table) (parameters : Parameters) (slots : List Slot) : List Value :=
  t.columns.map fun c => (given? parameters slots c).getD c.initial

/-- The values that an update gives to the columns of a row. -/
def otherValues (t : Table) (parameters : Parameters) (slots : List Slot) (row : Row) :
    List Value :=
  (t.columns.zip row.values).map fun (c, v) => (given? parameters slots c).getD v

/-- An insertion that is done has added the new values under the key that they stand for, or under
one that the store chose. -/
theorem insertRow_ok {key : Int64} (h : db.insertRow t parameters slots = .ok (t', key)) :
    ∃ key?, givenKey t (newValues t parameters slots) = .ok key? ∧ db.chosenKey t key? = .ok key ∧
      addRow t ⟨key, showKey t.columns key (newValues t parameters slots)⟩ = .ok t' := by
  unfold insertRow at h
  dsimp only at h
  split at h
  · cases h
  rename_i key? hgiven
  split at h
  · cases h
  split at h
  · cases h
  rename_i hchosen
  split at h
  · cases h
  · rename_i hadd
    cases h
    exact ⟨key?, hgiven, hchosen, hadd⟩

theorem sound_insertRow (h : t.Sound) {key : Int64}
    (hinsert : db.insertRow t parameters slots = .ok (t', key)) :
    t'.Sound ∧ t'.definition = t.definition := by
  obtain ⟨-, -, -, hadd⟩ := insertRow_ok hinsert
  obtain ⟨-, hnew, -, rfl⟩ := addRow_eq_ok.mp hadd
  exact ⟨h.add (fits_showKey key (by simp [newValues])) hnew, rfl⟩

theorem moveRow_ok {old : Int64} (h : moveRow t old row = .ok t') :
    ∃ moved, addRow (t.remove old) row = .ok moved ∧ t' = { moved with lastKey := t.lastKey } := by
  unfold moveRow at h
  split at h
  · cases h
  · cases h
  · rename_i moved hadd
    cases h
    exact ⟨moved, hadd, rfl⟩

/-- An update that is done has put the other values in the place of the row, or has taken the row
out and put them in under another key. -/
theorem updateRow_ok (h : db.updateRow parameters slots t row = .ok t') :
    ∃ key, shownKey t row (otherValues t parameters slots row) = .ok key ∧
      (key = row.key ∧ t.checkRow ⟨key, otherValues t parameters slots row⟩ = .ok () ∧
          t' = t.replace key (otherValues t parameters slots row) ∨
        key ≠ row.key ∧ ∃ moved,
          addRow (t.remove row.key) ⟨key, otherValues t parameters slots row⟩ = .ok moved ∧
            t' = { moved with lastKey := t.lastKey }) := by
  unfold updateRow at h
  dsimp only at h
  split at h
  · cases h
  rename_i key hshown
  split at h
  · cases h
  split at h
  · rename_i hkey
    split at h
    · cases h
    · rename_i hcheck
      cases h
      exact ⟨key, hshown, .inl ⟨hkey, hcheck, rfl⟩⟩
  · rename_i hkey
    exact ⟨key, hshown, .inr ⟨hkey, moveRow_ok h⟩⟩

/-- The key that given values show is in the column that shows it. -/
theorem shown_of_shownKey (hone : OneKey t.columns) {values : List Value} {key : Int64}
    (h : shownKey t row values = .ok key) {i : Nat} {c : Column} (hc : t.columns[i]? = some c)
    (hkey : c.isRowKey = true) : values[i]? = some (.integer key) := by
  have hsome : (t.columns.find? (·.isRowKey)).isSome = true :=
    List.find?_isSome.mpr ⟨c, List.mem_of_getElem? hc, hkey⟩
  cases hindex : t.columns.findIdx? (·.isRowKey) with
  | none =>
    have := List.findIdx?_eq_none_iff.mp hindex c (List.mem_of_getElem? hc)
    rw [hkey] at this
    cases this
  | some j =>
    obtain ⟨hj, hjkey, -⟩ := List.findIdx?_eq_some_iff_getElem.mp hindex
    have hij : i = j := hone i j c _ hc (List.getElem?_eq_getElem hj) hkey hjkey
    subst hij
    unfold shownKey givenKey at h
    rw [hindex] at h
    cases hv : values[i]? with
    | none => simp [hv, keyOf, hsome] at h
    | some v => cases v <;> simp_all [keyOf]

theorem sound_updateRow (h : t.Sound) (hrow : row.Fits t.columns)
    (hupdate : db.updateRow parameters slots t row = .ok t') :
    t'.Sound ∧ t'.definition = t.definition := by
  obtain ⟨key, hshown, hdone⟩ := updateRow_ok hupdate
  have hfits : (Row.mk key (otherValues t parameters slots row)).Fits t.columns :=
    ⟨by simp [otherValues, hrow.length], fun i c hc => shown_of_shownKey h.oneKey hshown hc⟩
  rcases hdone with ⟨-, -, rfl⟩ | ⟨-, moved, hadd, rfl⟩
  · exact ⟨h.replace hfits, rfl⟩
  · obtain ⟨-, hnew, -, rfl⟩ := addRow_eq_ok.mp hadd
    obtain ⟨hone, hsorted, hshown⟩ := (h.remove row.key).add hfits hnew
    exact ⟨⟨hone, hsorted, hshown⟩, rfl⟩

theorem deleteRow_ok (h : db.deleteRow t row = .ok t') : t' = t.remove row.key := by
  unfold deleteRow at h
  split at h <;> cases h
  rfl

theorem sound_deleteRow (h : t.Sound) (hdelete : db.deleteRow t row = .ok t') :
    t'.Sound ∧ t'.definition = t.definition := by
  obtain rfl := deleteRow_ok hdelete
  exact ⟨h.remove row.key, rfl⟩

/-! ## 3. Whole statements -/

/-- All tables of a database are sound. -/
def Sound (db : Database) : Prop :=
  ∀ t ∈ db.tables, t.Sound

theorem Sound.put (h : db.Sound) (ht : t.Sound) : (db.put t).Sound := by
  intro x hx
  obtain ⟨y, hy, rfl⟩ := List.mem_map.mp hx
  split
  · exact ht
  · exact h y hy

theorem Sound.table? (h : db.Sound) {name : String} (ht : db.table? name = some t) : t.Sound :=
  h t (List.mem_of_find?_eq_some ht)

/-- Updating rows of a sound table, one after another, keeps it sound. -/
theorem sound_changeRows (ht : t.Sound) {rows : List Row} (hrows : ∀ row ∈ rows, row ∈ t.rows) :
    (changeRows (db.updateRow parameters slots) rows t).1.Sound := by
  have hkept : (changeRows (db.updateRow parameters slots) rows t).1.Sound ∧ _ :=
    changeRows_invariant (P := fun x => x.Sound ∧ x.definition = t.definition) keepsPassed_updateRow
      (fun x row x' hr hx hdone => by
        have hfits : row.Fits x.columns := by
          have := ht.fits row (hrows row hr)
          rwa [Table.columns, ← hx.2] at this
        obtain ⟨hsound, hdef⟩ := sound_updateRow hx.1 hfits hdone
        exact ⟨hsound, hdef.trans hx.2⟩) ⟨ht, rfl⟩
  exact hkept.1

/-- **A statement leaves sound tables behind**, whether it is done or stops half-way. -/
theorem Sound.apply (h : db.Sound) (ht : t.Sound) (change : Change) (parameters : Parameters) :
    Leaves Sound (db.apply t change parameters) := by
  cases change with
  | insert name values =>
    unfold Database.apply
    dsimp only
    split
    · rename_i t' key hinsert
      exact leaves_settle h (h.put (sound_insertRow ht hinsert).1) _ _ nofun
    · rename_i hinsert
      refine leaves_settle h (h.put ht) _ _ fun t' hpassed => ?_
      cases hpassed
      obtain ⟨⟨key, rfl⟩, -⟩ := insertRow_passed hinsert
      exact h.put (ht.record key)
  | update filter values =>
    exact leaves_changeRows h
      (h.put (sound_changeRows ht fun _ hrow => (List.mem_filter.mp hrow).1)) none
  | delete filter =>
    have hrows : (changeRows db.deleteRow (targets t filter parameters) t).1.Sound :=
      changeRows_invariant (P := Table.Sound) keepsPassed_deleteRow
        (fun x row x' _ hx hdone => (sound_deleteRow hx hdone).1) ht
    exact leaves_changeRows h (h.put hrows) none

/-- Soundness lasts. -/
theorem lasting_sound : Lasting Sound :=
  fun _ _ change parameters h ht => h.apply (h.table? ht) change parameters

/-- A definition that can be written down: it has at most one primary key. -/
def Alteration.Definable : Alteration → Prop
  | .createTable definition _ => OneKey definition.columns
  | _ => True

/-- A table is created with no rows, unless its name is taken. -/
theorem createTable_ok {definition : TableDefinition} {unlessTaken : Bool} {after : Database}
    (hdone : db.alter (.createTable definition unlessTaken) = .ok after) :
    after = db ∨ after = db.withTable definition := by
  simp only [Database.alter, createTable] at hdone
  split at hdone
  · cases hdone
  split at hdone
  · split at hdone <;> cases hdone
    exact .inl rfl
  · cases hdone
    exact .inr rfl

theorem Sound.alter (h : db.Sound) {alteration : Alteration} (ha : alteration.Definable)
    {after : Database} (hdone : db.alter alteration = .ok after) : after.Sound := by
  cases alteration with
  | createTable definition unlessTaken =>
    rcases createTable_ok hdone with rfl | rfl
    · exact h
    · intro x hx
      rcases List.mem_append.mp hx with hx | hx
      · exact h x hx
      · rw [List.mem_singleton.mp hx]
        exact sound_new ha
  | dropTable name =>
    simp only [Database.alter, dropTable] at hdone
    split at hdone <;> cases hdone
    exact fun x hx => h x (List.mem_filter.mp hx).1
  | createView view =>
    simp only [Database.alter] at hdone
    split at hdone
    · cases hdone
    split at hdone <;> cases hdone
    exact h
  | createGuard guard =>
    simp only [Database.alter] at hdone
    split at hdone
    · cases hdone
    · cases hdone
    · split at hdone <;> cases hdone
      exact h

end Database

/-! ## 4. Stores -/

namespace Store

variable {st : Store} {s : Session}

/-- All tables of a store are sound, those that are committed and those inside a transaction. -/
structure Sound (st : Store) : Prop where
  committed : st.committed.Sound
  writer : ∀ t, st.writer = some t → t.content.Sound

theorem Sound.seen (h : st.Sound) (s : Session) : (st.seen s).Sound := by
  unfold Store.seen own?
  split
  · rename_i t ht
    exact h.writer t (Option.eq_some_of_filter_eq_some ht)
  · exact h.committed

theorem sound_drawing (draws : List Draw) : (drawing draws).Sound where
  committed := fun _ ht => absurd ht List.not_mem_nil
  writer := fun _ ht => by cases ht

theorem sound_iff : st.Sound ↔ st.Everywhere Database.Sound :=
  ⟨fun h => ⟨h.committed, h.writer⟩, fun h => ⟨h.committed, h.writer⟩⟩

theorem Sound.begin (h : st.Sound) (s : Session) : (st.begin s).2.Sound :=
  sound_iff.mpr ((sound_iff.mp h).begin s)

theorem Sound.commit (h : st.Sound) (s : Session) : (st.commit s).2.Sound :=
  sound_iff.mpr ((sound_iff.mp h).commit s)

theorem Sound.rollback (h : st.Sound) (s : Session) : (st.rollback s).2.Sound :=
  sound_iff.mpr ((sound_iff.mp h).rollback s)

theorem Sound.execute (h : st.Sound) (s : Session) (change : Change) (parameters : Parameters) :
    (st.execute s change parameters).2.Sound :=
  sound_iff.mpr ((sound_iff.mp h).execute Database.lasting_sound s change parameters)

theorem Sound.alter (h : st.Sound) (s : Session) {alteration : Database.Alteration}
    (ha : alteration.Definable) : (st.alter s alteration).2.Sound :=
  sound_iff.mpr ((sound_iff.mp h).alter s fun _ _ hdb hdone => Database.Sound.alter hdb ha hdone)

/-- The stores that sessions can bring about: a store starts empty, whatever numbers it is going
to draw, or as a file that is no database, and any session may take any step on it at any time. -/
inductive Reachable : Store → Prop
  | drawing (draws : List Draw) : Reachable (drawing draws)
  | unreadable : Reachable unreadable
  | begin {st : Store} (s : Session) : Reachable st → Reachable (st.begin s).2
  | commit {st : Store} (s : Session) : Reachable st → Reachable (st.commit s).2
  | rollback {st : Store} (s : Session) : Reachable st → Reachable (st.rollback s).2
  | execute {st : Store} (s : Session) (change : Change) (parameters : Parameters) :
      Reachable st → Reachable (st.execute s change parameters).2
  | alter {st : Store} (s : Session) (alteration : Database.Alteration) :
      alteration.Definable → Reachable st → Reachable (st.alter s alteration).2

/-- **All tables of a store are sound**, whatever sessions have done with it. -/
theorem Reachable.sound (h : st.Reachable) : st.Sound := by
  induction h with
  | drawing draws => exact sound_drawing draws
  | unreadable => exact ⟨(sound_drawing []).committed, fun _ hw => by cases hw⟩
  | begin s _ ih => exact ih.begin s
  | commit s _ ih => exact ih.commit s
  | rollback s _ ih => exact ih.rollback s
  | execute s change parameters _ ih => exact ih.execute s change parameters
  | alter s alteration ha _ ih => exact ih.alter s ha

end Store

end EntityStore

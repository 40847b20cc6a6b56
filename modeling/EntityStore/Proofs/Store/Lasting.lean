import EntityStore.Store
/-!
# What statements keep

A statement goes through rows one by one.  It may stop at any of them or pass it over, it may fail
and leave what it did behind, and it may end the transaction that it is part of.  A property of
databases lasts (`Lasting`) if it survives all of this.  Then it survives every step that sessions
take, in what is committed and in what is inside a transaction (`Everywhere.execute` and the lemmas
around it).

Only tables that ignore repeated values pass rows over.  Most of what is said about single rows
later is about tables that do not (`TableDefinition.Strict`).
-/

namespace EntityStore

/-- A table of the definition passes no row over: a row that repeats what must not be repeated is
refused. -/
def TableDefinition.Strict (definition : TableDefinition) : Prop :=
  ∀ c ∈ definition.columns, c.ignoresRepeats = false

namespace Database

open Table

variable {P : Database → Prop} {db : Database} {t t' : Table} {row : Row} {change : Change}
  {parameters : Parameters} {slots : List Slot} {step : Table → Row → Except Halt Table}

/-! ## 1. Rows that are passed over -/

theorem repetition_passed {whole : Table} {c : Column} (hc : t.repeated? row = some c)
    (h : whole.repetition c = .passed t') : t' = whole ∧ ¬t.definition.Strict := by
  unfold repetition at h
  split at h <;> cases h
  rename_i hignores
  refine ⟨rfl, fun hstrict => ?_⟩
  obtain ⟨⟨c', i⟩, hfound, rfl⟩ := Option.map_eq_some_iff.mp hc
  have hmem := List.fst_mem_of_mem_zipIdx (List.mem_reverse.mp (List.mem_of_find?_eq_some hfound))
  rw [hstrict c' hmem] at hignores
  cases hignores

theorem not_passed_of_ask {event : RowEvent} : db.ask event t row ≠ .error (.passed t') := by
  unfold ask
  split <;> nofun

theorem not_passed_of_givenKey {values : List Value} :
    givenKey t values ≠ .error (.passed t') := by
  unfold givenKey
  split
  · nofun
  · unfold keyOf
    split <;> nofun

theorem not_passed_of_shownKey {values : List Value} :
    shownKey t row values ≠ .error (.passed t') := by
  intro h
  unfold shownKey at h
  split at h
  · rename_i hgiven
    cases h
    exact not_passed_of_givenKey hgiven
  · split at h <;> cases h
  · cases h

theorem not_passed_of_chosenKey {key? : Option Int64} :
    db.chosenKey t key? ≠ .error (.passed t') := by
  unfold chosenKey
  split
  · nofun
  · cases t.chooseKey <;> nofun

/-- A row that is passed over when it is added has given out a key. -/
theorem addRow_passed (h : addRow t row = .error (.passed t')) :
    t' = t.record row.key ∧ ¬t.definition.Strict := by
  unfold addRow at h
  split at h
  · cases h
  split at h
  · cases h
  split at h
  · exact repetition_passed ‹_› (Except.error.inj h)
  · cases h

theorem insertRow_passed (h : db.insertRow t parameters slots = .error (.passed t')) :
    (∃ key, t' = t.record key) ∧ ¬t.definition.Strict := by
  unfold insertRow at h
  dsimp only at h
  split at h
  · rename_i hgiven
    cases h
    exact absurd hgiven not_passed_of_givenKey
  split at h
  · rename_i hask
    cases h
    exact absurd hask not_passed_of_ask
  split at h
  · rename_i hchosen
    cases h
    exact absurd hchosen not_passed_of_chosenKey
  split at h
  · rename_i hadd
    cases h
    obtain ⟨hrecord, hstrict⟩ := addRow_passed hadd
    exact ⟨⟨_, hrecord⟩, hstrict⟩
  · cases h

theorem checkRow_passed (h : t.checkRow row = .error (.passed t')) :
    t' = t ∧ ¬t.definition.Strict := by
  unfold checkRow at h
  split at h
  · cases h
  split at h
  · exact repetition_passed ‹_› (Except.error.inj h)
  · cases h

theorem moveRow_passed {old : Int64} (h : moveRow t old row = .error (.passed t')) :
    t' = t ∧ ¬t.definition.Strict := by
  unfold moveRow at h
  split at h
  · rename_i hadd
    cases h
    exact ⟨rfl, (addRow_passed hadd).2⟩
  · rename_i hnot hadd
    cases h
    exact absurd rfl (hnot t')
  · cases h

theorem updateRow_passed (h : db.updateRow parameters slots t row = .error (.passed t')) :
    t' = t ∧ ¬t.definition.Strict := by
  unfold updateRow at h
  dsimp only at h
  split at h
  · rename_i hshown
    cases h
    exact absurd hshown not_passed_of_shownKey
  split at h
  · rename_i hask
    cases h
    exact absurd hask not_passed_of_ask
  split at h
  · split at h
    · rename_i hcheck
      cases h
      exact checkRow_passed hcheck
    · cases h
  · exact moveRow_passed h

/-- Nothing but a refusal keeps a row out of a strict table. -/
theorem refused_of_insertRow {halt : Halt} (hstrict : t.definition.Strict)
    (h : db.insertRow t parameters slots = .error halt) :
    ∃ fault conflict, halt = .refused fault conflict := by
  cases halt with
  | refused fault conflict => exact ⟨fault, conflict, rfl⟩
  | passed t' => exact absurd hstrict (insertRow_passed h).2

theorem refused_of_updateRow {halt : Halt} (hstrict : t.definition.Strict)
    (h : db.updateRow parameters slots t row = .error halt) :
    ∃ fault conflict, halt = .refused fault conflict := by
  cases halt with
  | refused fault conflict => exact ⟨fault, conflict, rfl⟩
  | passed t' => exact absurd hstrict (updateRow_passed h).2

/-- A row that a step passes over leaves the table as it is. -/
def KeepsPassed (step : Table → Row → Except Halt Table) : Prop :=
  ∀ t row t', step t row = .error (.passed t') → t' = t

theorem keepsPassed_updateRow : KeepsPassed (db.updateRow parameters slots) :=
  fun _ _ _ h => (updateRow_passed h).1

theorem not_passed_of_deleteRow : db.deleteRow t row ≠ .error (.passed t') := by
  intro h
  unfold deleteRow at h
  split at h
  · rename_i hask
    cases h
    exact not_passed_of_ask hask
  · cases h

theorem keepsPassed_deleteRow : KeepsPassed db.deleteRow :=
  fun _ _ _ h => absurd h not_passed_of_deleteRow

/-! ## 2. Whole statements -/

/-- What every step of a statement keeps, the statement keeps, wherever it stops. -/
theorem changeRows_invariant {P : Table → Prop} {rows : List Row} (hpassed : KeepsPassed step)
    (hstep : ∀ t row t', row ∈ rows → P t → step t row = .ok t' → P t') (h : P t) :
    P (changeRows step rows t).1 := by
  induction rows generalizing t with
  | nil => exact h
  | cons row rest ih =>
    have hrest : ∀ t row t', row ∈ rest → P t → step t row = .ok t' → P t' :=
      fun t row t' hr => hstep t row t' (List.mem_cons_of_mem _ hr)
    unfold changeRows
    split
    · rename_i t' hover
      rw [hpassed t row t' hover]
      exact ih hrest h
    · exact h
    · rename_i t' hdone
      exact ih hrest (hstep t row t' List.mem_cons_self h hdone)

/-- No row that is passed over stops a statement. -/
theorem not_passed_of_changeRows {rows : List Row} :
    (changeRows step rows t).2.2 ≠ some (.passed t') := by
  induction rows generalizing t with
  | nil => nofun
  | cons row rest ih =>
    unfold changeRows
    split
    · exact ih
    · rename_i hnot _
      intro h
      exact hnot t' (Option.some.inj h)
    · exact ih

/-- The database that an outcome leaves behind, if it leaves one, has a property. -/
def Leaves (P : Database → Prop) : Outcome → Prop
  | .done db _ _ => P db
  | .failed _ db => P db
  | .ended _ => True

/-- A statement that got as far as a table leaves the database with it, or without. -/
theorem leaves_settle (h : P db) (ht : P (db.put t)) (changed : Nat) (key : Option Int64)
    {halt : Option Halt} (hpassed : ∀ t', halt = some (.passed t') → P (db.put t')) :
    Leaves P (db.settle t changed key halt) := by
  rcases halt with - | ⟨fault, conflict⟩ | ⟨t'⟩
  · exact ht
  · cases conflict with
    | abort => exact h
    | fail => exact ht
    | rollback => trivial
  · exact hpassed t' rfl

/-- So does one that goes through rows. -/
theorem leaves_changeRows {rows : List Row} (h : P db) (ht : P (db.put (changeRows step rows t).1))
    (key : Option Int64) :
    Leaves P (db.settle (changeRows step rows t).1 (changeRows step rows t).2.1 key
      (changeRows step rows t).2.2) :=
  leaves_settle h ht _ key fun _ hover => absurd hover not_passed_of_changeRows

/-- A property that a statement keeps on the table that it names, whether it is done or stops
half-way. -/
def Lasting (P : Database → Prop) : Prop :=
  ∀ (db : Database) (t : Table) (change : Change) (parameters : Parameters), P db →
    db.table? (Store.target change) = some t → Leaves P (db.apply t change parameters)

/-- References that are enforced may undo the statement as a whole. -/
theorem leaves_runOn (h : P db) {parameters : Parameters}
    (happly : Leaves P (db.apply t change parameters)) (enforce : Bool) :
    Leaves P (db.runOn t enforce change parameters) := by
  unfold Database.runOn
  dsimp only
  split
  · unfold enforceReferences
    split
    · rename_i ho
      rw [ho] at happly
      split
      · exact h
      · exact happly
    · exact happly
  · exact happly

theorem Lasting.runOn (hP : Lasting P) (h : P db) (ht : db.table? (Store.target change) = some t)
    (enforce : Bool) (parameters : Parameters) :
    Leaves P (db.runOn t enforce change parameters) :=
  leaves_runOn h (hP db t change parameters h ht) enforce

theorem writable_ok {name : String} (h : db.writable name = .ok t) : db.table? name = some t := by
  unfold writable at h
  split at h
  · cases h
    assumption
  · split at h <;> cases h

theorem checkNames_ok (h : db.checkNames change = .ok t) :
    db.table? (Store.target change) = some t := by
  cases change with
  | delete filter => exact writable_ok h
  | insert name values =>
    unfold checkNames at h
    dsimp only at h
    split at h
    · cases h
    · split at h <;> cases h
      exact writable_ok ‹_›
  | update filter values =>
    unfold checkNames at h
    dsimp only at h
    split at h
    · cases h
    · split at h <;> cases h
      exact writable_ok ‹_›

/-- The table that is checked for a change is the one that the change names. -/
theorem check_ok {enforce : Bool} (h : db.check enforce change = .ok t) :
    db.table? (Store.target change) = some t := by
  unfold check at h
  split at h
  · cases h
  rename_i hnames
  split at h
  · cases h
  split at h
  · split at h <;> cases h
    exact checkNames_ok hnames
  · cases h
    exact checkNames_ok hnames

end Database

/-! ## 3. Stores -/

namespace Store

variable {P : Database → Prop} {st : Store} {s : Session}

/-- What is committed has a property, and so has what is inside a transaction. -/
structure Everywhere (P : Database → Prop) (st : Store) : Prop where
  committed : P st.committed
  writer : ∀ t, st.writer = some t → P t.content

namespace Everywhere

theorem begin (h : st.Everywhere P) (s : Session) : (st.begin s).2.Everywhere P := by
  unfold Store.begin
  split
  · exact h
  · split
    · exact ⟨h.committed, fun t ht => by cases ht; exact h.committed⟩
    · exact h

theorem commit (h : st.Everywhere P) (s : Session) : (st.commit s).2.Everywhere P := by
  unfold Store.commit own?
  split
  · exact h
  · rename_i t ht
    split
    · exact h
    · exact ⟨h.writer t (Option.eq_some_of_filter_eq_some ht), fun _ hw => by cases hw⟩

theorem rollback (h : st.Everywhere P) (s : Session) : (st.rollback s).2.Everywhere P := by
  unfold Store.rollback
  split
  · exact h
  · exact ⟨h.committed, fun _ hw => by cases hw⟩

/-- A transaction that goes on with a content that has the property. -/
theorem carry (h : st.Everywhere P) {t : Transaction} (ht : P t.content) :
    ({ st with writer := some t } : Store).Everywhere P :=
  ⟨h.committed, fun t' hw => by cases hw; exact ht⟩

/-- **A statement keeps what lasts**, inside a transaction and outside. -/
theorem execute (h : st.Everywhere P) (hP : Database.Lasting P) (s : Session) (change : Change)
    (parameters : Parameters) : (st.execute s change parameters).2.Everywhere P := by
  unfold Store.execute
  split
  · exact h
  split
  · rename_i t hown
    have hcontent := h.writer t (Option.eq_some_of_filter_eq_some hown)
    unfold executeInside
    split
    · exact h
    rename_i table hcheck
    have hdone := hP.runOn hcontent (Database.check_ok hcheck) s.foreignKeys parameters
    split <;> rename_i ho <;> rw [ho] at hdone
    · exact h.carry hdone
    · exact h.carry hdone
    · exact ⟨h.committed, fun _ hw => by cases hw⟩
  · unfold executeAlone
    split
    · exact h
    rename_i table hcheck
    have hdone := hP.runOn h.committed (Database.check_ok hcheck) s.foreignKeys parameters
    split
    · exact h
    split <;> rename_i ho <;> rw [ho] at hdone
    · split
      · exact h
      · exact ⟨hdone, h.writer⟩
    · exact ⟨hdone, h.writer⟩
    · exact h

/-- What an alteration of a database keeps, it keeps for a session. -/
theorem alter (h : st.Everywhere P) (s : Session) {alteration : Database.Alteration}
    (hkeep : ∀ db after, P db → db.alter alteration = .ok after → P after) :
    (st.alter s alteration).2.Everywhere P := by
  unfold Store.alter
  split
  · exact h
  split
  · rename_i t hown
    have hcontent := h.writer t (Option.eq_some_of_filter_eq_some hown)
    unfold alterInside
    split
    · exact h
    rename_i after hafter
    split
    · exact h.carry hcontent
    · exact h.carry (hkeep _ _ hcontent hafter)
  · unfold alterAlone
    split
    · exact h
    rename_i after hafter
    split
    · exact h
    split
    · exact h
    split
    · exact h
    · exact ⟨hkeep _ _ h.committed hafter, h.writer⟩

end Everywhere

end Store

end EntityStore

import EntityStore.Proofs.Store.Dedicated
import EntityStore.Proofs.Store.Isolation
/-!
# What sessions on one store read

While a session is inside a transaction it sees a database of its own.  Still all sessions on a
store in shared memory read the same rows: the transaction sees what is committed in every table
that it has not written to (`Coherent`), and the tables that it has written to nobody else can read.
So whatever two sessions can both read is the same for both (`read_eq_of_reads`), and a session is
kept from reading only by the open transaction of another one (`reads_or_kept_out`).

The invariant is kept by every step of every session on the store (section 2).
-/

namespace EntityStore

/-! ## 1. Tables that a statement does not name -/

namespace Database

variable {db : Database} {t t' : Table} {change : Change}

theorem relation?_put {name : String} (ht : t'.name = t.name)
    (hname : Name.same name t.name = false) : (db.put t').relation? name = db.relation? name := by
  have hagree : AgreeBut t.name db (db.put t') := Isolated.agree_put ht
  obtain ⟨htable, hview⟩ := hagree name hname
  simp only [relation?, htable, hview]

/-- A statement leaves the rows of every table alone that it does not name. -/
theorem relation?_runOn (ht : db.table? (Store.target change) = some t) (enforce : Bool)
    (parameters : Parameters) :
    Leaves (fun after => ∀ name, Name.same name (Store.target change) = false →
      after.relation? name = db.relation? name) (db.runOn t enforce change parameters) := by
  refine leaves_runOn (fun _ _ => rfl) (leaves_later (fun _ _ => rfl) ?_ change parameters) enforce
  intro t' hlater name hname
  have htarget : Name.same t.name (Store.target change) = true :=
    List.find?_some (p := fun x : Table => Name.same x.name (Store.target change)) ht
  refine relation?_put (congrArg TableDefinition.name hlater.definition) ?_
  rw [Name.same, eq_of_beq htarget]
  exact hname

end Database

/-! ## 2. Coherent stores -/

namespace Store

variable {st : Store} {s s' : Session}

/-- An open transaction that has altered nothing sees what is committed, in the tables that it has
not written to. -/
structure Coherent (st : Store) : Prop where
  readable : st.readable = true
  content : ∀ t, st.writer = some t → t.altered = false →
    ∀ name, t.written.any (Name.same name) = false →
      t.content.relation? name = st.committed.relation? name

/-- An alteration that has nothing to do does nothing. -/
theorem alter_of_isIdle {db after : Database} {alteration : Database.Alteration}
    (hidle : isIdle db alteration = true) (h : db.alter alteration = .ok after) : after = db := by
  unfold isIdle at hidle
  split at hidle
  · simp only [Database.alter, Database.createTable, hidle, if_true] at h
    split at h <;> cases h
    rfl
  · cases hidle

namespace Coherent

theorem empty : Store.empty.Coherent where
  readable := rfl
  content _ hwriter := by cases hwriter

theorem of_closed (h : st.readable = true) (db : Database) :
    ({ st with committed := db, writer := none } : Store).Coherent where
  readable := h
  content _ hwriter := by cases hwriter

theorem begin (h : st.Coherent) (s : Session) : (st.begin s).2.Coherent := by
  unfold Store.begin
  split
  · exact h
  split
  · refine ⟨h.readable, fun t hwriter _ _ _ => ?_⟩
    cases hwriter
    rfl
  · exact h

theorem commit (h : st.Coherent) (s : Session) : (st.commit s).2.Coherent := by
  unfold Store.commit
  split
  · exact h
  · split
    · exact h
    · exact of_closed h.readable _

theorem rollback (h : st.Coherent) (s : Session) : (st.rollback s).2.Coherent := by
  unfold Store.rollback
  split
  · exact h
  · exact of_closed h.readable _

/-- A statement inside a transaction adds its table to those that were written to. -/
theorem advance (h : st.Coherent) {t : Transaction} (ht : st.writer = some t) {table : String}
    {after : Database} (hafter : ∀ name, Name.same name table = false →
      after.relation? name = t.content.relation? name) :
    ({ st with writer := some (Store.advance s t table after) } : Store).Coherent := by
  refine ⟨h.readable, fun t' hwriter haltered name hname => ?_⟩
  cases hwriter
  obtain ⟨htable, hwritten⟩ :
      Name.same name table = false ∧ t.written.any (Name.same name) = false := by
    simpa [Store.advance] using hname
  exact (hafter name htable).trans (h.content t ht haltered name hwritten)

theorem execute (h : st.Coherent) (s : Session) (change : Change) (parameters : Parameters) :
    (st.execute s change parameters).2.Coherent := by
  unfold Store.execute
  split
  · exact h
  split
  · rename_i t hown
    have hwriter : st.writer = some t := Option.eq_some_of_filter_eq_some hown
    unfold executeInside
    split
    · exact h
    rename_i table hcheck
    have hleft := Database.relation?_runOn (Database.check_ok hcheck) s.foreignKeys parameters
    split <;> rename_i houtcome <;> rw [houtcome] at hleft
    · exact h.advance hwriter hleft
    · exact h.advance hwriter hleft
    · exact of_closed h.readable _
  · unfold executeAlone
    split
    · exact h
    split
    · exact h
    rename_i hopen
    -- No transaction is open, so there is nothing to agree with.
    have hclosed : st.writer = none := by simpa using hopen
    split
    · split
      · exact h
      · rw [hclosed]
        exact of_closed h.readable _
    · rw [hclosed]
      exact of_closed h.readable _
    · exact h

theorem alter (h : st.Coherent) (s : Session) (alteration : Database.Alteration) :
    (st.alter s alteration).2.Coherent := by
  unfold Store.alter
  split
  · exact h
  split
  · rename_i t hown
    have hwriter : st.writer = some t := Option.eq_some_of_filter_eq_some hown
    unfold alterInside
    split
    · exact h
    rename_i after hafter
    split
    · exact ⟨h.readable, fun t' hw haltered => by cases hw; cases haltered⟩
    · refine ⟨h.readable, fun t' hw haltered name hname => ?_⟩
      cases hw
      obtain ⟨haltered, hidle⟩ : t.altered = false ∧ isIdle t.content alteration = true := by
        simpa using haltered
      rw [alter_of_isIdle hidle hafter]
      exact h.content t hwriter haltered name hname
  · unfold alterAlone
    split
    · exact h
    split
    · exact h
    split
    · exact h
    rename_i hopen
    have hclosed : st.writer = none := by simpa using hopen
    split
    · exact h
    · rw [hclosed]
      exact of_closed h.readable _

end Coherent

/-! ## 3. Reading -/

/-- A session can read a table: nobody keeps it from doing so. -/
structure Reads (st : Store) (s : Session) (table : String) : Prop where
  refusal : st.refusal? s = none
  lock : st.readLock? s table = none

/-- A query that looks at one table or view, as selections and counts do. -/
def About {α : Type} (table : String) (query : Database → Except StoreFault α) : Prop :=
  ∀ db db', db.relation? table = db'.relation? table → query db = query db'

variable {table : String}

theorem Reads.read {α : Type} (h : st.Reads s table) (query : Database → Except StoreFault α) :
    st.read s table query = query (st.seen s) := by
  simp only [Store.read, readDefinitions, h.refusal, h.lock]

/-- **A session is kept from reading a table only by another session's open transaction**, which has
written to the table or altered the database. -/
theorem Coherent.reads_or_kept_out (h : st.Coherent) (s : Session) (table : String) :
    st.Reads s table ∨ ∃ t, st.writer = some t ∧ t.owner ≠ s.id ∧
      (t.altered = true ∨ t.written.any (Name.same table) = true) := by
  cases hother : st.other? s with
  | none =>
    refine .inl ⟨?_, ?_⟩
    · simp [refusal?, h.readable, barrier?, hother]
    · simp [readLock?, hother]
  | some t =>
    obtain ⟨hwriter, howner⟩ := Option.filter_eq_some_iff.mp hother
    cases haltered : t.altered with
    | true => exact .inr ⟨t, hwriter, by simpa using howner, .inl haltered⟩
    | false =>
      cases hwritten : t.written.any (Name.same table) with
      | true => exact .inr ⟨t, hwriter, by simpa using howner, .inr hwritten⟩
      | false =>
        refine .inl ⟨?_, ?_⟩
        · simp [refusal?, h.readable, barrier?, hother, haltered]
        · simp [readLock?, hother, hwritten]

/-- Where somebody can read in shared memory, another session's transaction sees what is
committed. -/
theorem Coherent.relation?_content (h : st.Coherent) (hshared : s.place.isShared = true)
    (hreads : st.Reads s table) {t : Transaction} (ht : st.writer = some t)
    (howner : t.owner ≠ s.id) :
    t.content.relation? table = st.committed.relation? table := by
  have hother : st.other? s = some t := by simp [other?, ht, howner]
  have haltered : t.altered = false := by
    simpa [refusal?, h.readable, barrier?, hother, hshared] using hreads.refusal
  have hwritten : t.written.any (Name.same table) = false := by
    simpa [readLock?, hother, hshared] using hreads.lock
  exact h.content t ht haltered table hwritten

/-- **Whatever two sessions can both read is the same for both.** -/
theorem Coherent.read_eq_of_reads (h : st.Coherent) (hshared : s.place.isShared = true)
    (hshared' : s'.place.isShared = true) (hreads : st.Reads s table) (hreads' : st.Reads s' table)
    {α : Type} {query : Database → Except StoreFault α} (hquery : About table query) :
    st.read s table query = st.read s' table query := by
  rw [hreads.read, hreads'.read]
  refine hquery _ _ ?_
  cases hwriter : st.writer with
  | none => simp [seen, own?, hwriter]
  | some t =>
    have hseen : ∀ x : Session, st.seen x = if t.owner = x.id then t.content else st.committed := by
      intro x
      unfold seen own?
      by_cases howner : t.owner = x.id <;> simp [hwriter, Option.filter, howner]
    rw [hseen s, hseen s']
    by_cases howner : t.owner = s.id
    · by_cases howner' : t.owner = s'.id
      · rw [if_pos howner, if_pos howner']
      · rw [if_pos howner, if_neg howner', h.relation?_content hshared' hreads' hwriter howner']
    · by_cases howner' : t.owner = s'.id
      · rw [if_neg howner, if_pos howner', h.relation?_content hshared hreads hwriter howner]
      · rw [if_neg howner, if_neg howner']

end Store

end EntityStore

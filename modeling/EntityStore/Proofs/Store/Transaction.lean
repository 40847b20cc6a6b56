import EntityStore.Session
import Mathlib
/-!
# A transaction of one statement

Repositories open a transaction, run one statement in it and commit it, or roll it back.  This
module says what that does to a store on which no transaction is open: `Database.perform` is the
statement as a whole, which either gives a database that can be committed or a fault and nothing
else, and the lemmas below follow a store from the beginning of the transaction to its end.

A session can open a transaction exactly on a store that is `Idle`.
-/

namespace EntityStore

/-! ## 1. Statements as a whole -/

/-- What a change does to a database as a transaction by itself: the rows that it changed and the
database that can be committed, or why there is none.  What a statement leaves behind that fails
half-way is not told. -/
def Database.perform (db : Database) (s : Session) (change : Change) (parameters : Parameters) :
    Except StoreFault (Store.Written × Database) :=
  match db.check s.foreignKeys change with
  | .error fault => .error fault
  | .ok t =>
    match db.runOn t s.foreignKeys change parameters with
    | .failed fault _ => .error fault
    | .ended fault => .error fault
    | .done after changed key =>
      if 0 < Store.owedAfter s 0 db after then .error .foreignKey else .ok (⟨changed, key⟩, after)

/-- What a change makes of a database, whether it can be committed or not.  A change that fails
makes nothing of it. -/
def Database.made (db : Database) (s : Session) (change : Change) (parameters : Parameters) :
    Database :=
  match db.check s.foreignKeys change with
  | .error _ => db
  | .ok t =>
    match db.runOn t s.foreignKeys change parameters with
    | .done after _ _ => after
    | _ => db

/-! ## 2. Stores without a transaction -/

/-- A transaction that a session has just opened on a database. -/
def Transaction.fresh (s : Session) (db : Database) : Transaction :=
  ⟨s.id, db, 0, [], false⟩

namespace Store

/-- A store that can be read and on which no session is inside a transaction. -/
structure Idle (st : Store) : Prop where
  writer : st.writer = none
  readable : st.readable = true

variable {st : Store} {s : Session}

/-- The store with a transaction open. -/
def inside (st : Store) (t : Transaction) : Store :=
  { st with writer := some t }

theorem Idle.drop_writer (h : st.Idle) : { st with writer := none } = st := by
  rw [← h.writer]

theorem Idle.isActive (h : st.Idle) (s : Session) : st.isActive s = false := by
  simp [Store.isActive, own?, h.writer]

theorem Idle.begin (h : st.Idle) (s : Session) :
    st.begin s = (.ok (), st.inside (.fresh s st.committed)) := by
  simp [Store.begin, h.writer, h.readable, inside, Transaction.fresh]

/-- **A transaction can be opened on idle stores only.**  A refusal changes nothing. -/
theorem begin_of_not_idle (s : Session) (h : ¬ st.Idle) :
    ∃ fault, st.begin s = (.error fault, st) := by
  unfold Store.begin
  split
  · exact ⟨_, rfl⟩
  · rename_i hw
    split
    · rename_i hr
      exact absurd ⟨hw, hr⟩ h
    · exact ⟨_, rfl⟩

theorem Idle.seen (h : st.Idle) (s : Session) : st.seen s = st.committed := by
  simp [Store.seen, own?, h.writer]

/-- Reading an idle store is reading what is committed. -/
theorem Idle.readDefinitions {α : Type} (h : st.Idle) (s : Session)
    (query : Database → Except StoreFault α) :
    st.readDefinitions s query = query st.committed := by
  simp [Store.readDefinitions, refusal?, barrier?, other?, h.seen, h.writer, h.readable]

/-- Reading a table of an idle store is reading it in what is committed. -/
theorem Idle.read {α : Type} (h : st.Idle) (s : Session) (table : String)
    (query : Database → Except StoreFault α) : st.read s table query = query st.committed := by
  simp [Store.read, h.readDefinitions, readLock?, other?, h.writer]

/-! ## 3. Inside a transaction of one's own -/

section Inside

variable {t : Transaction}

theorem own?_inside (st : Store) (ht : t.owner = s.id) : (st.inside t).own? s = some t := by
  simp [own?, inside, ht]

theorem other?_inside (st : Store) (ht : t.owner = s.id) : (st.inside t).other? s = none := by
  simp [other?, inside, ht]

theorem isActive_inside (st : Store) (ht : t.owner = s.id) : (st.inside t).isActive s = true := by
  simp [Store.isActive, own?_inside st ht]

theorem refusal?_inside (hr : st.readable = true) (ht : t.owner = s.id) :
    (st.inside t).refusal? s = none := by
  have hread : (st.inside t).readable = true := hr
  simp only [refusal?, hread, if_true, barrier?, other?_inside st ht]

/-- The first statement of a transaction: what it leaves is told by its outcome on what is
committed, and where it ends the transaction the idle store is back. -/
theorem Idle.execute_fresh (h : st.Idle) (s : Session) (change : Change)
    (parameters : Parameters) :
    (st.inside (.fresh s st.committed)).execute s change parameters =
      match st.committed.check s.foreignKeys change with
      | .error fault => (.error fault, st.inside (.fresh s st.committed))
      | .ok t =>
        match st.committed.runOn t s.foreignKeys change parameters with
        | .done db changed key => (.ok ⟨changed, key⟩,
            st.inside (advance s (.fresh s st.committed) (target change) db))
        | .failed fault db => (.error fault,
            st.inside (advance s (.fresh s st.committed) (target change) db))
        | .ended fault => (.error fault, st) := by
  have howner : (Transaction.fresh s st.committed).owner = s.id := rfl
  unfold Store.execute
  rw [refusal?_inside h.readable howner, own?_inside st howner]
  dsimp only [executeInside, Transaction.fresh]
  cases st.committed.check s.foreignKeys change with
  | error fault => rfl
  | ok t =>
    dsimp only
    cases st.committed.runOn t s.foreignKeys change parameters with
    | done db changed key => rfl
    | failed fault db => rfl
    | ended fault => exact congrArg _ h.drop_writer

end Inside

/-! ## 4. Statements inside any transaction -/

/-- A statement inside a transaction commits nothing. -/
theorem committed_execute (h : st.isActive s = true) (change : Change) (parameters : Parameters) :
    (st.execute s change parameters).2.committed = st.committed := by
  obtain ⟨t, ht⟩ := Option.isSome_iff_exists.mp h
  unfold Store.execute
  rw [ht]
  split
  · rfl
  · dsimp only
    unfold executeInside
    split
    · rfl
    · split <;> rfl

/-- A statement inside a transaction that is done leaves what it makes of the transaction's
content. -/
theorem own?_execute {t : Transaction} {change : Change} {parameters : Parameters}
    {written : Written} (h : st.own? s = some t)
    (hdone : (st.execute s change parameters).1 = .ok written) :
    ((st.execute s change parameters).2.own? s).map Transaction.content =
      some (t.content.made s change parameters) := by
  have howner : t.owner = s.id := by simpa using (Option.filter_eq_some_iff.mp h).2
  unfold Store.execute at hdone ⊢
  cases hrefusal : st.refusal? s with
  | some fault =>
    rw [hrefusal] at hdone
    cases hdone
  | none =>
    simp only [hrefusal, h, executeInside, Database.made] at hdone ⊢
    cases hcheck : t.content.check s.foreignKeys change with
    | error fault =>
      rw [hcheck] at hdone
      cases hdone
    | ok table =>
      simp only [hcheck] at hdone ⊢
      cases hrun : t.content.runOn table s.foreignKeys change parameters with
      | failed fault db =>
        rw [hrun] at hdone
        cases hdone
      | ended fault =>
        rw [hrun] at hdone
        cases hdone
      | done after changed key =>
        have hown : (st.inside (advance s t (target change) after)).own? s =
            some (advance s t (target change) after) := own?_inside st howner
        exact congrArg (Option.map Transaction.content) hown

end Store

end EntityStore

import EntityStore.Proofs.Store.Transaction
import EntityStore.Repository
import EntityStore.Record
import Mathlib
/-!
# The transactions of a repository

Every operation of a repository that writes runs at most one statement, in a transaction of its
own.  This module follows such a transaction from its beginning to its end, for a session that is
outside any transaction:

* on a store that is not idle it is refused and changes nothing (`transact_of_not_idle`);
* on an idle store it does what `Database.perform` says of the statement, and leaves an idle store
  behind (`transact_statement`, `transact_statement_ok`, `transact_statement_error`).
-/

namespace EntityStore

variable {E α : Type}

/-! ## 1. The calls of a session -/

namespace Session

variable {s : Session} {c : Connection} {t : Transaction}

theorem begin_of_idle (h : c.store.Idle) :
    s.connection.begin c =
      (.ok (), { c with store := c.store.inside (.fresh s c.store.committed) }) := by
  simp only [connection, Connection.after, Session.begin, lift, h.begin]
  rfl

/-- Where the store refuses, everything stays as it is. -/
theorem begin_of_refused {fault : StoreFault} (h : c.store.begin s = (.error fault, c.store)) :
    s.connection.begin c = (.error (.store fault), c) := by
  simp only [connection, Connection.after, Session.begin, lift, h]
  rfl

/-- A session's own transaction is committed as it is, unless orphans are owed. -/
theorem commit_of_own? (h : c.store.own? s = some t) :
    s.connection.commit c =
      if 0 < t.owed then (.error (.store .foreignKey), c)
      else (.ok (), { c with
        store := { c.store with committed := t.content, writer := none } }) := by
  simp only [connection, Connection.after, Session.commit, lift, Store.commit, h]
  split <;> rfl

/-- It can always be rolled back. -/
theorem rollback_of_own? (h : c.store.own? s = some t) :
    s.connection.rollback c = (.ok (), { c with store := { c.store with writer := none } }) := by
  simp only [connection, Connection.after, Session.rollback, lift, Store.rollback, h]
  rfl

/-- Rolling back gives back the idle store in which the transaction was begun. -/
theorem rollback_inside {st : Store} (h : st.Idle) (ht : t.owner = s.id) (key : Int64) :
    s.connection.rollback ⟨st.inside t, key⟩ = (.ok (), ⟨st, key⟩) := by
  have hown : (⟨st.inside t, key⟩ : Connection).store.own? s = some t := Store.own?_inside st ht
  rw [rollback_of_own? hown]
  exact congrArg (fun st => (Except.ok (), (⟨st, key⟩ : Connection))) h.drop_writer

end Session

/-! ## 2. Ends of a transaction -/

namespace Executor

variable {s : Session} {st : Store}

theorem recover_of_inactive {σ : Type} {c : Control σ} {state : σ}
    (h : c.isActive state = false) (x : Executor) : recover c x state = (state, []) := by
  simp [recover, h]

theorem recover_of_settled {σ : Type} {x : Executor} (h : x.state ≠ .active) (c : Control σ)
    (state : σ) : recover c x state = (state, []) := by
  simp [recover, h]

/-- A unit of work that failed is undone: the idle store is back, whether the unit left its
transaction open or the store has ended it. -/
theorem finish_failed (h : st.Idle) {fault : RepositoryFault} {st₂ : Store} (key : Int64)
    (log : List Event) (hst : (∃ t, t.owner = s.id ∧ st₂ = st.inside t) ∨ st₂ = st) :
    (finish s.connection (⟨.error fault, ⟨st₂, key⟩, log⟩ : Reply Connection α)).2.result =
        .error fault ∧
      (finish s.connection (⟨.error fault, ⟨st₂, key⟩, log⟩ : Reply Connection α)).2.state =
        ⟨st, key⟩ := by
  rcases hst with ⟨t, ht, rfl⟩ | rfl
  · have hactive : s.connection.isActive ⟨st.inside t, key⟩ = true := Store.isActive_inside st ht
    simp [finish, undo, hactive, Session.rollback_inside h ht key]
  · have hactive : s.connection.isActive ⟨st₂, key⟩ = false := h.isActive s
    simp [finish, undo, hactive]

/-- A unit of work that is done is committed if no orphans are owed. -/
theorem finish_done (h : st.Idle) {t : Transaction} (ht : t.owner = s.id) (howed : t.owed = 0)
    (value : α) (key : Int64) (log : List Event) :
    (finish s.connection (⟨.ok value, ⟨st.inside t, key⟩, log⟩ : Reply Connection α)).2.result =
        .ok value ∧
      (finish s.connection (⟨.ok value, ⟨st.inside t, key⟩, log⟩ : Reply Connection α)).2.state =
        ⟨{ st with committed := t.content }, key⟩ := by
  have hown : (⟨st.inside t, key⟩ : Connection).store.own? s = some t := Store.own?_inside st ht
  have hcommit : s.connection.commit ⟨st.inside t, key⟩ =
      (.ok (), ⟨{ st with committed := t.content }, key⟩) := by
    rw [Session.commit_of_own? hown, if_neg (by omega)]
    simp [Store.inside, h.writer]
  simp [finish, hcommit]

/-- A unit of work that is done is undone all the same if orphans are owed. -/
theorem finish_owing (h : st.Idle) {t : Transaction} (ht : t.owner = s.id) (howed : 0 < t.owed)
    (value : α) (key : Int64) (log : List Event) :
    (finish s.connection (⟨.ok value, ⟨st.inside t, key⟩, log⟩ : Reply Connection α)).2.result =
        .error (.transaction .commit (.store .foreignKey)) ∧
      (finish s.connection (⟨.ok value, ⟨st.inside t, key⟩, log⟩ : Reply Connection α)).2.state =
        ⟨st, key⟩ := by
  have hactive : s.connection.isActive ⟨st.inside t, key⟩ = true := Store.isActive_inside st ht
  have hown : (⟨st.inside t, key⟩ : Connection).store.own? s = some t := Store.own?_inside st ht
  have hcommit : s.connection.commit ⟨st.inside t, key⟩ =
      (.error (.store .foreignKey), ⟨st.inside t, key⟩) := by
    rw [Session.commit_of_own? hown, if_pos howed]
  simp [finish, undo, hactive, Session.rollback_inside h ht key, hcommit]

end Executor

namespace Repository

variable {r : Repository E} {st : Store}

/-! ## 3. Whole transactions -/

@[simp] theorem result_report (a : Answer E α) (event : Except RepositoryFault α → Option Event) :
    (Answer.report a event).result = a.result := rfl

@[simp] theorem store_report (a : Answer E α) (event : Except RepositoryFault α → Option Event) :
    (Answer.report a event).store = a.store := rfl

@[simp] theorem repository_report (a : Answer E α)
    (event : Except RepositoryFault α → Option Event) :
    (Answer.report a event).repository = a.repository := rfl

@[simp] theorem metadata_leave (r : Repository E) (x : Executor) (key : Int64) :
    (r.leave x key).metadata = r.metadata := rfl

/-- Where there is nothing to recover, a transaction that the store refuses changes nothing. -/
theorem transact_of_refused
    (hrecover : Executor.recover r.session.connection r.executor ⟨st, r.session.lastKey⟩ =
      (⟨st, r.session.lastKey⟩, []))
    {fault : StoreFault} (h : st.begin r.session = (.error fault, st))
    (work : Work Connection α) :
    (r.transact st work).result = .error (.transaction .begin (.store fault)) ∧
      (r.transact st work).store = st := by
  have hbegin : r.session.connection.begin ⟨st, r.session.lastKey⟩ =
      (.error (.store fault), ⟨st, r.session.lastKey⟩) := Session.begin_of_refused h
  simp only [transact, Executor.run, hrecover, hbegin, and_self]

/-- A store that is not idle refuses the transaction, and nothing is changed. -/
theorem transact_of_not_idle (hs : st.isActive r.session = false) (h : ¬ st.Idle)
    (work : Work Connection α) :
    ∃ fault, (r.transact st work).result = .error (.transaction .begin fault) ∧
      (r.transact st work).store = st := by
  have hclosed : r.session.connection.isActive ⟨st, r.session.lastKey⟩ = false := hs
  obtain ⟨fault, hrefused⟩ := Store.begin_of_not_idle r.session h
  exact ⟨_, transact_of_refused (Executor.recover_of_inactive hclosed _) hrefused work⟩

/-- On an idle store the unit of work is run in a new transaction, and then brought to an end. -/
theorem transact_of_idle (r : Repository E) (h : st.Idle) (work : Work Connection α) :
    let begun : Connection := ⟨st.inside (.fresh r.session st.committed), r.session.lastKey⟩
    let done := Executor.finish r.session.connection (work begun)
    (r.transact st work).result = done.2.result ∧
      (r.transact st work).store = done.2.state.store ∧
      (r.transact st work).repository = r.leave done.1 done.2.state.lastKey := by
  intro begun done
  have hclosed : r.session.connection.isActive ⟨st, r.session.lastKey⟩ = false :=
    h.isActive r.session
  have hrec := Executor.recover_of_inactive hclosed r.executor
  have hbegin : r.session.connection.begin ⟨st, r.session.lastKey⟩ = (.ok (), begun) :=
    Session.begin_of_idle h
  simp [done, transact, Executor.run, hrec, hbegin]

/-- An operation of a session that is one statement; the result is made of the key that was
remembered before and of what was written. -/
def statement (s : Session) (change : Change) (parameters : Parameters)
    (result : Int64 → Store.Written → α) (c : Connection) : Except SessionFault α × Connection :=
  let (answer, st) := c.store.execute s change parameters
  ((answer.mapError .store).map (result c.lastKey),
    ⟨st, (c.store.addedKey? s change parameters answer).getD c.lastKey⟩)

section Statement

variable {operation : Operation} {change : Change} {parameters : Parameters}
  {result : Int64 → Store.Written → α}

theorem attempt_statement_error {fault : StoreFault} {st₁ st₂ : Store} (key : Int64)
    (h : st₁.execute r.session change parameters = (.error fault, st₂)) :
    r.attempt operation (statement r.session change parameters result) ⟨st₁, key⟩ =
      ⟨.error (.crud r.metadata.entity operation (.store fault)),
        ⟨st₂, (st₁.withdrawnKey? r.session change parameters).getD key⟩, []⟩ := by
  simp [attempt, statement, h, Except.mapError, Except.map, Store.addedKey?]

theorem attempt_statement_ok {written : Store.Written} {st₁ st₂ : Store} (key : Int64)
    (h : st₁.execute r.session change parameters = (.ok written, st₂)) :
    r.attempt operation (statement r.session change parameters result) ⟨st₁, key⟩ =
      ⟨.ok (result key written), ⟨st₂, written.key.getD key⟩, []⟩ := by
  simp [attempt, statement, h, Except.mapError, Except.map, Store.addedKey?]

/-- What a transaction of one statement comes to: its result, and the database that is committed
afterwards. -/
def statementOutcome (r : Repository E) (operation : Operation) (change : Change)
    (parameters : Parameters) (result : Store.Written → α) (db : Database) :
    Except RepositoryFault α × Database :=
  match db.check r.session.foreignKeys change with
  | .error fault => (.error (.crud r.metadata.entity operation (.store fault)), db)
  | .ok t =>
    match db.runOn t r.session.foreignKeys change parameters with
    | .failed fault _ => (.error (.crud r.metadata.entity operation (.store fault)), db)
    | .ended fault => (.error (.crud r.metadata.entity operation (.store fault)), db)
    | .done after changed key =>
      if 0 < Store.owedAfter r.session 0 db after then
        (.error (.transaction .commit (.store .foreignKey)), db)
      else (.ok (result ⟨changed, key⟩), after)

/-- The value that comes back is made of what was written. -/
theorem statementOutcome_map (r : Repository E) (operation : Operation) (change : Change)
    (parameters : Parameters) (result : Store.Written → α) (db : Database) :
    r.statementOutcome operation change parameters result db =
      ((r.statementOutcome operation change parameters id db).1.map result,
        (r.statementOutcome operation change parameters id db).2) := by
  unfold statementOutcome
  cases db.check r.session.foreignKeys change with
  | error fault => rfl
  | ok t =>
    dsimp only
    cases db.runOn t r.session.foreignKeys change parameters with
    | failed fault db' => rfl
    | ended fault => rfl
    | done after changed key =>
      dsimp only
      split <;> rfl

/-- **A transaction of one statement on an idle store.**  The store may have changed some rows
already when the statement fails, or have ended the transaction, or refuse the commit; none of it
is left behind. -/
theorem transact_statement (r : Repository E) (h : st.Idle) (operation : Operation)
    (change : Change) (parameters : Parameters) (result : Int64 → Store.Written → α) :
    let outcome := r.statementOutcome operation change parameters (result r.session.lastKey)
      st.committed
    let answer :=
      r.transact st (r.attempt operation (statement r.session change parameters result))
    answer.result = outcome.1 ∧ answer.store = { st with committed := outcome.2 } := by
  intro outcome answer
  have hexec := h.execute_fresh r.session change parameters
  obtain ⟨hresult, hstore, -⟩ := r.transact_of_idle h
    (r.attempt operation (statement r.session change parameters result))
  rw [show answer.result = _ from hresult, show answer.store = _ from hstore]
  -- What the executor makes of a connection says what becomes of its store.
  have hends : ∀ {done : Executor × Reply Connection α} {expected : Except RepositoryFault α}
      {left : Connection}, done.2.result = expected ∧ done.2.state = left →
        done.2.result = expected ∧ done.2.state.store = left.store := by
    rintro done expected left ⟨hdone, hleft⟩
    exact ⟨hdone, congrArg Connection.store hleft⟩
  dsimp only [outcome]
  unfold statementOutcome
  cases hc : st.committed.check r.session.foreignKeys change with
  | error fault =>
    simp only [hc] at hexec ⊢
    rw [attempt_statement_error _ hexec]
    exact hends (Executor.finish_failed h _ [] (.inl ⟨.fresh r.session st.committed, rfl, rfl⟩))
  | ok t =>
    simp only [hc] at hexec ⊢
    cases ho : st.committed.runOn t r.session.foreignKeys change parameters with
    | failed fault db =>
      simp only [ho] at hexec ⊢
      rw [attempt_statement_error _ hexec]
      exact hends (Executor.finish_failed h _ [] (.inl ⟨Store.advance r.session
        (.fresh r.session st.committed) (Store.target change) db, rfl, rfl⟩))
    | ended fault =>
      simp only [ho] at hexec ⊢
      rw [attempt_statement_error _ hexec]
      exact hends (Executor.finish_failed h _ [] (.inr rfl))
    | done after changed key =>
      simp only [ho] at hexec ⊢
      rw [attempt_statement_ok _ hexec]
      by_cases howed : 0 < Store.owedAfter r.session 0 st.committed after
      · rw [if_pos howed]
        exact hends (Executor.finish_owing (t := Store.advance r.session
          (.fresh r.session st.committed) (Store.target change) after) h rfl howed _ _ _)
      · rw [if_neg howed]
        exact hends (Executor.finish_done (t := Store.advance r.session
          (.fresh r.session st.committed) (Store.target change) after) h rfl
          (Nat.eq_zero_of_not_pos howed) _ _ _)

/-- A statement is committed if it can be performed, and nothing else is. -/
theorem statementOutcome_cases (r : Repository E) (operation : Operation) (change : Change)
    (parameters : Parameters) (result : Store.Written → α) (db : Database) :
    (∃ written after, db.perform r.session change parameters = .ok (written, after) ∧
        r.statementOutcome operation change parameters result db = (.ok (result written), after)) ∨
      ∃ fault fault', db.perform r.session change parameters = .error fault ∧
        r.statementOutcome operation change parameters result db = (.error fault', db) := by
  unfold Database.perform statementOutcome
  cases db.check r.session.foreignKeys change with
  | error fault => exact .inr ⟨_, _, rfl, rfl⟩
  | ok t =>
    dsimp only
    cases db.runOn t r.session.foreignKeys change parameters with
    | failed fault db' => exact .inr ⟨_, _, rfl, rfl⟩
    | ended fault => exact .inr ⟨_, _, rfl, rfl⟩
    | done after changed key =>
      dsimp only
      by_cases howed : 0 < Store.owedAfter r.session 0 db after
      · exact .inr ⟨_, _, if_pos howed, if_pos howed⟩
      · exact .inl ⟨_, _, if_neg howed, if_neg howed⟩

/-- **A statement that can be performed is committed.** -/
theorem transact_statement_ok (h : st.Idle) {written : Store.Written} {db : Database}
    (hp : st.committed.perform r.session change parameters = .ok (written, db)) :
    (r.transact st (r.attempt operation (statement r.session change parameters result))).result =
        .ok (result r.session.lastKey written) ∧
      (r.transact st (r.attempt operation (statement r.session change parameters result))).store =
        { st with committed := db } := by
  obtain ⟨hresult, hstore⟩ := r.transact_statement h operation change parameters result
  rcases r.statementOutcome_cases operation change parameters (result r.session.lastKey)
    st.committed with ⟨written', db', hp', houtcome⟩ | ⟨fault, fault', hp', -⟩
  · cases hp.symm.trans hp'
    rw [houtcome] at hresult hstore
    exact ⟨hresult, hstore⟩
  · cases hp.symm.trans hp'

/-- The session remembers the row that the statement has added, if it has added one. -/
theorem session_transact_statement (h : st.Idle) {written : Store.Written} {db : Database}
    (hp : st.committed.perform r.session change parameters = .ok (written, db)) :
    (r.transact st
        (r.attempt operation (statement r.session change parameters result))).repository.session =
      r.session.remember (written.key.getD r.session.lastKey) := by
  unfold Database.perform at hp
  split at hp
  · cases hp
  rename_i t hcheck
  split at hp
  · cases hp
  · cases hp
  rename_i after changed key hrun
  split at hp
  · cases hp
  rename_i howed
  cases hp
  have hexec := h.execute_fresh r.session change parameters
  simp only [hcheck, hrun] at hexec
  obtain ⟨-, -, hrepository⟩ := r.transact_of_idle h
    (r.attempt operation (statement r.session change parameters result))
  obtain ⟨-, hleft⟩ := Executor.finish_done (t := Store.advance r.session
    (.fresh r.session st.committed) (Store.target change) db) h rfl
    (Nat.eq_zero_of_not_pos howed) (result r.session.lastKey ⟨changed, key⟩)
    (key.getD r.session.lastKey) []
  rw [hrepository, attempt_statement_ok _ hexec, hleft]
  rfl

/-- **A statement that cannot be performed leaves nothing behind.** -/
theorem transact_statement_error (h : st.Idle) {fault : StoreFault}
    (hp : st.committed.perform r.session change parameters = .error fault) :
    ∃ fault', (r.transact st
        (r.attempt operation (statement r.session change parameters result))).result =
          .error fault' ∧
      (r.transact st
        (r.attempt operation (statement r.session change parameters result))).store = st := by
  obtain ⟨hresult, hstore⟩ := r.transact_statement h operation change parameters result
  rcases r.statementOutcome_cases operation change parameters (result r.session.lastKey)
    st.committed with ⟨written', db', hp', -⟩ | ⟨-, fault', -, houtcome⟩
  · cases hp.symm.trans hp'
  · rw [houtcome] at hresult hstore
    exact ⟨fault', hresult, hstore⟩

end Statement

/-- A unit of work that asks nothing of the store is done, and nothing is changed. -/
theorem transact_pure (r : Repository E) (h : st.Idle) (operation : Operation) (value : α) :
    (r.transact st (r.attempt operation fun c => (.ok value, c))).result = .ok value ∧
      (r.transact st (r.attempt operation fun c => (.ok value, c))).store = st := by
  obtain ⟨hresult, hstore, -⟩ := r.transact_of_idle h (r.attempt operation fun c => (.ok value, c))
  obtain ⟨hdone, hleft⟩ := Executor.finish_done (t := .fresh r.session st.committed) h rfl rfl
    value r.session.lastKey []
  exact ⟨hresult.trans hdone, hstore.trans (congrArg Connection.store hleft)⟩

/-! ## 4. The units of work of a repository -/

theorem execute_eq_statement (s : Session) (change : Change) (parameters : Parameters) :
    (fun c => s.execute c change parameters) =
      statement s change parameters fun _ written => written.changed := rfl

theorem remove_eq_statement (s : Session) (m : Metadata E) (identifier : Value) :
    s.remove m identifier = statement s (.delete m.sought) (Metadata.soughtValue identifier)
      fun _ written => written.changed := rfl

/-- What `persist` returns: the entity, with the key in it that is remembered then if the entity
came without an identifier. -/
def persisted (m : Metadata E) (entity : E) (before : Int64) (written : Store.Written) :
    E × SaveOutcome :=
  (if (m.identifierValue entity).isAbsentIdentifier then
      m.assignIdentifier entity (written.key.getD before)
    else entity, .persisted)

theorem persistWork_eq (r : Repository E) (entity : E) :
    r.persistWork entity = r.attempt .persist
      (statement r.session
        (r.metadata.insertion !(r.metadata.identifierValue entity).isAbsentIdentifier)
        (r.metadata.attributeValues entity !(r.metadata.identifierValue entity).isAbsentIdentifier)
        (persisted r.metadata entity)) := by
  unfold persistWork
  congr 1
  funext c
  simp only [Session.persist, Session.execute, statement]
  generalize c.store.execute r.session _ _ = executed
  obtain ⟨answer, after⟩ := executed
  cases answer with
  | error fault => rfl
  | ok written =>
    unfold persisted
    cases (r.metadata.identifierValue entity).isAbsentIdentifier <;> rfl

theorem mergeWork_of_none (r : Repository E) (entity : E)
    (h : r.metadata.replacement? = none) :
    r.mergeWork entity = r.attempt .merge fun c => (.ok (entity, .merged), c) := by
  simp [mergeWork, Session.merge, h, Except.map]

theorem mergeWork_of_some (r : Repository E) (entity : E) {change : Change}
    (h : r.metadata.replacement? = some change) :
    r.mergeWork entity = r.attempt .merge
      (statement r.session change (r.metadata.attributeValues entity true)
        fun _ _ => (entity, .merged)) := by
  unfold mergeWork
  congr 1
  funext c
  simp only [Session.merge, h, Session.execute, statement]
  cases (c.store.execute r.session change (r.metadata.attributeValues entity true)).1 <;> rfl

end Repository

/-! ## 5. Tags

A small type of entities, on which the statements of the theory can be read off: a tag has a code,
which identifies it, and a label, which is never missing and never shared. -/

namespace Tags

/-- The attributes of a tag. -/
def shape : RecordShape where
  name := "Tag"
  attributes := [.id "code" .text, (Attribute.new "label" .text).asNotNull.asUnique]
  accessors := [("code", 0), ("label", 1)]
  assigner := true
  typed := true

/-- The attributes with their columns and accessors. -/
def metadata : Metadata Record where
  entity := "Tag"
  table := "tag"
  attributes := [⟨.id "code" .text, "code", RecordShape.field 0⟩,
    ⟨(Attribute.new "label" .text).asNotNull.asUnique, "label", RecordShape.field 1⟩]
  identifier := ⟨.id "code" .text, "code", RecordShape.field 0⟩
  assigner := some (RecordShape.assign shape.attributes)

/-- The only session on a store in memory, on which references are enforced. -/
def session : Session :=
  ⟨0, "adhoc", .create, .own 0, true, 5000, 0⟩

/-- A repository of tags with some registered queries. -/
def repository (queries : Query.Registry) : Repository Record :=
  ⟨session, shape.entityType, metadata, queries, .new⟩

/-- A tag. -/
def tag (code label : String) : Record :=
  [.text code, .text label]

/-- A store with one table, of tags under the keys `1`, `2` and so on, and some guards. -/
def store (tags : List Record) (guards : List Guard) : Store where
  committed.tables :=
    [⟨metadata.tableDefinition, tags.mapIdx fun i tag => ⟨Int64.ofNat (i + 1), tag⟩,
      Int64.ofNat tags.length, []⟩]
  committed.views := []
  committed.guards := guards
  committed.sequenced := false
  committed.draws := []
  writer := none
  readable := true

end Tags

end EntityStore

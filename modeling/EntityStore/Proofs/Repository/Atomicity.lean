import EntityStore.Proofs.Executor.History
import EntityStore.Proofs.Repository.Transaction
/-!
# Writes are all or nothing

A call that writes looks something up first, outside any transaction, and then sends at most one
statement, in a transaction of its own.  It can fail at each of these points: in the look-up, when
the transaction is opened, half-way through the rows of the statement, because the store has ended
the transaction, and in the commit.

Main statement: `write_atomic`.  Wherever a call fails, the store is exactly as it was; where it
succeeds, what is committed is what its statement makes, as a whole, of what was committed before
(`Database.perform`).  In both cases the session is outside any transaction afterwards.

The units of work that write are statements (`persistWork_eq`, `mergeWork_of_some`,
`execute_eq_statement`, `remove_eq_statement`).  What is committed of them does not depend on the
control of transactions: it may also be one whose commit can fail and drop the transaction
(`committed_statement`).
-/

namespace EntityStore.Repository

variable {E α : Type}

/-! ## 1. Calls that write -/

/-- A call that writes. -/
inductive Write (E : Type) where
  | save (entity : E)
  | saveWithOutcome (entity : E)
  | deleteAll
  | deleteById (identifier : Value)
  | deleteBy (key : String) (arguments : List Value)

namespace Write

/-- The answer of a call of which only the success counts. -/
def forget (a : Answer E α) : Answer E Unit :=
  ⟨a.result.map fun _ => (), a.repository, a.store, a.log⟩

/-- Makes the call. -/
def run (r : Repository E) (st : Store) : Write E → Answer E Unit
  | .save entity => forget (r.save entity st)
  | .saveWithOutcome entity => forget (r.saveWithOutcome entity st)
  | .deleteAll => forget (r.deleteAll st)
  | .deleteById identifier => forget (r.deleteById identifier st)
  | .deleteBy key arguments => forget (r.deleteBy key arguments st)

/-- The statement of a save: the replacement of a known entity, if it has values to replace, and
the insertion of one that is not known. -/
def saving (m : Metadata E) (entity : E) (known : Bool) : Option (Change × Parameters) :=
  if known then m.replacement?.map fun change => (change, m.attributeValues entity true)
  else
    let withIdentifier := !(m.identifierValue entity).isAbsentIdentifier
    some (m.insertion withIdentifier, m.attributeValues entity withIdentifier)

/-- The statement that a call has to send, with its parameters, as far as one is needed; or the
fault of the look-up before it. -/
def statement? (r : Repository E) (st : Store) :
    Write E → Except RepositoryFault (Option (Change × Parameters))
  | .save entity => (r.isKnown entity st).map (saving r.metadata entity)
  | .saveWithOutcome entity => (r.isKnown entity st).map (saving r.metadata entity)
  | .deleteAll => .ok (some ((Query.Descriptor.unfiltered r.metadata .deleteAll).removal, []))
  | .deleteById identifier =>
    (r.findById identifier st).map (·.map fun entity =>
      (.delete r.metadata.sought, Metadata.soughtValue (r.metadata.identifierValue entity)))
  | .deleteBy key arguments =>
    (r.prepareQuery key .deleteFiltered arguments).map fun (descriptor, parameters) =>
      some (descriptor.removal, parameters)

end Write

/-! ## 2. What a transaction may do -/

/-- What a session sent to a store was performed and is committed. -/
def Committed (s : Session) (sent : Option (Change × Parameters)) (before after : Store) : Prop :=
  match sent with
  | none => after = before
  | some (change, parameters) => before.writer = none ∧ ∃ written db,
      before.committed.perform s change parameters = .ok (written, db) ∧
        after = { before with committed := db }

/-- The two ends of a call: it failed and the store is as before, or it is done and what it sent
is committed. -/
def AllOrNothing (s : Session) (sent : Except RepositoryFault (Option (Change × Parameters)))
    (before : Store) (result : Except RepositoryFault α) (after : Store) : Prop :=
  match result with
  | .error _ => after = before
  | .ok _ => ∃ statement, sent = .ok statement ∧ Committed s statement before after

variable {r : Repository E} {st : Store}

/-- Whether a call is all or nothing does not depend on the value that it returns. -/
theorem AllOrNothing.map {β : Type} {s : Session}
    {sent : Except RepositoryFault (Option (Change × Parameters))} {before after : Store}
    {result : Except RepositoryFault α} (h : AllOrNothing s sent before result after) (f : α → β) :
    AllOrNothing s sent before (result.map f) after := by
  cases result <;> exact h

/-- A transaction of one statement is all or nothing. -/
theorem allOrNothing_statement (hs : st.isActive r.session = false) (operation : Operation)
    (change : Change) (parameters : Parameters) (result : Int64 → Store.Written → α) :
    AllOrNothing r.session (.ok (some (change, parameters))) st
      (r.transact st
        (r.attempt operation (statement r.session change parameters result))).result
      (r.transact st
        (r.attempt operation (statement r.session change parameters result))).store := by
  by_cases h : st.Idle
  · cases hp : st.committed.perform r.session change parameters with
    | error fault =>
      obtain ⟨fault', hresult, hstore⟩ := transact_statement_error h hp
      rw [hresult]
      exact hstore
    | ok done =>
      obtain ⟨written, db⟩ := done
      obtain ⟨hresult, hstore⟩ := transact_statement_ok h hp
      rw [hresult]
      exact ⟨_, rfl, h.writer, written, db, hp, hstore⟩
  · obtain ⟨fault, hresult, hstore⟩ := transact_of_not_idle hs h _
    rw [hresult]
    exact hstore

/-- A transaction without a statement is all or nothing: it commits nothing. -/
theorem allOrNothing_pure (hs : st.isActive r.session = false) (operation : Operation)
    (value : α) :
    AllOrNothing r.session (.ok none) st
      (r.transact st (r.attempt operation fun c => (.ok value, c))).result
      (r.transact st (r.attempt operation fun c => (.ok value, c))).store := by
  by_cases h : st.Idle
  · obtain ⟨hresult, hstore⟩ := r.transact_pure h operation value
    rw [hresult]
    exact ⟨_, rfl, hstore⟩
  · obtain ⟨fault, hresult, hstore⟩ := transact_of_not_idle hs h _
    rw [hresult]
    exact hstore

/-! ## 3. The calls -/

/-- The second phase of a save, by whether the entity was found. -/
theorem allOrNothing_write (hs : st.isActive r.session = false) (known : Bool) (entity : E) :
    AllOrNothing r.session (.ok (Write.saving r.metadata entity known)) st
      (r.write known entity st).result (r.write known entity st).store := by
  simp only [write, result_report, store_report]
  cases known with
  | false =>
    simp only [Write.saving, Bool.false_eq_true, if_false, persistWork_eq]
    exact allOrNothing_statement hs _ _ _ _
  | true =>
    simp only [Write.saving, if_true]
    cases hm : r.metadata.replacement? with
    | none =>
      rw [mergeWork_of_none r entity hm]
      exact allOrNothing_pure hs _ _
    | some change =>
      rw [mergeWork_of_some r entity hm]
      exact allOrNothing_statement hs _ _ _ _

theorem allOrNothing_saveWithOutcome (hs : st.isActive r.session = false) (entity : E) :
    AllOrNothing r.session ((r.isKnown entity st).map (Write.saving r.metadata entity)) st
      (r.saveWithOutcome entity st).result (r.saveWithOutcome entity st).store := by
  unfold saveWithOutcome
  cases r.isKnown entity st with
  | error fault => rfl
  | ok known => exact allOrNothing_write hs known entity

/-- What is all or nothing leaves the session outside any transaction. -/
theorem AllOrNothing.isActive_after {s : Session}
    {sent : Except RepositoryFault (Option (Change × Parameters))} {before after : Store}
    {result : Except RepositoryFault α} (hs : before.isActive s = false)
    (h : AllOrNothing s sent before result after) : after.isActive s = false := by
  cases result with
  | error fault =>
    rw [show after = before from h]
    exact hs
  | ok value =>
    obtain ⟨statement, -, hcommitted⟩ := h
    cases statement with
    | none =>
      rw [show after = before from hcommitted]
      exact hs
    | some sent =>
      obtain ⟨hwriter, written, db, -, rfl⟩ := hcommitted
      simp [Store.isActive, Store.own?, hwriter]

theorem allOrNothing_run (hs : st.isActive r.session = false) (call : Write E) :
    AllOrNothing r.session (call.statement? r st) st (call.run r st).result
      (call.run r st).store := by
  cases call with
  | save entity => exact ((allOrNothing_saveWithOutcome hs entity).map _).map _
  | saveWithOutcome entity => exact (allOrNothing_saveWithOutcome hs entity).map _
  | deleteAll =>
    simp only [Write.run, Write.statement?, Write.forget, deleteAll, execute_eq_statement,
      result_report, store_report]
    exact ((allOrNothing_statement hs _ _ _ _).map _).map _
  | deleteById identifier =>
    simp only [Write.run, Write.statement?, Write.forget, deleteById]
    cases r.findById identifier st with
    | error fault => rfl
    | ok found =>
      cases found with
      | none => exact ⟨none, rfl, rfl⟩
      | some entity =>
        simp only [remove_eq_statement, result_report, store_report]
        exact ((allOrNothing_statement hs _ _ _ _).map _).map _
  | deleteBy key arguments =>
    simp only [Write.run, Write.statement?, Write.forget, deleteBy]
    cases r.prepareQuery key .deleteFiltered arguments with
    | error fault => rfl
    | ok prepared =>
      simp only [execute_eq_statement, result_report, store_report]
      exact (allOrNothing_statement hs _ _ _ _).map _

/-- **Writes are all or nothing.**  Let a session be outside any transaction, on any store and in
any state of its repository.  A call that fails leaves the whole store as it was, with the rows and
the last keys of every table; a call that succeeds has committed its statement as a whole.  The
session is outside any transaction again. -/
theorem write_atomic (r : Repository E) (st : Store) (hs : st.isActive r.session = false)
    (call : Write E) :
    (call.run r st).store.isActive r.session = false ∧
      AllOrNothing r.session (call.statement? r st) st (call.run r st).result
        (call.run r st).store :=
  ⟨(allOrNothing_run hs call).isActive_after hs, allOrNothing_run hs call⟩

/-- Two tags are to be deleted, and a guard lets the statement fail at the second when the first is
already gone.  The first is back afterwards. -/
theorem write_atomic_halfway :
    let st := Tags.store [Tags.tag "a" "x", Tags.tag "b" "y"]
      [⟨"keep", .delete, "tag", "label", "y", .fail, "kept"⟩]
    st.isActive Tags.session = false ∧
      (Write.deleteAll.run (Tags.repository .empty) st).result =
        .error (.crud "Tag" .deleteAll (.store (.raised "kept"))) ∧
      (Write.deleteAll.run (Tags.repository .empty) st).store = st := by
  intro st
  have hfault : (Write.deleteAll.run (Tags.repository .empty) st).result =
      .error (.crud "Tag" .deleteAll (.store (.raised "kept"))) := rfl
  have hatomic := (write_atomic (Tags.repository .empty) st rfl .deleteAll).2
  rw [hfault] at hatomic
  exact ⟨rfl, hfault, hatomic⟩

/-! ## 4. Other controls of transactions -/

/-- What a session sees of a store: the committed database, and that of its own transaction. -/
def shows (s : Session) (c : Connection) : Contents Database :=
  ⟨c.store.committed, (c.store.own? s).map Transaction.content⟩

/-- A session is a control of transactions. -/
theorem transactional_connection (s : Session) : s.connection.Transactional (shows s) where
  isActive c := by
    rw [shows, Option.isSome_map]
    rfl
  begin_active c content h := by
    obtain ⟨t, hown, -⟩ := Option.map_eq_some_iff.mp h
    have hbusy : ¬c.store.Idle := by
      intro hidle
      rw [Store.own?, hidle.writer] at hown
      cases hown
    obtain ⟨fault, hrefused⟩ := Store.begin_of_not_idle s hbusy
    exact ⟨_, congrArg Prod.fst (Session.begin_of_refused hrefused)⟩
  begin_ok c _ hok := by
    by_cases hidle : c.store.Idle
    · have hown : (c.store.inside (.fresh s c.store.committed)).own? s =
          some (.fresh s c.store.committed) := Store.own?_inside _ rfl
      simp only [Session.begin_of_idle hidle, shows, hown]
      rfl
    · obtain ⟨fault, hrefused⟩ := Store.begin_of_not_idle s hidle
      rw [Session.begin_of_refused hrefused] at hok
      cases hok
  begin_error c fault herr := by
    by_cases hidle : c.store.Idle
    · rw [Session.begin_of_idle hidle] at herr
      cases herr
    · obtain ⟨_, hrefused⟩ := Store.begin_of_not_idle s hidle
      rw [Session.begin_of_refused hrefused]
  commit_ok c content h hok := by
    obtain ⟨t, hown, rfl⟩ := Option.map_eq_some_iff.mp h
    rw [Session.commit_of_own? hown] at hok ⊢
    split at hok
    · cases hok
    · rename_i howed
      rw [if_neg howed]
      rfl
  commit_error c content fault h herr := by
    obtain ⟨t, hown, -⟩ := Option.map_eq_some_iff.mp h
    rw [Session.commit_of_own? hown] at herr ⊢
    split at herr
    · rename_i howed
      rw [if_pos howed]
      exact .inl rfl
    · cases herr
  rollback_ok c content h _ := by
    obtain ⟨t, hown, -⟩ := Option.map_eq_some_iff.mp h
    rw [Session.rollback_of_own? hown]
    rfl
  rollback_error c content fault h herr := by
    obtain ⟨t, hown, -⟩ := Option.map_eq_some_iff.mp h
    rw [Session.rollback_of_own? hown] at herr
    cases herr

/-- A unit of work of one statement only writes data. -/
theorem onlyData_statement (r : Repository E) (operation : Operation) (change : Change)
    (parameters : Parameters) (result : Int64 → Store.Written → α) :
    OnlyData (shows r.session)
      (r.attempt operation (statement r.session change parameters result))
      fun db => db.made r.session change parameters := by
  intro c content h
  obtain ⟨t, hown, rfl⟩ := Option.map_eq_some_iff.mp h
  have hactive : c.store.isActive r.session = true := Option.isSome_iff_exists.mpr ⟨t, hown⟩
  refine ⟨Store.committed_execute hactive change parameters, ?_⟩
  intro value hvalue
  cases hexecute : (c.store.execute r.session change parameters).1 with
  | error fault =>
    simp only [attempt, statement, hexecute] at hvalue
    cases hvalue
  | ok written => exact Store.own?_execute hown hexecute

/-- **One statement on any control of transactions.**  The calls of the control may fail, and a
commit that fails may drop the transaction or leave it open: what the statement makes of the
database is committed if the run is reported as done, and nothing otherwise. -/
theorem committed_statement {control : Control Connection}
    (hcontrol : control.Transactional (shows r.session)) (operation : Operation) (change : Change)
    (parameters : Parameters) (result : Int64 → Store.Written → α) (x : Executor)
    (c : Connection) :
    let done := (x.run control
      (r.attempt operation (statement r.session change parameters result)) c).2
    done.state.store.committed =
      Executor.settled (fun db => db.made r.session change parameters) done.result
        c.store.committed :=
  Executor.committed_run hcontrol (onlyData_statement r operation change parameters result) x c

/-- So it is in the transactions of a repository, whatever is open on the store before. -/
theorem committed_transact (r : Repository E) (st : Store) (operation : Operation)
    (change : Change) (parameters : Parameters) (result : Int64 → Store.Written → α) :
    let answer := r.transact st
      (r.attempt operation (statement r.session change parameters result))
    answer.store.committed =
      Executor.settled (fun db => db.made r.session change parameters) answer.result
        st.committed :=
  committed_statement (transactional_connection r.session) operation change parameters result
    r.executor ⟨st, r.session.lastKey⟩

end EntityStore.Repository

import EntityStore.Proofs.Repository.Atomicity
import EntityStore.Proofs.Query.Registration
/-!
# What holds of every repository

A repository is opened for a type of entities, and after that it changes in two ways only: queries
are registered, and calls that write leave a trace in its executor.  So these facts hold of every
repository, on whatever stores it is used (`Reachable.opened`):

* its metadata are those of its type;
* its executor has no transaction to recover, because a session can always roll back the
  transaction that it is inside;
* a query that was registered once is there for good (`Registered.find?`).
-/

namespace EntityStore

variable {E α : Type}

/-! ## 1. Executors -/

namespace Executor

variable {σ : Type} {c : Control σ}

/-- If no rollback of an open transaction fails, no transaction is left open. -/
theorem state_undo (hc : ∀ s, c.isActive s = true → (c.rollback s).1 = .ok ())
    (fault : RepositoryFault) (s : σ) : (undo c fault s).1.state ≠ .active := by
  unfold undo
  split
  · rename_i hactive
    have hroll := hc s hactive
    split
    · simp
    · rename_i h
      rw [h] at hroll
      cases hroll
  · simp

theorem state_run (hc : ∀ s, c.isActive s = true → (c.rollback s).1 = .ok ()) (x : Executor)
    (work : Work σ α) (s : σ) : (run c x work s).1.state ≠ .active := by
  unfold run
  dsimp only
  split
  · simp
  · unfold finish
    dsimp only
    split
    · exact state_undo hc _ _
    · split
      · simp
      · exact state_undo hc _ _

/-- A session can roll back any transaction that it is inside. -/
theorem rollback_connection (s : Session) (c : Connection) (h : s.connection.isActive c = true) :
    (s.connection.rollback c).1 = .ok () := by
  obtain ⟨t, ht⟩ := Option.isSome_iff_exists.mp (show (c.store.own? s).isSome = true from h)
  rw [Session.rollback_of_own? ht]

end Executor

namespace Repository

/-! ## 2. Steps -/

/-- A query is registered: under a key that is given, or under the name of a method. -/
inductive Registers (r : Repository E) :
    String → Query.Form → List String → Repository E → Prop
  | explicit {key : String} {form : Query.Form} {names : List String} {r' : Repository E}
      {log : List Event} :
      r.register key form names = .ok (r', log) → Registers r key form names r'
  | method {name : String} {parsed : Query.Method} {r' : Repository E} {log : List Event} :
      Query.Method.parse name = .ok parsed → r.registerMethod name = .ok (r', log) →
      Registers r name parsed.form parsed.attributes r'

/-- What a repository can go through: a registration, or a call that writes to any store. -/
inductive Step : Repository E → Repository E → Prop
  | register {r r' : Repository E} {key : String} {form : Query.Form} {names : List String} :
      Registers r key form names r' → Step r r'
  | write {r : Repository E} (call : Write E) (st : Store) : Step r (call.run r st).repository

/-- The repositories for a type of entities: one that was just opened, and all that come from it. -/
inductive Reachable (t : EntityType E) : Repository E → Prop
  | new {s : Session} {st : Store} {r : Repository E} :
      (Repository.new t s st).result = .ok r → Reachable t r
  | step {r r' : Repository E} : Reachable t r → Step r r' → Reachable t r'

/-- A query of a form that filters by some attributes was registered under a key at some time. -/
inductive Registered (t : EntityType E) (key : String) (form : Query.Form) (names : List String) :
    Repository E → Prop
  | now {r r' : Repository E} :
      Reachable t r → Registers r key form names r' → Registered t key form names r'
  | before {r r' : Repository E} :
      Registered t key form names r → Step r r' → Registered t key form names r'

/-! ## 3. What steps keep -/

/-- What is true of a repository for a type of entities. -/
structure Opened (t : EntityType E) (r : Repository E) : Prop where
  entityType : r.entityType = t
  metadata : r.metadata.Resolved t.schema
  executor : r.executor.state ≠ .active

/-- A registration adds the query that is built of the attributes. -/
theorem Registers.eq {r r' : Repository E} {key : String} {form : Query.Form}
    {names : List String} (h : Registers r key form names r') :
    ∃ d queries, Query.Descriptor.build r.metadata names form = .ok d ∧
      r.queries.insert key d = .ok queries ∧ r' = { r with queries } := by
  have hregister : ∃ log, r.register key form names = .ok (r', log) := by
    cases h with
    | explicit h => exact ⟨_, h⟩
    | method hparse h =>
      simp only [registerMethod, hparse] at h
      exact ⟨_, h⟩
  obtain ⟨log, hregister⟩ := hregister
  unfold register at hregister
  split at hregister
  · cases hregister
  rename_i d hbuild
  split at hregister
  · cases hregister
  rename_i queries hinsert
  cases hregister
  exact ⟨d, queries, hbuild, hinsert, rfl⟩

/-- A repository with a trace of a transaction in its executor and in what its session
remembers. -/
def Traced (r r' : Repository E) : Prop :=
  r' = r ∨ ∃ (x : Executor) (key : Int64), x.state ≠ .active ∧ r' = r.leave x key

theorem traced_transact (r : Repository E) (st : Store) (work : Work Connection α) :
    Traced r (r.transact st work).repository :=
  .inr ⟨_, _, Executor.state_run (Executor.rollback_connection r.session) r.executor work _, rfl⟩

/-- A call that writes runs at most one transaction. -/
theorem traced_run (r : Repository E) (st : Store) (call : Write E) :
    Traced r (call.run r st).repository := by
  have hsave : ∀ entity, Traced r (r.saveWithOutcome entity st).repository := by
    intro entity
    unfold saveWithOutcome
    split
    · exact .inl rfl
    · exact traced_transact r st _
  cases call with
  | save entity => exact hsave entity
  | saveWithOutcome entity => exact hsave entity
  | deleteAll => exact traced_transact r st _
  | deleteById identifier =>
    simp only [Write.run, Write.forget, deleteById]
    split
    · exact .inl rfl
    · exact .inl rfl
    · exact traced_transact r st _
  | deleteBy key arguments =>
    simp only [Write.run, Write.forget, deleteBy]
    split
    · exact .inl rfl
    · exact traced_transact r st _

theorem Opened.step {t : EntityType E} {r r' : Repository E} (h : Opened t r) (hstep : Step r r') :
    Opened t r' := by
  cases hstep with
  | register hreg =>
    obtain ⟨d, queries, -, -, rfl⟩ := hreg.eq
    exact ⟨h.entityType, h.metadata, h.executor⟩
  | write call st =>
    rcases traced_run r st call with hr | ⟨x, key, hx, hr⟩
    · rw [hr]
      exact h
    · rw [hr]
      exact ⟨h.entityType, h.metadata, hx⟩

theorem opened_new {t : EntityType E} {s : Session} {st : Store} {r : Repository E}
    (h : (Repository.new t s st).result = .ok r) : Opened t r := by
  unfold Repository.new at h
  split at h
  · cases h
  rename_i m hresolve
  dsimp only at h
  split at h
  · cases h
  cases h
  exact ⟨rfl, Metadata.resolved_of_resolve hresolve, by simp [Executor.new]⟩

/-- A repository that has the task of creating its table is opened by the alteration that does
it. -/
theorem alter_of_new {t : EntityType E} {s : Session} {st : Store} {r : Repository E}
    (hmode : s.schemaMode = .create) (h : (Repository.new t s st).result = .ok r) :
    st.alter s (.createTable r.metadata.tableDefinition true) =
      (.ok (), (Repository.new t s st).state) := by
  unfold Repository.new at h ⊢
  split at h
  · cases h
  rename_i m hresolve
  dsimp only
  simp only [Session.prepare, hmode, Session.alter, Session.lift] at h ⊢
  cases halter : st.alter s (.createTable m.tableDefinition true) with
  | mk answer after =>
    rw [halter] at h
    cases answer with
    | error fault => cases h
    | ok done =>
      cases h
      exact halter

/-- **Every repository has the metadata of its type and nothing to recover.** -/
theorem Reachable.opened {t : EntityType E} {r : Repository E} (h : Reachable t r) :
    Opened t r := by
  induction h with
  | new hnew => exact opened_new hnew
  | step _ hstep ih => exact ih.step hstep

theorem find?_step {r r' : Repository E} {key : String} {d : Query.Descriptor}
    (h : r.queries.find? key = some d) (hstep : Step r r') : r'.queries.find? key = some d := by
  cases hstep with
  | register hreg =>
    obtain ⟨e, queries, -, hinsert, rfl⟩ := hreg.eq
    exact (Query.Registry.insert_ok hinsert).2 key d h
  | write call st =>
    rcases traced_run r st call with hr | ⟨x, key, -, hr⟩
    · rw [hr]
      exact h
    · rw [hr]
      exact h

namespace Registered

variable {t : EntityType E} {key : String} {form : Query.Form} {names : List String}
  {r : Repository E}

theorem reachable (h : Registered t key form names r) : Reachable t r := by
  induction h with
  | now hr hreg => exact hr.step (.register hreg)
  | before _ hstep ih => exact ih.step hstep

theorem metadata_step {r r' : Repository E} (hstep : Step r r') : r'.metadata = r.metadata := by
  cases hstep with
  | register hreg =>
    obtain ⟨d, queries, -, -, rfl⟩ := hreg.eq
    rfl
  | write call st =>
    rcases traced_run r st call with hr | ⟨x, key, -, hr⟩
    · rw [hr]
    · rw [hr]
      rfl

/-- **A registered query is kept for good**: its attributes are different, and it has a condition
for each. -/
theorem find? (h : Registered t key form names r) :
    names.Nodup ∧ r.queries.find? key = some ⟨r.metadata.table, r.metadata.outputs,
      r.metadata.identifier.column, names.map Query.Descriptor.condition, form⟩ := by
  induction h with
  | now hr hreg =>
    obtain ⟨d, queries, hbuild, hinsert, rfl⟩ := hreg.eq
    obtain ⟨hnodup, rfl⟩ := Query.Descriptor.build_ok hr.opened.metadata hbuild
    exact ⟨hnodup, (Query.Registry.insert_ok hinsert).1⟩
  | before _ hstep ih =>
    refine ⟨ih.1, ?_⟩
    rw [metadata_step hstep]
    exact find?_step ih.2 hstep

end Registered

end Repository

end EntityStore

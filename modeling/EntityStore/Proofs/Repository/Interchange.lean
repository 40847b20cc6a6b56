import EntityStore.Proofs.Repository.StoredRows
/-!
# Repositories that may stand for each other

A repository carries a session, an executor and queries of its own.  On a store on which no
transaction is open, what an operation does to the store depends on none of them but on the queries
and on whether the session enforces references: who the session is matters to locks only, and an
executor matters that has something to recover.

So repositories that are alike in this (`Alike`) leave the same stores behind (`Alike.run`), and
they stay alike.  Their results are the same too, with one exception (`SameBut`).  A save that
leaves its key to the store returns the key that the session remembers.  That is the key of the row
that was added, if one was; if the table has passed the row over, it is one that the session had
before.
-/

namespace EntityStore

variable {E α : Type}

/-! ## 1. Stores without a transaction -/

namespace Store

variable {st : Store}

/-- Any session reads what is committed, if the store can be read. -/
theorem read_of_closed (h : st.writer = none) (s : Session) (table : String)
    (query : Database → Except StoreFault α) :
    st.read s table query =
      if st.readable then query st.committed else .error .notADatabase := by
  cases hr : st.readable with
  | true => rw [Idle.read ⟨h, hr⟩, if_pos rfl]
  | false => simp [Store.read, readDefinitions, refusal?, hr]

end Store

namespace Repository

variable {r r₁ r₂ : Repository E} {st : Store}

/-- A store that cannot be read refuses transactions to everybody alike. -/
theorem transact_unreadable (hx : r.executor.state ≠ .active) (hw : st.writer = none)
    (hr : st.readable = false) (work : Work Connection α) :
    (r.transact st work).result = .error (.transaction .begin (.store .notADatabase)) ∧
      (r.transact st work).store = st := by
  have hrefused : st.begin r.session = (.error .notADatabase, st) := by
    simp [Store.begin, hw, hr]
  exact transact_of_refused (Executor.recover_of_settled hx _ _) hrefused work

/-! ## 2. Answers that agree -/

/-- The same failure, or successes with related values. -/
inductive Agree (R : α → α → Prop) :
    Except RepositoryFault α → Except RepositoryFault α → Prop
  | error (fault : RepositoryFault) : Agree R (.error fault) (.error fault)
  | ok {x y : α} : R x y → Agree R (.ok x) (.ok y)

theorem Agree.refl {R : α → α → Prop} (hR : ∀ x, R x x) (result : Except RepositoryFault α) :
    Agree R result result := by
  cases result with
  | error fault => exact .error fault
  | ok x => exact .ok (hR x)

theorem Agree.map {β : Type} {R : α → α → Prop} {R' : β → β → Prop}
    {result₁ result₂ : Except RepositoryFault α} (h : Agree R result₁ result₂) {f : α → β}
    (hf : ∀ x y, R x y → R' (f x) (f y)) : Agree R' (result₁.map f) (result₂.map f) := by
  cases h with
  | error fault => exact .error fault
  | ok hxy => exact .ok (hf _ _ hxy)

theorem Agree.imp {R R' : α → α → Prop} {result₁ result₂ : Except RepositoryFault α}
    (h : Agree R result₁ result₂) (hR : ∀ x y, R x y → R' x y) : Agree R' result₁ result₂ := by
  cases h with
  | error fault => exact .error fault
  | ok hxy => exact .ok (hR _ _ hxy)

/-- Results agree in a relation of equal values only if they are the same. -/
theorem Agree.eq {R : α → α → Prop} {result₁ result₂ : Except RepositoryFault α}
    (h : Agree R result₁ result₂) (hR : ∀ x y, R x y → x = y) : result₁ = result₂ := by
  cases h with
  | error fault => rfl
  | ok hxy => rw [hR _ _ hxy]

/-- Results that agree, and the same store. -/
structure SameAnswer (R : α → α → Prop) (a₁ a₂ : Answer E α) : Prop where
  result : Agree R a₁.result a₂.result
  store : a₁.store = a₂.store

theorem SameAnswer.map {β : Type} {R : α → α → Prop} {R' : β → β → Prop} {a₁ a₂ : Answer E α}
    (h : SameAnswer R a₁ a₂) {f : α → β} (hf : ∀ x y, R x y → R' (f x) (f y)) :
    SameAnswer R' (⟨a₁.result.map f, a₁.repository, a₁.store, a₁.log⟩ : Answer E β)
      ⟨a₂.result.map f, a₂.repository, a₂.store, a₂.log⟩ :=
  ⟨h.result.map hf, h.store⟩

theorem SameAnswer.report {R : α → α → Prop} {a₁ a₂ : Answer E α} (h : SameAnswer R a₁ a₂)
    (event₁ event₂ : Except RepositoryFault α → Option Event) :
    SameAnswer R (Answer.report a₁ event₁) (Answer.report a₂ event₂) :=
  ⟨h.result, h.store⟩

/-- Answers that leave the store alone agree if their results are the same. -/
theorem SameAnswer.of_read {R : α → α → Prop} (hR : ∀ x, R x x)
    {result₁ result₂ : Except RepositoryFault α} (h : result₁ = result₂) (log₁ log₂ : List Event) :
    SameAnswer R (⟨result₁, r₁, st, log₁⟩ : Answer E α) ⟨result₂, r₂, st, log₂⟩ := by
  rw [h]
  exact ⟨.refl hR _, rfl⟩

/-- The same response; or two responses to a save of an entity without an identifier, in a table
that passes rows over, with different keys in the entity. -/
inductive SameBut (m : Metadata E) (db : Database) : Response E → Response E → Prop
  | same (response : Response E) : SameBut m db response response
  | passed {entity : E} (key₁ key₂ : Int64) : ¬m.StrictIn db → m.isNew entity = true →
      SameBut m db (.saved (m.assignIdentifier entity key₁) .persisted)
        (.saved (m.assignIdentifier entity key₂) .persisted)

/-- Where no row is passed over, the responses are the same. -/
theorem SameBut.eq_of_strict {m : Metadata E} {db : Database} {x y : Response E}
    (h : SameBut m db x y) (hstrict : m.StrictIn db) : x = y := by
  cases h with
  | same => rfl
  | passed key₁ key₂ hlax => exact absurd hstrict hlax

/-- Definitions do not change, so an earlier table passes rows over if a later one does. -/
theorem SameBut.earlier {m : Metadata E} {db after : Database} {x y : Response E}
    (h : SameBut m after x y) (hlater : db.Later after) : SameBut m db x y := by
  cases h with
  | same => exact .same _
  | passed key₁ key₂ hlax hnew =>
    exact .passed key₁ key₂ (fun hstrict => hlax (hstrict.later hlater)) hnew

/-- An insertion that is done returns one and the same entity, whatever was remembered before,
unless the row was passed over. -/
theorem sameBut_persisted {m : Metadata E} {db after : Database} {s : Session} {entity : E}
    {w : Bool} {written : Store.Written} {parameters : Parameters}
    (h : db.perform s (m.insertion w) parameters = .ok (written, after)) (key₁ key₂ : Int64) :
    SameBut m db (.saved (persisted m entity key₁ written).1 .persisted)
      (.saved (persisted m entity key₂ written).1 .persisted) := by
  obtain ⟨t, htable, happly⟩ := Database.perform_ok h
  rcases Database.apply_insert_cases happly with ⟨t', k, -, -, hkey⟩ | ⟨k, hskipped, -⟩
  · simp only [persisted, hkey, Option.getD_some]
    exact .same _
  · have hlax : ¬m.StrictIn db := fun hstrict =>
      (Database.insertRow_passed hskipped).2 (hstrict t htable)
    unfold persisted
    cases hnew : (m.identifierValue entity).isAbsentIdentifier with
    | false => exact .same _
    | true => exact .passed _ _ hlax hnew

/-! ## 3. Repositories that are alike -/

/-- Repositories of one type with the same queries, of which both or neither enforce references,
and which have nothing to recover. -/
structure Alike (r₁ r₂ : Repository E) : Prop where
  entityType : r₁.entityType = r₂.entityType
  metadata : r₁.metadata = r₂.metadata
  queries : r₁.queries = r₂.queries
  foreignKeys : r₁.session.foreignKeys = r₂.session.foreignKeys
  settled₁ : r₁.executor.state ≠ .active
  settled₂ : r₂.executor.state ≠ .active

namespace Alike

/-! ### Reading -/

theorem select (h : Alike r₁ r₂) (hw : st.writer = none) (operation : Operation)
    (selection : Selection) (parameters : Parameters) :
    r₁.select operation selection parameters st = r₂.select operation selection parameters st := by
  simp only [Repository.select, Session.queryRows, Store.read_of_closed hw, h.entityType,
    h.metadata]

theorem tally (h : Alike r₁ r₂) (hw : st.writer = none) (operation : Operation) (filter : Filter)
    (parameters : Parameters) :
    r₁.tally operation filter parameters st = r₂.tally operation filter parameters st := by
  simp only [Repository.tally, Session.count, Store.read_of_closed hw, h.metadata]

theorem findById (h : Alike r₁ r₂) (hw : st.writer = none) (identifier : Value) :
    r₁.findById identifier st = r₂.findById identifier st := by
  simp only [Repository.findById, Session.find, Session.queryRows, Store.read_of_closed hw,
    h.entityType, h.metadata]

theorem isKnown (h : Alike r₁ r₂) (hw : st.writer = none) (entity : E) :
    r₁.isKnown entity st = r₂.isKnown entity st := by
  simp only [Repository.isKnown, Session.contains, Store.read_of_closed hw, h.metadata]

theorem prepareQuery (h : Alike r₁ r₂) (key : String) (form : Query.Form)
    (arguments : List Value) :
    r₁.prepareQuery key form arguments = r₂.prepareQuery key form arguments := by
  simp only [Repository.prepareQuery, h.queries]

/-! ### Writing -/

theorem statementOutcome (h : Alike r₁ r₂) (operation : Operation) (change : Change)
    (parameters : Parameters) (result : Store.Written → α) (db : Database) :
    r₁.statementOutcome operation change parameters result db =
      r₂.statementOutcome operation change parameters result db := by
  simp only [Repository.statementOutcome, Store.owedAfter, h.metadata, h.foreignKeys]
  rfl

/-- On a store that cannot be read both are refused. -/
theorem transact_unreadable (h : Alike r₁ r₂) (hw : st.writer = none) (hr : st.readable = false)
    (R : α → α → Prop) (work₁ work₂ : Work Connection α) :
    SameAnswer R (r₁.transact st work₁) (r₂.transact st work₂) := by
  obtain ⟨hresult₁, hstore₁⟩ := Repository.transact_unreadable h.settled₁ hw hr work₁
  obtain ⟨hresult₂, hstore₂⟩ := Repository.transact_unreadable h.settled₂ hw hr work₂
  refine ⟨?_, hstore₁.trans hstore₂.symm⟩
  rw [hresult₁, hresult₂]
  exact .error _

/-- **A transaction of one statement** ends in the same way for both.  What comes back may depend on
what each session remembered. -/
theorem transact_statement (h : Alike r₁ r₂) (hw : st.writer = none) (operation : Operation)
    (change : Change) (parameters : Parameters) (result : Int64 → Store.Written → α)
    {R : α → α → Prop} (hR : ∀ written db,
      st.committed.perform r₁.session change parameters = .ok (written, db) →
        R (result r₁.session.lastKey written) (result r₂.session.lastKey written)) :
    SameAnswer R
      (r₁.transact st (r₁.attempt operation (statement r₁.session change parameters result)))
      (r₂.transact st (r₂.attempt operation (statement r₂.session change parameters result))) := by
  cases hr : st.readable with
  | false => exact h.transact_unreadable hw hr R _ _
  | true =>
    have hidle : st.Idle := ⟨hw, hr⟩
    obtain ⟨hresult₁, hstore₁⟩ :=
      r₁.transact_statement hidle operation change parameters result
    obtain ⟨hresult₂, hstore₂⟩ :=
      r₂.transact_statement hidle operation change parameters result
    rw [statementOutcome_map] at hresult₁ hstore₁ hresult₂ hstore₂
    rw [← h.statementOutcome] at hresult₂ hstore₂
    refine ⟨?_, hstore₁.trans hstore₂.symm⟩
    rw [hresult₁, hresult₂]
    rcases r₁.statementOutcome_cases operation change parameters id st.committed with
      ⟨written, db, hperform, houtcome⟩ | ⟨-, fault, -, houtcome⟩
    · rw [houtcome]
      exact .ok (hR written db hperform)
    · rw [houtcome]
      exact .error fault

/-- So does a transaction without a statement. -/
theorem transact_pure (h : Alike r₁ r₂) (hw : st.writer = none) (operation : Operation)
    {R : α → α → Prop} {value : α} (hR : R value value) :
    SameAnswer R (r₁.transact st (r₁.attempt operation fun c => (.ok value, c)))
      (r₂.transact st (r₂.attempt operation fun c => (.ok value, c))) := by
  cases hr : st.readable with
  | false => exact h.transact_unreadable hw hr R _ _
  | true =>
    have hidle : st.Idle := ⟨hw, hr⟩
    obtain ⟨hresult₁, hstore₁⟩ := r₁.transact_pure hidle operation value
    obtain ⟨hresult₂, hstore₂⟩ := r₂.transact_pure hidle operation value
    refine ⟨?_, hstore₁.trans hstore₂.symm⟩
    rw [hresult₁, hresult₂]
    exact .ok hR

/-- What comes out of a save, as a response. -/
def SameSave (m : Metadata E) (db : Database) (x y : E × SaveOutcome) : Prop :=
  SameBut m db (.saved x.1 x.2) (.saved y.1 y.2)

theorem SameSave.eq_of_strict {m : Metadata E} {db : Database} {x y : E × SaveOutcome}
    (h : SameSave m db x y) (hstrict : m.StrictIn db) : x = y := by
  injection SameBut.eq_of_strict h hstrict with hentity houtcome
  exact Prod.ext hentity houtcome

theorem write (h : Alike r₁ r₂) (hw : st.writer = none) (known : Bool) (entity : E) :
    SameAnswer (SameSave r₂.metadata st.committed) (r₁.write known entity st)
      (r₂.write known entity st) := by
  unfold Repository.write
  refine .report ?_ _ _
  cases known with
  | false =>
    simp only [Bool.false_eq_true, if_false, persistWork_eq, h.metadata]
    exact h.transact_statement hw _ _ _ _ fun _ _ hperform => sameBut_persisted hperform _ _
  | true =>
    simp only [if_true]
    cases hreplacement : r₂.metadata.replacement? with
    | none =>
      rw [mergeWork_of_none r₁ entity (by rw [h.metadata, hreplacement]),
        mergeWork_of_none r₂ entity hreplacement]
      exact h.transact_pure hw _ (.same _)
    | some change =>
      rw [mergeWork_of_some r₁ entity (by rw [h.metadata, hreplacement]),
        mergeWork_of_some r₂ entity hreplacement, h.metadata]
      exact h.transact_statement hw _ _ _ _ fun _ _ _ => .same _

theorem saveWithOutcome (h : Alike r₁ r₂) (hw : st.writer = none) (entity : E) :
    SameAnswer (SameSave r₂.metadata st.committed) (r₁.saveWithOutcome entity st)
      (r₂.saveWithOutcome entity st) := by
  unfold Repository.saveWithOutcome
  rw [h.isKnown hw]
  cases r₂.isKnown entity st with
  | error fault => exact ⟨.error fault, rfl⟩
  | ok known => exact h.write hw known entity

theorem deleteAll (h : Alike r₁ r₂) (hw : st.writer = none) :
    SameAnswer Eq (r₁.deleteAll st) (r₂.deleteAll st) := by
  unfold Repository.deleteAll
  refine SameAnswer.map (R := Eq) (.report ?_ _ _) fun _ _ _ => rfl
  rw [h.metadata]
  exact h.transact_statement hw _ _ _ (fun _ written => written.changed) fun _ _ _ => rfl

theorem deleteById (h : Alike r₁ r₂) (hw : st.writer = none) (identifier : Value) :
    SameAnswer Eq (r₁.deleteById identifier st) (r₂.deleteById identifier st) := by
  unfold Repository.deleteById
  rw [h.findById hw]
  cases r₂.findById identifier st with
  | error fault => exact ⟨.error fault, rfl⟩
  | ok found =>
    cases found with
    | none => exact ⟨.ok rfl, rfl⟩
    | some entity =>
      refine SameAnswer.map (R := Eq) (.report ?_ _ _) fun _ _ _ => rfl
      rw [h.metadata]
      exact h.transact_statement hw _ _ _ (fun _ written => written.changed) fun _ _ _ => rfl

theorem deleteBy (h : Alike r₁ r₂) (hw : st.writer = none) (key : String)
    (arguments : List Value) :
    SameAnswer Eq (r₁.deleteBy key arguments st) (r₂.deleteBy key arguments st) := by
  unfold Repository.deleteBy
  rw [h.prepareQuery]
  cases r₂.prepareQuery key .deleteFiltered arguments with
  | error fault => exact ⟨.error fault, rfl⟩
  | ok prepared =>
    refine .report ?_ _ _
    exact h.transact_statement hw _ _ _ (fun _ written => written.changed) fun _ _ _ => rfl

/-! ### Operations -/

/-- **An operation leaves the same store, and has the same result but for keys of rows that were
passed over**, whichever of two repositories that are alike makes it. -/
theorem run (h : Alike r₁ r₂) (hw : st.writer = none) (q : Request E) :
    SameAnswer (SameBut r₂.metadata st.committed) (q.run r₁ st) (q.run r₂ st) := by
  cases q with
  | findBy key arguments =>
    refine .of_read .same ?_ _ _
    simp only [Repository.findBy, h.prepareQuery]
    cases r₂.prepareQuery key .selectFiltered arguments with
    | error fault => rfl
    | ok prepared => simp only [h.select hw]
  | countBy key arguments =>
    refine .of_read .same ?_ _ _
    simp only [Repository.countBy, h.prepareQuery]
    cases r₂.prepareQuery key .countFiltered arguments with
    | error fault => rfl
    | ok prepared => simp only [h.tally hw]
  | deleteBy key arguments =>
    refine (h.deleteBy hw key arguments).map ?_
    rintro _ _ rfl
    exact .same _
  | basic call =>
    cases call with
    | save entity => exact (h.saveWithOutcome hw entity).map fun _ _ hsame => hsame
    | deleteById identifier =>
      refine (h.deleteById hw identifier).map ?_
      rintro _ _ rfl
      exact .same _
    | deleteAll =>
      refine (h.deleteAll hw).map ?_
      rintro _ _ rfl
      exact .same _
    | findById identifier =>
      refine .of_read .same ?_ _ _
      simp only [h.findById hw]
    | findAll =>
      refine .of_read .same ?_ _ _
      simp only [Repository.findAll, h.select hw, h.metadata]
    | count =>
      refine .of_read .same ?_ _ _
      simp only [Repository.count, h.tally hw, h.metadata]

end Alike

end Repository

end EntityStore

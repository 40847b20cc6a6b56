import EntityStore.Proofs.Repository.Queries
import EntityStore.Proofs.Repository.Columns
import EntityStore.Proofs.Store.Dedicated
/-!
# Repositories in use

A repository that created its table is used on a store that others use as well.  It is called and
has queries registered; meanwhile any session may open and end transactions, run statements on any
table, this one among them, and create tables of its own.  The repository's own session may do so,
too, and remembers the rows that it adds there.  `InUse` are the states that a repository and its
store go through.

In all of them the table of the repository, where there is one, is sound and has the definition that
the repository gave it, and no guard watches it (`InUse.kept`).
-/

namespace EntityStore

variable {E : Type} {t : EntityType E} {r : Repository E} {st : Store}

/-! ## 1. What a call leaves behind -/

/-- A statement that can be performed keeps what lasts. -/
theorem Store.Everywhere.perform {P : Database → Prop} (h : st.Everywhere P)
    (hP : Database.Lasting P) {s : Session} {change : Change} {parameters : Parameters}
    {written : Written} {after : Database}
    (hperform : st.committed.perform s change parameters = .ok (written, after)) :
    ({ st with committed := after } : Store).Everywhere P := by
  obtain ⟨table, htable, happly⟩ := Database.perform_ok hperform
  have hleft := hP st.committed table change parameters h.committed htable
  rw [happly] at hleft
  exact ⟨hleft, h.writer⟩

namespace Repository

/-- A call that writes runs at most one transaction. -/
theorem store_run (r : Repository E) (st : Store) (call : Write E) :
    (call.run r st).store = st ∨
      ∃ (α : Type) (work : Work Connection α),
        (call.run r st).store = (r.transact st work).store := by
  have hsave : ∀ entity, (r.saveWithOutcome entity st).store = st ∨
      ∃ (α : Type) (work : Work Connection α),
        (r.saveWithOutcome entity st).store = (r.transact st work).store := by
    intro entity
    unfold saveWithOutcome
    split
    · exact .inl rfl
    · exact .inr ⟨_, _, rfl⟩
  cases call with
  | save entity => exact hsave entity
  | saveWithOutcome entity => exact hsave entity
  | deleteAll => exact .inr ⟨_, _, rfl⟩
  | deleteById identifier =>
    simp only [Write.run, Write.forget, deleteById]
    split
    · exact .inl rfl
    · exact .inl rfl
    · exact .inr ⟨_, _, rfl⟩
  | deleteBy key arguments =>
    simp only [Write.run, Write.forget, deleteBy]
    split
    · exact .inl rfl
    · exact .inr ⟨_, _, rfl⟩

/-- A call leaves the store as it was, or with its statement performed on what was committed. -/
theorem Opened.store_run (h : Opened t r) (st : Store) (call : Write E) :
    (call.run r st).store = st ∨ st.Idle ∧ ∃ change parameters written db,
      call.statement? r st = .ok (some (change, parameters)) ∧
        st.committed.perform r.session change parameters = .ok (written, db) ∧
        (call.run r st).store = { st with committed := db } := by
  by_cases hidle : st.Idle
  · have hatomic := allOrNothing_run (hidle.isActive r.session) call
    cases hresult : (call.run r st).result with
    | error fault =>
      rw [hresult] at hatomic
      exact .inl hatomic
    | ok value =>
      rw [hresult] at hatomic
      obtain ⟨sent, hsent, hcommitted⟩ := hatomic
      cases sent with
      | none => exact .inl hcommitted
      | some sent =>
        obtain ⟨-, written, db, hperform, hstore⟩ := hcommitted
        exact .inr ⟨hidle, _, _, written, db, hsent, hperform, hstore⟩
  · rcases Repository.store_run r st call with hstore | ⟨α, work, hstore⟩
    · exact .inl hstore
    · obtain ⟨fault, -, hkept⟩ := transact_refused h.executor hidle work
      exact .inl (hstore.trans hkept)

/-- A call keeps what lasts. -/
theorem Opened.everywhere_run (h : Opened t r) {P : Database → Prop} (hP : Database.Lasting P)
    (hst : st.Everywhere P) (call : Write E) : (call.run r st).store.Everywhere P := by
  rcases h.store_run st call with hstore | ⟨-, _, _, _, _, -, hperform, hstore⟩
  · rw [hstore]
    exact hst
  · rw [hstore]
    exact hst.perform hP hperform

/-! ## 2. Saves that succeed -/

section Saved

variable {entity saved : E} {outcome : SaveOutcome}

/-- A save of an unknown entity that succeeds has performed its insertion. -/
theorem Opened.write_unknown_ok (h : Opened t r)
    (hsaved : (r.write false entity st).result = .ok (saved, outcome)) :
    outcome = .persisted ∧ st.Idle ∧ ∃ written db,
      st.committed.perform r.session
          (r.metadata.insertion !(r.metadata.identifierValue entity).isAbsentIdentifier)
          (r.metadata.attributeValues entity
            !(r.metadata.identifierValue entity).isAbsentIdentifier) = .ok (written, db) ∧
        saved = (persisted r.metadata entity r.session.lastKey written).1 ∧
        (r.write false entity st).store = { st with committed := db } := by
  simp only [write, result_report, store_report, Bool.false_eq_true, if_false,
    persistWork_eq] at hsaved ⊢
  obtain ⟨hidle, written, db, hperform, hpersisted, hstore⟩ :=
    transact_statement_done h.executor hsaved
  obtain ⟨hsaved', houtcome⟩ := Prod.mk.inj hpersisted
  exact ⟨houtcome, hidle, written, db, hperform, hsaved', hstore⟩

/-- A save of a known entity that succeeds has performed its replacement, if there are values to
replace. -/
theorem Opened.write_known_ok (h : Opened t r)
    (hsaved : (r.write true entity st).result = .ok (saved, outcome)) :
    saved = entity ∧ outcome = .merged ∧ st.Idle ∧
      (r.metadata.replacement? = none ∧ (r.write true entity st).store = st ∨
        ∃ change written db, r.metadata.replacement? = some change ∧
          st.committed.perform r.session change (r.metadata.attributeValues entity true) =
            .ok (written, db) ∧
          (r.write true entity st).store = { st with committed := db }) := by
  simp only [write, result_report, store_report, if_true] at hsaved ⊢
  cases hreplacement : r.metadata.replacement? with
  | none =>
    rw [mergeWork_of_none r entity hreplacement] at hsaved ⊢
    by_cases hidle : st.Idle
    · obtain ⟨hresult, hstore⟩ := r.transact_pure hidle .merge (entity, SaveOutcome.merged)
      rw [hresult] at hsaved
      cases hsaved
      exact ⟨rfl, rfl, hidle, .inl ⟨rfl, hstore⟩⟩
    · obtain ⟨fault, hresult, -⟩ := transact_refused h.executor hidle
        (r.attempt .merge fun st => (.ok (entity, SaveOutcome.merged), st))
      rw [hresult] at hsaved
      cases hsaved
  | some change =>
    rw [mergeWork_of_some r entity hreplacement] at hsaved ⊢
    obtain ⟨hidle, written, db, hperform, hmerged, hstore⟩ :=
      transact_statement_done h.executor hsaved
    obtain ⟨rfl, rfl⟩ := Prod.mk.inj hmerged
    exact ⟨rfl, rfl, hidle, .inr ⟨change, written, db, rfl, hperform, hstore⟩⟩

end Saved

/-! ## 3. Runs -/

/-- The states of a repository and its store from when the repository created its table on, under a
name that no table and no guard had. -/
inductive InUse (t : EntityType E) : Repository E → Store → Prop
  | opened {s : Session} {st : Store} {r : Repository E} :
      s.schemaMode = .create → st.Reachable →
      st.Everywhere (Database.Vacant (Name.storage t.schema.name)) →
      (Repository.new t s st).result = .ok r → InUse t r (Repository.new t s st).state
  | write {r : Repository E} {st : Store} (call : Write E) :
      InUse t r st → InUse t (call.run r st).repository (call.run r st).store
  | register {r r' : Repository E} {st : Store} {key : String} {form : Query.Form}
      {names : List String} : InUse t r st → Registers r key form names r' → InUse t r' st
  | begin {r : Repository E} {st : Store} (s : Session) :
      InUse t r st → InUse t r (st.begin s).2
  | commit {r : Repository E} {st : Store} (s : Session) :
      InUse t r st → InUse t r (st.commit s).2
  | rollback {r : Repository E} {st : Store} (s : Session) :
      InUse t r st → InUse t r (st.rollback s).2
  | execute {r : Repository E} {st : Store} (s : Session) (change : Change)
      (parameters : Parameters) : InUse t r st → InUse t r (st.execute s change parameters).2
  | remember {r : Repository E} {st : Store} (key : Int64) :
      InUse t r st → InUse t (r.leave r.executor key) st
  | create {r : Repository E} {st : Store} (s : Session) (definition : TableDefinition)
      (unlessTaken : Bool) : OneKey definition.columns →
      (Name.same definition.name r.metadata.table = true →
        definition = r.metadata.tableDefinition) →
      InUse t r st → InUse t r (st.alter s (.createTable definition unlessTaken)).2

/-- What is true of a repository in use and its store. -/
structure Kept (t : EntityType E) (r : Repository E) (st : Store) : Prop where
  opened : Opened t r
  sound : st.Everywhere Database.Sound
  dedicated : st.Everywhere (Database.Dedicated r.metadata.tableDefinition)

namespace Kept

variable {table : Table}

theorem definition (h : Kept t r st) (htable : st.committed.table? r.metadata.table = some table) :
    table.definition = r.metadata.tableDefinition :=
  (h.dedicated.committed.table? htable).1

theorem strict (h : Kept t r st) (htable : st.committed.table? r.metadata.table = some table) :
    table.definition.Strict :=
  h.definition htable ▸ r.metadata.strict_tableDefinition

theorem sound_table (h : Kept t r st)
    (htable : st.committed.table? r.metadata.table = some table) : table.Sound :=
  h.sound.committed.table? htable

theorem lastKey_nonneg (h : Kept t r st)
    (htable : st.committed.table? r.metadata.table = some table) : 0 ≤ table.lastKey.toInt :=
  (h.dedicated.committed.table? htable).2

/-- Keys are never used again if the identifiers are integers that the store generates. -/
theorem isAutoincrement (h : Kept t r st) (hkind : r.metadata.identifier.kind = .integer)
    (htable : st.committed.table? r.metadata.table = some table) :
    table.isAutoincrement = r.metadata.identifier.generated := by
  rw [h.opened.metadata.isAutoincrement (h.definition htable), decide_eq_true hkind, Bool.and_true]

end Kept

theorem kept_new {s : Session} (hmode : s.schemaMode = .create) (hst : st.Reachable)
    (hvacant : st.Everywhere (Database.Vacant (Name.storage t.schema.name)))
    (hnew : (Repository.new t s st).result = .ok r) :
    Kept t r (Repository.new t s st).state := by
  have hopened := opened_new hnew
  have hname : Name.storage t.schema.name = r.metadata.tableDefinition.name :=
    hopened.metadata.table.symm
  rw [hname] at hvacant
  have hdedicated : st.Everywhere (Database.Dedicated r.metadata.tableDefinition) :=
    ⟨hvacant.committed.dedicated, fun w hw => (hvacant.writer w hw).dedicated⟩
  have hstate : (Repository.new t s st).state =
      (st.alter s (.createTable r.metadata.tableDefinition true)).2 :=
    (congrArg Prod.snd (alter_of_new hmode hnew)).symm
  have hdefinable : (Database.Alteration.createTable r.metadata.tableDefinition true).Definable :=
    hopened.metadata.oneKey
  rw [hstate]
  exact ⟨hopened, Store.sound_iff.mp (hst.sound.alter s hdefinable),
    hdedicated.alter s fun _ _ hdb hdone => hdb.createTable (fun _ => rfl) hdone⟩

theorem Kept.write (h : Kept t r st) (call : Write E) :
    Kept t (call.run r st).repository (call.run r st).store := by
  have hopened := h.opened.step (.write call st)
  have hmetadata : (call.run r st).repository.metadata = r.metadata := by
    rcases traced_run r st call with hr | ⟨x, key, -, hr⟩ <;> simp [hr]
  refine ⟨hopened, h.opened.everywhere_run Database.lasting_sound h.sound call, ?_⟩
  rw [hmetadata]
  exact h.opened.everywhere_run (Database.lasting_dedicated _) h.dedicated call

/-- **The table of a repository in use is as the repository made it**, apart from its rows. -/
theorem InUse.kept (h : InUse t r st) : Kept t r st := by
  induction h with
  | opened hmode hst hvacant hnew => exact kept_new hmode hst hvacant hnew
  | write call _ ih => exact ih.write call
  | register _ hreg ih =>
    have hopened := ih.opened.step (.register hreg)
    obtain ⟨d, queries, -, -, rfl⟩ := hreg.eq
    exact ⟨hopened, ih.sound, ih.dedicated⟩
  | begin s _ ih => exact ⟨ih.opened, ih.sound.begin s, ih.dedicated.begin s⟩
  | commit s _ ih => exact ⟨ih.opened, ih.sound.commit s, ih.dedicated.commit s⟩
  | rollback s _ ih => exact ⟨ih.opened, ih.sound.rollback s, ih.dedicated.rollback s⟩
  | execute s change parameters _ ih =>
    exact ⟨ih.opened, ih.sound.execute Database.lasting_sound s change parameters,
      ih.dedicated.execute (Database.lasting_dedicated _) s change parameters⟩
  | remember key _ ih =>
    have hopened := ih.opened
    exact ⟨⟨hopened.entityType, hopened.metadata, hopened.executor⟩, ih.sound, ih.dedicated⟩
  | create s definition unlessTaken hone hname _ ih =>
    have hdefinable : (Database.Alteration.createTable definition unlessTaken).Definable := hone
    exact ⟨ih.opened, ih.sound.alter s fun _ _ hdb hdone => hdb.alter hdefinable hdone,
      ih.dedicated.alter s fun _ _ hdb hdone => hdb.createTable hname hdone⟩

end Repository

end EntityStore

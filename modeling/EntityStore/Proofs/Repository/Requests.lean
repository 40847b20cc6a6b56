import EntityStore.Proofs.Repository.EntityMap
import EntityStore.Proofs.Repository.InUse
/-!
# Complete operations

All operations of a repository as data: those of `Call`, and the ones that run registered queries.
Each is complete in itself: it is made outside any transaction, opens one if it has to, and ends it.

An operation leaves the parts of the repository alone that it was opened with
(`Opened.repository_request`).  It leaves the store as it was, or with one statement performed on
what was committed (`Opened.store_request`), so that whatever lasts is kept by whole sequences of
operations (`Opened.runAll`).
-/

namespace EntityStore

variable {E : Type} {t : EntityType E} {r : Repository E} {st : Store}

/-! ## 1. Operations -/

/-- A complete operation of a repository. -/
inductive Request (E : Type) where
  | basic (call : Call E)
  | findBy (key : String) (arguments : List Value)
  | countBy (key : String) (arguments : List Value)
  | deleteBy (key : String) (arguments : List Value)

namespace Request

/-- Makes the operation. -/
def run (r : Repository E) (st : Store) : Request E → Answer E (Response E)
  | .basic call => call.run r st
  | .findBy key arguments => ⟨(r.findBy key arguments st).map .listed, r, st, []⟩
  | .countBy key arguments => ⟨(r.countBy key arguments st).map .counted, r, st, []⟩
  | .deleteBy key arguments =>
    let a := r.deleteBy key arguments st
    ⟨a.result.map .counted, a.repository, a.store, a.log⟩

/-- Makes operations one after another: their results, and the repository and the store after the
last. -/
def runAll (r : Repository E) (st : Store) :
    List (Request E) → List (Except RepositoryFault (Response E)) × Repository E × Store
  | [] => ([], r, st)
  | q :: rest =>
    let a := q.run r st
    let (results, last, after) := runAll a.repository a.store rest
    (a.result :: results, last, after)

/-- Whether an operation is a removal. -/
def removes : Request E → Bool
  | .basic (.deleteById _) => true
  | .basic .deleteAll => true
  | .deleteBy _ _ => true
  | _ => false

/-- An operation that writes leaves behind what its call does, any other what was there before. -/
theorem left_behind (r : Repository E) (st : Store) (q : Request E) :
    (q.run r st).repository = r ∧ (q.run r st).store = st ∨
      ∃ call : Repository.Write E, (q.run r st).repository = (call.run r st).repository ∧
        (q.run r st).store = (call.run r st).store := by
  cases q with
  | basic call =>
    cases call with
    | save entity => exact .inr ⟨.saveWithOutcome entity, rfl, rfl⟩
    | findById identifier => exact .inl ⟨rfl, rfl⟩
    | findAll => exact .inl ⟨rfl, rfl⟩
    | count => exact .inl ⟨rfl, rfl⟩
    | deleteById identifier => exact .inr ⟨.deleteById identifier, rfl, rfl⟩
    | deleteAll => exact .inr ⟨.deleteAll, rfl, rfl⟩
  | findBy key arguments => exact .inl ⟨rfl, rfl⟩
  | countBy key arguments => exact .inl ⟨rfl, rfl⟩
  | deleteBy key arguments => exact .inr ⟨.deleteBy key arguments, rfl, rfl⟩

end Request

/-! ## 2. What an operation leaves behind -/

/-- The statements that the operations on a type of entities send. -/
def Metadata.Sends (m : Metadata E) (change : Change) : Prop :=
  (∃ withIdentifier, change = m.insertion withIdentifier) ∨ m.replacement? = some change ∨
    ∃ filter, change = .delete filter

namespace Repository

/-- A result that is mapped to a success was one. -/
theorem exists_of_map_eq_ok {ε α β : Type} {result : Except ε α} {f : α → β} {y : β}
    (h : result.map f = .ok y) : ∃ x, result = .ok x ∧ f x = y := by
  cases result with
  | error fault => cases h
  | ok x => exact ⟨x, rfl, Except.ok.inj h⟩

theorem Write.sends {call : Write E} {change : Change} {parameters : Parameters}
    (h : call.statement? r st = .ok (some (change, parameters))) : r.metadata.Sends change := by
  have hsave : ∀ entity, (r.isKnown entity st).map (saving r.metadata entity) =
      .ok (some (change, parameters)) → r.metadata.Sends change := by
    intro entity hsent
    obtain ⟨known, -, hsaving⟩ := exists_of_map_eq_ok hsent
    cases known with
    | false =>
      cases hsaving
      exact .inl ⟨_, rfl⟩
    | true =>
      obtain ⟨found, hreplacement, heq⟩ := Option.map_eq_some_iff.mp hsaving
      cases heq
      exact .inr (.inl hreplacement)
  cases call with
  | save entity => exact hsave entity h
  | saveWithOutcome entity => exact hsave entity h
  | deleteAll =>
    cases h
    exact .inr (.inr ⟨_, rfl⟩)
  | deleteById identifier =>
    obtain ⟨found, -, hsent⟩ := exists_of_map_eq_ok h
    obtain ⟨entity, -, heq⟩ := Option.map_eq_some_iff.mp hsent
    cases heq
    exact .inr (.inr ⟨_, rfl⟩)
  | deleteBy key arguments =>
    obtain ⟨prepared, -, hsent⟩ := exists_of_map_eq_ok h
    cases hsent
    exact .inr (.inr ⟨_, rfl⟩)

/-- Of a repository an operation changes at most the executor, which has nothing to recover, and
the key that the session remembers. -/
theorem Opened.repository_request (h : Opened t r) (q : Request E) (st : Store) :
    ∃ (x : Executor) (key : Int64), x.state ≠ .active ∧
      (q.run r st).repository = r.leave x key := by
  rcases q.left_behind r st with ⟨hrepository, -⟩ | ⟨call, hrepository, -⟩
  · exact ⟨r.executor, r.session.lastKey, h.executor, hrepository⟩
  · rcases traced_run r st call with hsame | ⟨x, key, hx, htraced⟩
    · exact ⟨r.executor, r.session.lastKey, h.executor, hrepository.trans hsame⟩
    · exact ⟨x, key, hx, hrepository.trans htraced⟩

theorem Opened.request (h : Opened t r) (q : Request E) (st : Store) :
    Opened t (q.run r st).repository := by
  obtain ⟨x, key, hx, hrepository⟩ := h.repository_request q st
  rw [hrepository]
  exact ⟨h.entityType, h.metadata, hx⟩

/-- An operation leaves the store as it was, or with one statement performed on what was
committed. -/
theorem Opened.store_request (h : Opened t r) (q : Request E) (st : Store) :
    (q.run r st).store = st ∨ st.Idle ∧ ∃ change parameters written db,
      r.metadata.Sends change ∧
        st.committed.perform r.session change parameters = .ok (written, db) ∧
        (q.run r st).store = { st with committed := db } := by
  rcases q.left_behind r st with ⟨-, hstore⟩ | ⟨call, -, hstore⟩
  · exact .inl hstore
  · rw [hstore]
    rcases h.store_run st call with hsame | ⟨hidle, _, _, written, db, hsent, hperform, hdone⟩
    · exact .inl hsame
    · exact .inr ⟨hidle, _, _, written, db, Write.sends hsent, hperform, hdone⟩

/-- An operation leaves no transaction open, and ends nobody else's. -/
theorem Opened.writer_request (h : Opened t r) (q : Request E) (st : Store) :
    (q.run r st).store.writer = st.writer := by
  rcases h.store_request q st with hstore | ⟨-, _, _, _, _, -, -, hstore⟩ <;> rw [hstore]

/-- An operation leaves a store idle exactly if it was. -/
theorem Opened.idle_request (h : Opened t r) (q : Request E) (st : Store) :
    (q.run r st).store.Idle ↔ st.Idle := by
  rcases h.store_request q st with hstore | ⟨hidle, _, _, _, _, -, -, hstore⟩
  · rw [hstore]
  · rw [hstore]
    exact ⟨fun _ => hidle, fun _ => ⟨hidle.writer, hidle.readable⟩⟩

/-- An operation keeps what lasts. -/
theorem Opened.everywhere_request (h : Opened t r) {P : Database → Prop}
    (hP : Database.Lasting P) (hst : st.Everywhere P) (q : Request E) :
    (q.run r st).store.Everywhere P := by
  rcases h.store_request q st with hstore | ⟨-, _, _, _, _, -, hperform, hstore⟩
  · rw [hstore]
    exact hst
  · rw [hstore]
    exact hst.perform hP hperform

theorem Opened.sound_request (h : Opened t r) (hst : st.Sound) (q : Request E) :
    (q.run r st).store.Sound :=
  Store.sound_iff.mpr (h.everywhere_request Database.lasting_sound (Store.sound_iff.mp hst) q)

/-- An operation leaves a later database. -/
theorem Opened.later_request (h : Opened t r) (q : Request E) (st : Store) :
    st.committed.Later (q.run r st).store.committed := by
  rcases h.store_request q st with hstore | ⟨-, _, _, _, _, -, hperform, hstore⟩
  · rw [hstore]
    exact .refl _
  · rw [hstore]
    exact Database.later_perform hperform

/-! ## 3. Sequences of operations -/

/-- **What every operation of a sequence keeps, the sequence keeps.** -/
theorem Opened.runAll {P : Store → Prop} (h : Opened t r) {requests : List (Request E)}
    (hstep : ∀ q ∈ requests, ∀ r' st', Opened t r' → P st' → P (q.run r' st').store)
    (hst : P st) : P (Request.runAll r st requests).2.2 := by
  induction requests generalizing r st with
  | nil => exact hst
  | cons q rest ih =>
    have hfirst := hstep q List.mem_cons_self r st h hst
    exact ih (h.request q st) (fun q' hq' => hstep q' (List.mem_cons_of_mem _ hq')) hfirst

theorem Opened.idle_runAll (h : Opened t r) (requests : List (Request E)) (st : Store) :
    (Request.runAll r st requests).2.2.Idle ↔ st.Idle := by
  refine h.runAll (P := fun st' => st'.Idle ↔ st.Idle) ?_ Iff.rfl
  intro q _ r' st' h' hst'
  exact (h'.idle_request q st').trans hst'

theorem Opened.sound_runAll (h : Opened t r) (requests : List (Request E)) (hst : st.Sound) :
    (Request.runAll r st requests).2.2.Sound := by
  refine h.runAll ?_ hst
  intro q _ r' st' h' hst'
  exact h'.sound_request hst' q

theorem Opened.later_runAll (h : Opened t r) (requests : List (Request E)) (st : Store) :
    st.committed.Later (Request.runAll r st requests).2.2.committed := by
  refine h.runAll (P := fun st' => st.committed.Later st'.committed) ?_ (.refl _)
  intro q _ r' st' h' hst'
  exact hst'.trans (h'.later_request q st')

/-- A save leaves the store as it was, or with its statement performed on what was committed. -/
theorem Opened.store_save (h : Opened t r) (entity : E) (st : Store) :
    (r.saveWithOutcome entity st).store = st ∨ ∃ known change parameters written db,
      Write.saving r.metadata entity known = some (change, parameters) ∧
        st.committed.perform r.session change parameters = .ok (written, db) ∧
        (r.saveWithOutcome entity st).store = { st with committed := db } := by
  rcases h.store_run st (.saveWithOutcome entity) with
    hstore | ⟨-, _, _, written, db, hsent, hperform, hstore⟩
  · exact .inl hstore
  · obtain ⟨known, -, hsaving⟩ := exists_of_map_eq_ok hsent
    exact .inr ⟨known, _, _, written, db, hsaving, hperform, hstore⟩

end Repository

end EntityStore

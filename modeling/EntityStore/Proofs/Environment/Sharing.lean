import EntityStore.Proofs.Repository.Interchange
import EntityStore.Proofs.Repository.GeneratedKeys
import EntityStore.Proofs.Environment.Places
/-!
# Sessions on shared memory

All sessions of a unit in shared memory have their store in one place, and enforce references or
not as the unit says (`OpenedOn.member`).  So repositories of one type that are open on the unit
are alike, and a sequence of operations leaves the same store behind whichever repository makes
which operation (`play_runAll`).

What a session remembers by itself is the key of the row that it added last.  A save of an entity
without an identifier returns this key once its insertion is done.  If the insertion has added a
row, this is the row's own key, whatever was inserted before and through whichever session.  A table
may pass the row over instead, because it ignores repeated values, and then the insertion is done
too.  The save does not look at how many rows it added, and returns the key of an earlier row; which
one depends on the session (`key_of_another_row`).  In tables that pass no row over the results
are the same as well (`sessions_interchangeable`).
-/

namespace EntityStore

variable {E : Type} {t : EntityType E} {u : PersistenceUnit}

/-! ## 1. Opening repositories -/

namespace Environment

variable {env : Environment}

/-- A repository is opened on a session that was opened. -/
theorem adoptOpened_opened {opened : Opened SessionFault Session} {r : Repository E}
    (h : (adoptOpened t opened).outcome = .opened r) :
    ∃ s st, opened.outcome = .opened s ∧ (Repository.new t s st).result = .ok r := by
  unfold adoptOpened at h
  split at h
  · cases h
  · cases h
  rename_i s hs
  dsimp only [adopt] at h
  split at h
  · rename_i r' hresult
    cases h
    exact ⟨s, _, hs, hresult⟩
  · cases h

/-- A repository is opened on a unit, if no transaction is open on the unit's store and the
repository can use the table. -/
theorem openRepository_eq {env' : Environment} {place : Place} {name : String} {log : List Event}
    {r : Repository E} (hunit : env.registeredUnit name = .ok (u, env', log))
    (hplace : env'.placeOf u = .ok place) (hclosed : (env'.storeAt place).writer = none)
    (htimeout : u.busyTimeout ≤ largestTimeout)
    (hnew : (Repository.new t (env'.sessionOf u place) (env'.storeAt place)).result = .ok r) :
    (env.openRepository t name).outcome = .opened r ∧
      (env.openRepository t name).environment =
        (env'.enter (env'.sessionOf u place)).put place
          (Repository.new t (env'.sessionOf u place) (env'.storeAt place)).state := by
  have hstore : (env'.enter (env'.sessionOf u place)).store (env'.sessionOf u place) =
      env'.storeAt place := storeAt_enter _ _ _
  simp only [openRepository, createSession, hunit, connect_of_closed hplace hclosed htimeout,
    adoptOpened, adopt, hstore, hnew]
  exact ⟨trivial, rfl⟩

end Environment

/-! ## 2. Repositories of a unit -/

namespace Repository

/-- A repository of a type with these queries, whose session is on the store in a place. -/
structure Member (t : EntityType E) (place : Place) (foreignKeys : Bool)
    (queries : Query.Registry) (r : Repository E) : Prop where
  opened : Opened t r
  place : r.session.place = place
  foreignKeys : r.session.foreignKeys = foreignKeys
  queries : r.queries = queries

variable {place : Place} {foreignKeys : Bool} {queries : Query.Registry} {r r₁ r₂ : Repository E}

theorem Member.alike (h₁ : Member t place foreignKeys queries r₁)
    (h₂ : Member t place foreignKeys queries r₂) : Alike r₁ r₂ where
  entityType := h₁.opened.entityType.trans h₂.opened.entityType.symm
  metadata := h₁.opened.metadata.unique h₂.opened.metadata
  queries := h₁.queries.trans h₂.queries.symm
  foreignKeys := h₁.foreignKeys.trans h₂.foreignKeys.symm
  settled₁ := h₁.opened.executor
  settled₂ := h₂.opened.executor

/-- It is one after every operation. -/
theorem Member.run (h : Member t place foreignKeys queries r) (q : Request E) (st : Store) :
    Member t place foreignKeys queries (q.run r st).repository := by
  have hopened := h.opened.request q st
  obtain ⟨x, key, -, hrepository⟩ := h.opened.repository_request q st
  rw [hrepository] at hopened ⊢
  exact ⟨hopened, h.place, h.foreignKeys, h.queries⟩

/-- The repositories of a type that were opened on a unit, in whatever environment has the unit
registered, and used since. -/
inductive OpenedOn (t : EntityType E) (u : PersistenceUnit) : Repository E → Prop
  | opened {env registered : Environment} {name : String} {log : List Event} {r : Repository E} :
      env.registeredUnit name = .ok (u, registered, log) →
      (env.openRepository t name).outcome = .opened r → OpenedOn t u r
  | step {r r' : Repository E} : OpenedOn t u r → Step r r' → OpenedOn t u r'

theorem session_new {s : Session} {st : Store} (h : (Repository.new t s st).result = .ok r) :
    r.session = s := by
  unfold Repository.new at h
  split at h
  · cases h
  dsimp only at h
  split at h
  · cases h
  · cases h
    rfl

/-- A repository keeps its session; the session remembers other keys. -/
theorem session_step {r' : Repository E} (h : Step r r') :
    ∃ key, r'.session = r.session.remember key := by
  cases h with
  | register hreg =>
    obtain ⟨d, queries, -, -, rfl⟩ := hreg.eq
    exact ⟨r.session.lastKey, rfl⟩
  | write call st =>
    rcases traced_run r st call with hr | ⟨x, key, -, hr⟩
    · exact ⟨r.session.lastKey, congrArg Repository.session hr⟩
    · exact ⟨key, congrArg Repository.session hr⟩

/-- **All repositories on a unit in shared memory are on one store.** -/
theorem OpenedOn.member (h : OpenedOn t u r) (hshared : u.storage = .sharedMemory) :
    Member t (.shared u.sharedAddress) u.foreignKeys r.queries r := by
  induction h with
  | opened hunit hopen =>
    obtain ⟨s, st, hs, hnew⟩ := Environment.adoptOpened_opened hopen
    simp only [Environment.createSession, hunit] at hs
    obtain ⟨hplace, hsession, -⟩ := Environment.connect_opened hs
    have hkeys : s.foreignKeys = u.foreignKeys := by
      rw [hsession]
      rfl
    simp only [Environment.placeOf, hshared, Except.ok.injEq] at hplace
    rw [← session_new hnew] at hplace hkeys
    exact ⟨opened_new hnew, hplace.symm, hkeys, rfl⟩
  | step _ hstep ih =>
    obtain ⟨key, hsession⟩ := session_step hstep
    refine ⟨ih.opened.step hstep, ?_, ?_, rfl⟩
    · rw [hsession]
      exact ih.place
    · rw [hsession]
      exact ih.foreignKeys

end Repository

/-! ## 3. Scripts -/

namespace Environment

open Repository

variable {ι : Type} [DecidableEq ι] {place : Place} {foreignKeys : Bool}
  {queries : Query.Registry} {env : Environment} {repositories : ι → Repository E}

/-- What comes out of a script: the results of its operations, and the environment and the
repositories after the last. -/
structure Played (ι E : Type) where
  results : List (Except RepositoryFault (Response E))
  environment : Environment
  repositories : ι → Repository E

/-- Makes operations one after another, each through one of several repositories. -/
def play (env : Environment) (repositories : ι → Repository E) :
    List (ι × Request E) → Played ι E
  | [] => ⟨[], env, repositories⟩
  | (i, q) :: rest =>
    let s := (repositories i).session
    let a := q.run (repositories i) (env.store s)
    let played := play (env.put s.place a.store) (Function.update repositories i a.repository) rest
    { played with results := a.result :: played.results }

/-- **A script is a sequence of operations of any one member**: it leaves the same store, and its
results are the same but for keys of rows that were passed over. -/
theorem play_runAll {r : Repository E} (hr : Member t place foreignKeys queries r)
    (hmembers : ∀ i, Member t place foreignKeys queries (repositories i))
    (hclosed : (env.storeAt place).writer = none) (script : List (ι × Request E)) :
    let played := env.play repositories script
    let (results, _, after) := Request.runAll r (env.storeAt place) (script.map (·.2))
    List.Forall₂ (Agree (SameBut r.metadata (env.storeAt place).committed)) played.results
        results ∧
      played.environment.storeAt place = after ∧
      ∀ i, Member t place foreignKeys queries (played.repositories i) := by
  induction script generalizing env repositories r with
  | nil => exact ⟨.nil, rfl, hmembers⟩
  | cons step rest ih =>
    obtain ⟨i, q⟩ := step
    have hi := hmembers i
    have hstore : env.store (repositories i).session = env.storeAt place :=
      congrArg env.storeAt hi.place
    have hsame := (hi.alike hr).run hclosed q
    -- The member and the single repository leave the same store to the rest of the script.
    have hmembers' : ∀ j, Member t place foreignKeys queries
        (Function.update repositories i (q.run (repositories i) (env.storeAt place)).repository
          j) := by
      intro j
      rcases eq_or_ne j i with rfl | hne
      · rw [Function.update_self]
        exact (hmembers j).run q _
      · rw [Function.update_of_ne hne]
        exact hmembers j
    have hafter : (env.put place (q.run (repositories i) (env.storeAt place)).store).storeAt
        place = (q.run r (env.storeAt place)).store := by
      rw [storeAt_put, hsame.store]
    have hclosed' : ((env.put place (q.run (repositories i) (env.storeAt place)).store).storeAt
        place).writer = none := by
      rw [hafter, hr.opened.writer_request q, hclosed]
    have hnext := hr.run q (env.storeAt place)
    obtain ⟨hresults, hlast, hleft⟩ := ih hnext hmembers' hclosed'
    rw [hafter] at hresults hlast
    simp only [play, hstore, hi.place, List.map_cons, Request.runAll]
    refine ⟨.cons hsame.result (hresults.imp ?_), hlast, hleft⟩
    intro result₁ result₂ hagree
    rw [hnext.opened.metadata.unique hr.opened.metadata] at hagree
    exact hagree.imp fun x y hxy => hxy.earlier (hr.opened.later_request q _)

/-- **Which session makes an operation makes no difference to the store, nor to the results in a
table that passes no row over.**  Let any number of repositories of a type, with the same queries,
be open on a unit in shared memory, on whose store no transaction is open.

* A script of operations, each made by an arbitrary one of the repositories, leaves the store behind
  that the same operations leave when any single one of the repositories makes them all.
* The results are those of the single repository as well, but for one case: a save of an entity
  without an identifier may have another key in the entity, if the table passes rows over.
* After the script, a save through any of the repositories of an entity without an identifier, if
  it succeeds, either adds one row, and what comes back has the key of this row; or the table has
  passed the row over, and what comes back has the key that the repository's session remembers. -/
theorem sessions_interchangeable (hshared : u.storage = .sharedMemory)
    (hopen : ∀ i, OpenedOn t u (repositories i))
    (hqueries : ∀ i j, (repositories i).queries = (repositories j).queries)
    (hclosed : (env.storeAt (.shared u.sharedAddress)).writer = none)
    (script : List (ι × Request E)) (j : ι) :
    let m := (repositories j).metadata
    let before := env.storeAt (.shared u.sharedAddress)
    let played := env.play repositories script
    let (results, _, after) := Request.runAll (repositories j) before (script.map (·.2))
    played.environment.storeAt (.shared u.sharedAddress) = after ∧
      List.Forall₂ (Agree (SameBut m before.committed)) played.results results ∧
      (m.StrictIn before.committed → played.results = results) ∧
      ∀ i entity saved outcome,
        let r := played.repositories i
        let st := played.environment.store r.session
        let answer := r.saveWithOutcome entity st
        (r.metadata.identifierValue entity).isAbsentIdentifier = true →
          answer.result = .ok (saved, outcome) →
          outcome = .persisted ∧ ∃ table,
            st.committed.table? r.metadata.table = some table ∧
              ((∃ row, table.row? row.key = none ∧
                  answer.store = { st with committed := st.committed.put (table.add row) } ∧
                  answer.repository.session = r.session.remember row.key ∧
                  saved = r.metadata.assignIdentifier entity row.key) ∨
                ¬table.definition.Strict ∧ ∃ key,
                  answer.store = { st with committed := st.committed.put (table.record key) } ∧
                  answer.repository.session = r.session ∧
                  saved = r.metadata.assignIdentifier entity r.session.lastKey) := by
  have hmembers : ∀ i, Member t (.shared u.sharedAddress) u.foreignKeys (repositories j).queries
      (repositories i) := by
    intro i
    rw [← hqueries i j]
    exact (hopen i).member hshared
  obtain ⟨hresults, hafter, hleft⟩ := play_runAll (hmembers j) hmembers hclosed script
  refine ⟨hafter, hresults, ?_, ?_⟩
  · intro hstrict
    refine List.forall₂_eq_eq_eq ▸ hresults.imp ?_
    intro result₁ result₂ hagree
    exact hagree.eq fun x y hxy => hxy.eq_of_strict hstrict
  · intro i entity saved outcome r st answer habsent hsaved
    have hwrite : answer = r.write false entity st := by
      show r.saveWithOutcome entity st = _
      rw [saveWithOutcome, isKnown_of_absent habsent]
    rw [hwrite] at hsaved ⊢
    obtain ⟨houtcome, table, htable, hdone⟩ := (hleft i).opened.added_or_passed hsaved
    refine ⟨houtcome, table, htable, ?_⟩
    rcases hdone with
      ⟨row, -, hfresh, hstore, hsession, hsaved'⟩ | ⟨hlax, key, hstore, hsession, hsaved'⟩
    · rw [if_pos habsent] at hsaved'
      exact .inl ⟨row, hfresh, hstore, hsession, hsaved'⟩
    · rw [if_pos habsent] at hsaved'
      exact .inr ⟨hlax, key, hstore, hsession, hsaved'⟩

end Environment

/-! ## 4. A shop -/

namespace Items

/-- A unit in shared memory. -/
def shop : PersistenceUnit :=
  .new "shop" .sharedMemory

/-- The environment in which the unit is registered. -/
def registered : Environment :=
  { Environment.empty [] with units := ⟨[shop]⟩ }

/-- The first session on the unit, through which a caller may prepare the store. -/
def caller : Session :=
  ⟨0, "shop", .create, .shared shop.sharedAddress, true, 5000, 0⟩

example : (registered.createSession "shop").outcome = .opened caller := rfl

/-- The environment in which this session is open, and the store is as the caller has left it. -/
def prepared (st : Store) : Environment :=
  (registered.createSession "shop").environment.put caller.place st

/-- The environment after a repository of items was opened on the unit. -/
def first (st : Store) : Environment :=
  ((prepared st).openRepository Demo.items "shop").environment

/-- The environment after a second one was opened. -/
def environment (st : Store) : Environment :=
  ((first st).openRepository Demo.items "shop").environment

/-- The two repositories. -/
def member (second : Bool) : Repository Demo.Item :=
  ⟨⟨second.toNat + 1, "shop", .create, .shared shop.sharedAddress, true, 5000, 0⟩, Demo.items,
    metadata, .empty, .new⟩

variable {st after : Store}

theorem first_opened (hclosed : st.writer = none)
    (hnew : (Repository.new Demo.items (member false).session st).result = .ok (member false)) :
    ((prepared st).openRepository Demo.items "shop").outcome = .opened (member false) ∧
      first st = ((prepared st).enter (member false).session).put (.shared shop.sharedAddress)
        (Repository.new Demo.items (member false).session st).state := by
  have hunit : (prepared st).registeredUnit "shop" = .ok (shop, prepared st, []) := rfl
  have hstore : (prepared st).storeAt (.shared shop.sharedAddress) = st :=
    Environment.storeAt_put _ _ _
  have h := Environment.openRepository_eq (t := Demo.items) (r := member false) hunit rfl
    (by rw [hstore, hclosed]) (by decide)
  rw [hstore] at h
  exact h hnew

/-- Two repositories can be opened on a store on which each of them finds or creates its table. -/
theorem both_opened (hclosed : st.writer = none) (hclosed' : after.writer = none)
    (hnew : (Repository.new Demo.items (member false).session st).result = .ok (member false))
    (hafter : (Repository.new Demo.items (member false).session st).state = after)
    (hnew' : (Repository.new Demo.items (member true).session after).result = .ok (member true))
    (hafter' : (Repository.new Demo.items (member true).session after).state = after) :
    (∀ second, Repository.OpenedOn Demo.items shop (member second)) ∧
      (environment st).storeAt (.shared shop.sharedAddress) = after := by
  obtain ⟨houtcome, hfirst⟩ := first_opened hclosed hnew
  rw [hafter] at hfirst
  have hunit : (first st).registeredUnit "shop" = .ok (shop, first st, []) := by
    rw [hfirst]
    rfl
  have hstore : (first st).storeAt (.shared shop.sharedAddress) = after := by
    rw [hfirst, Environment.storeAt_put]
  have hsession : (first st).sessionOf shop (.shared shop.sharedAddress) =
      (member true).session := by
    rw [hfirst]
    rfl
  have h := Environment.openRepository_eq (t := Demo.items) (r := member true) hunit rfl
    (by rw [hstore, hclosed']) (by decide)
  rw [hstore, hsession, hafter'] at h
  obtain ⟨houtcome', henvironment⟩ := h hnew'
  constructor
  · intro second
    cases second with
    | false =>
      have hprepared : (prepared st).registeredUnit "shop" = .ok (shop, prepared st, []) := rfl
      exact .opened hprepared houtcome
    | true => exact .opened hunit houtcome'
  · rw [environment, henvironment, Environment.storeAt_put]

/-- On a store that holds nothing the first one creates the table. -/
theorem opened_empty : (∀ second, Repository.OpenedOn Demo.items shop (member second)) ∧
    (environment .empty).storeAt (.shared shop.sharedAddress) = opened :=
  both_opened rfl rfl rfl rfl rfl rfl

/-- A table that passes an item over whose name it has already. -/
def lax : TableDefinition where
  name := "item"
  columns := [⟨"id", some .integer, true, false, false, false, false, none, none⟩,
    ⟨"name", some .text, false, false, false, true, true, none, none⟩]

/-- The store in which the caller has created this table. -/
def laxStore : Store :=
  (Store.empty.alter caller (.createTable lax false)).2

/-- The table is found, and used as it is. -/
theorem opened_lax : (∀ second, Repository.OpenedOn Demo.items shop (member second)) ∧
    (environment laxStore).storeAt (.shared shop.sharedAddress) = laxStore :=
  both_opened rfl rfl rfl rfl rfl rfl

/-- Two items are saved through different repositories, and counted. -/
def script : List (Bool × Request Demo.Item) :=
  [(false, .basic (.save ⟨none, "a"⟩)), (true, .basic (.save ⟨none, "b"⟩)), (false, .basic .count)]

/-- One and the same item is saved twice, through different repositories. -/
def twice : List (Bool × Request Demo.Item) :=
  [(false, .basic (.save ⟨none, "x"⟩)), (true, .basic (.save ⟨none, "x"⟩))]

end Items

namespace Environment

open Items Repository

/-- Each item gets the key of its own row, and so does the next one. -/
theorem sessions_interchangeable_shop :
    let played := (environment .empty).play member script
    let r := played.repositories true
    let st := played.environment.store r.session
    played.results = [.ok (.saved ⟨some 1, "a"⟩ .persisted), .ok (.saved ⟨some 2, "b"⟩ .persisted),
        .ok (.counted 2)] ∧
      (r.saveWithOutcome ⟨none, "c"⟩ st).result = .ok (⟨some 3, "c"⟩, .persisted) ∧
      ∃ (table : Table) (row : Row), st.committed.table? "item" = some table ∧
        table.row? row.key = none ∧ row.key = 3 ∧
        (r.saveWithOutcome ⟨none, "c"⟩ st).store =
          { st with committed := st.committed.put (table.add row) } := by
  obtain ⟨hopen, hstore⟩ := opened_empty
  have hqueries : ∀ i j, (member i).queries = (member j).queries := fun _ _ => rfl
  have hclosed : ((environment .empty).storeAt (.shared shop.sharedAddress)).writer = none := by
    rw [hstore]
    rfl
  obtain ⟨hafter, -, hresults, hsaves⟩ :=
    sessions_interchangeable rfl hopen hqueries hclosed script true
  rw [hstore] at hafter hresults
  intro played r st
  have hst : st = (Request.runAll (member true) opened (script.map (·.2))).2.2 := hafter
  have hstrict : Items.metadata.StrictIn opened.committed := by
    intro table htable
    cases htable
    exact Metadata.strict_tableDefinition _
  have hmembers := fun i => (hopen i).member rfl
  have hlater : Items.metadata.StrictIn st.committed := by
    rw [hst]
    exact hstrict.later ((hmembers true).opened.later_runAll _ _)
  -- The second repository saves as it would have before the script.
  have hleft := (play_runAll (hmembers true) hmembers hclosed script).2.2 true
  have hsaved : (r.saveWithOutcome ⟨none, "c"⟩ st).result = .ok (⟨some 3, "c"⟩, .persisted) := by
    have hidle : st.writer = none := by
      rw [hst]
      rfl
    rw [((hleft.alike (hmembers true)).saveWithOutcome hidle _).result.eq
      fun _ _ hsame => hsame.eq_of_strict hlater, hst]
    rfl
  obtain ⟨-, table, htable, hdone⟩ := hsaves true _ _ _ rfl hsaved
  rcases hdone with ⟨row, hfresh, hstore', -, hkey⟩ | ⟨hlax, -⟩
  · injection hkey with hkey
    injection hkey with hkey
    exact ⟨hresults hstrict, hsaved, table, row, htable, hfresh, hkey.symm, hstore'⟩
  · exact absurd (hlater table htable) hlax

/-- **A key of another row.**  The table has the item already and passes the second one over.
Through two repositories the second save returns zero, since its session has added no row; through
one repository it returns the key of the first row. -/
theorem key_of_another_row :
    (∀ second, OpenedOn Demo.items shop (member second)) ∧
      (environment laxStore).storeAt (.shared shop.sharedAddress) = laxStore ∧
      ((environment laxStore).play member twice).results =
        [.ok (.saved ⟨some 1, "x"⟩ .persisted), .ok (.saved ⟨some 0, "x"⟩ .persisted)] ∧
      (Request.runAll (member false) laxStore (twice.map (·.2))).1 =
        [.ok (.saved ⟨some 1, "x"⟩ .persisted), .ok (.saved ⟨some 1, "x"⟩ .persisted)] := by
  obtain ⟨hopen, hstore⟩ := opened_lax
  refine ⟨hopen, hstore, ?_, rfl⟩
  have hfirst : (environment laxStore).store (member false).session = laxStore := hstore
  have hupdate : ∀ r : Repository Demo.Item, Function.update member false r true = member true :=
    fun _ => rfl
  have hsecond : ∀ st, ((environment laxStore).put (member false).session.place st).store
      (member true).session = st := fun st => storeAt_put _ _ st
  simp only [twice, play, hfirst, hupdate, hsecond]
  rfl

end Environment

end EntityStore

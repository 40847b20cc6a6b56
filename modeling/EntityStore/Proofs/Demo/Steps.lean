import EntityStore.Proofs.Repository.Ledger
import EntityStore.Proofs.Environment.Restart
import EntityStore.Proofs.Environment.Sharing
/-!
# Steps of the demonstration

The program is made of a few kinds of steps: it prints, opens repositories, registers queries, reads
and writes.  `Ends` says of a part of the program that it comes to its end, without a fault, and
what is true then.  `Stage` is what is true between two steps: what the store of the unit holds, and
what was printed.  There is one lemma for each kind of step, and parts are put together by
`Ends.bind`.

Only a unit that can be used (`Usable`) is spoken of; which faults others lead to is not.
-/

namespace EntityStore.Demo

variable {E α β : Type} {t : EntityType E} {r : Repository E} {st : Store} {p : Progress}

/-! ## 1. Parts that end -/

/-- A part of the program ends with a value, of which something is true. -/
def Ends (x : Script α) (p : Progress) (Q : α → Progress → Prop) : Prop :=
  ∃ a p', x.run p = (.ok a, p') ∧ Q a p'

theorem Ends.bind {x : Script α} {f : α → Script β} {Q : α → Progress → Prop}
    {R : β → Progress → Prop} (hx : Ends x p Q)
    (hf : ∀ a p', Q a p' → Ends (f a) p' R) : Ends (x >>= f) p R := by
  obtain ⟨a, p', hrun, hQ⟩ := hx
  obtain ⟨b, p'', hrun', hR⟩ := hf a p' hQ
  refine ⟨b, p'', ?_, hR⟩
  rw [← hrun']
  exact congrArg (fun done => ExceptT.bindCont f done.1 done.2) hrun

theorem ends_pure {Q : α → Progress → Prop} {a : α} (h : Q a p) : Ends (pure a) p Q :=
  ⟨a, p, rfl, h⟩

theorem Ends.mono {x : Script α} {Q R : α → Progress → Prop} (h : Ends x p Q)
    (hQR : ∀ a p', Q a p' → R a p') : Ends x p R := by
  obtain ⟨a, p', hrun, hQ⟩ := h
  exact ⟨a, p', hrun, hQR a p' hQ⟩

theorem ends_get : Ends (get : Script Progress) p fun a p' => a = p ∧ p' = p :=
  ⟨p, p, rfl, rfl, rfl⟩

theorem ends_set (next : Progress) : Ends (set next : Script PUnit) p fun _ p' => p' = next :=
  ⟨⟨⟩, next, rfl, rfl⟩

theorem ends_settle {result : Except RepositoryFault α} {a : α} (h : result = .ok a) :
    Ends (settle result) p fun b p' => b = a ∧ p' = p := by
  rw [h]
  exact ends_pure ⟨rfl, rfl⟩

/-! ## 2. What is true between two steps -/

/-- Wherever there are certain directories, sessions of a unit can be opened in a place, and their
repositories create the tables. -/
structure Usable (directories : List (List Component)) (u : PersistenceUnit) (place : Place) :
    Prop where
  place : ∀ env : Environment, env.directories = directories → env.placeOf u = .ok place
  mode : u.schemaMode = .create
  timeout : u.busyTimeout ≤ Environment.largestTimeout

/-- What is true between two steps: the unit is there, its store is in a certain state, and certain
lines were printed. -/
structure Stage (directories : List (List Component)) (u : PersistenceUnit) (place : Place)
    (st : Store) (lines : List String) (p : Progress) : Prop where
  unit : ∃ units log, p.environment.units.resolve u.name = .ok (u, units, log)
  directories : p.environment.directories = directories
  store : p.environment.storeAt place = st
  lines : p.lines = lines

variable {directories : List (List Component)} {u : PersistenceUnit} {place : Place}
  {lines : List String}

/-- A unit that was looked up is found again. -/
theorem resolve_resolve {registry units : UnitRegistry} {name : String} {log : List Event}
    (h : registry.resolve name = .ok (u, units, log)) :
    units.resolve name = .ok (u, units, []) := by
  unfold UnitRegistry.resolve at h
  split at h
  · rename_i hfound
    cases h
    simp only [UnitRegistry.resolve, hfound]
  · split at h
    · rename_i hnone hname
      cases h
      have hfound : (registry.enter .default).find? name = some .default := by
        rw [UnitRegistry.find?, UnitRegistry.enter, List.find?_append,
          show registry.units.find? (·.name == name) = none from hnone, hname]
        rfl
      simp only [UnitRegistry.resolve, hfound]
    · cases h

/-! ## 3. Steps -/

/-- A method is registered under its name, if the name can be read and is new. -/
theorem ends_register {method : String} {form : Query.Form} {names : List String}
    {d : Query.Descriptor} {queries : Query.Registry}
    (hparse : Query.Method.parse method = .ok ⟨form, names⟩)
    (hbuild : Query.Descriptor.build r.metadata names form = .ok d)
    (hinsert : r.queries.insert method d = .ok queries) :
    Ends (register r method) p fun a p' => a = { r with queries } ∧ p' = p := by
  have hregister : r.registerMethod method =
      .ok ({ r with queries }, [.queryRegistered r.metadata.entity method form names]) := by
    simp only [Repository.registerMethod, hparse, Repository.register, hbuild, hinsert]
  refine (ends_settle hregister).bind ?_
  rintro _ _ ⟨rfl, rfl⟩
  exact ends_pure ⟨rfl, rfl⟩

/-- A repository is opened on the unit, if it can use the table. -/
theorem ends_open (h : Stage directories u place st lines p) (hunit : Usable directories u place)
    (hclosed : st.writer = none) {m : Metadata E} {st' : Store}
    (hnew : ∀ s : Session, s.schemaMode = .create →
      (Repository.new t s st).result = .ok ⟨s, t, m, .empty, .new⟩ ∧
        (Repository.new t s st).state = st') :
    Ends (openRepository t u.name) p fun r p' => (∃ s : Session, s.place = place ∧
        r = ⟨s, t, m, .empty, .new⟩) ∧ Stage directories u place st' lines p' := by
  -- Looking the unit up can enter it, if it is the default one; the store is opened after that.
  obtain ⟨units, log, hresolve⟩ := h.unit
  obtain ⟨env, hfound, rfl, hdirectories, hstore⟩ : ∃ env : Environment,
      p.environment.registeredUnit u.name = .ok (u, env, log) ∧ env.units = units ∧
        env.directories = directories ∧ env.storeAt place = st := by
    refine ⟨{ p.environment with units }, ?_, rfl, h.directories, h.store⟩
    rw [Environment.registeredUnit, hresolve]
    rfl
  obtain ⟨hresult, hstate⟩ := hnew (env.sessionOf u place) hunit.mode
  obtain ⟨hopened, henvironment⟩ := Environment.openRepository_eq hfound
    (hunit.place env hdirectories) (by rwa [hstore]) hunit.timeout (by rw [hstore]; exact hresult)
  rw [hstore, hstate] at henvironment
  have hstage : Stage directories u place st' lines
      { p with environment := (p.environment.openRepository t u.name).environment } := by
    rw [henvironment]
    exact ⟨⟨env.units, [], resolve_resolve hresolve⟩, hdirectories,
      Environment.storeAt_put _ _ _, h.lines⟩
  refine ends_get.bind ?_
  rintro _ _ ⟨rfl, rfl⟩
  refine (ends_set _).bind ?_
  rintro _ _ rfl
  simp only [hopened]
  exact ends_pure ⟨⟨env.sessionOf u place, rfl, rfl⟩, hstage⟩

/-! ## 4. Steps on a ledger -/

/-- What is true between two steps of a part that works with one repository: the store of the unit
is a ledger of it. -/
structure Holds (directories : List (List Component)) (u : PersistenceUnit) (place : Place)
    (t : EntityType E) (r : Repository E) (st : Store) (table : Table) (k : Nat)
    (lines : List String) (p : Progress) : Prop where
  stage : Stage directories u place st lines p
  ledger : Repository.Ledger t r st table k
  place : r.session.place = place

namespace Holds

variable {table table' : Table} {k k' : Nat}

theorem store (h : Holds directories u place t r st table k lines p) :
    p.environment.store r.session = st := by
  rw [Environment.store, h.place, h.stage.store]

/-- A line that is printed comes last. -/
theorem print (h : Holds directories u place t r st table k lines p) (line : String) :
    Ends (print line) p fun _ p' =>
      Holds directories u place t r st table k (lines ++ [line]) p' :=
  ⟨(), _, rfl, ⟨h.stage.unit, h.stage.directories, h.stage.store,
    congrArg (· ++ [line]) h.stage.lines⟩, h.ledger, h.place⟩

/-- Reading gives what the store holds, and the program goes on with it. -/
theorem read (h : Holds directories u place t r st table k lines p)
    {act : Store → Except RepositoryFault α} {value : α} (hact : act st = .ok value)
    {f : α → Script β} {R : β → Progress → Prop} (hf : Ends (f value) p R) :
    Ends (read r act >>= f) p R := by
  have hread : Ends (Demo.read r act) p fun a p' => a = value ∧ p' = p := by
    refine ends_get.bind ?_
    rintro _ _ ⟨rfl, rfl⟩
    exact ends_settle (by rw [h.store, hact])
  refine hread.bind ?_
  rintro _ _ ⟨rfl, rfl⟩
  exact hf

/-- **An operation that is done leaves the next ledger behind.** -/
theorem write (h : Holds directories u place t r st table k lines p) {act : Store → Answer E α}
    {value : α} (hdone : Repository.Done t r st table' k' value (act st)) :
    Ends (write r act) p fun a p' => ∃ x key, a = (value, r.leave x key) ∧
      Holds directories u place t (r.leave x key)
        { st with committed := st.committed.put table' } table' k' lines p' := by
  obtain ⟨x, key, hrepository⟩ := hdone.repository
  have hledger := hdone.ledger
  rw [hrepository, hdone.store] at hledger
  refine ends_get.bind ?_
  rintro _ _ ⟨rfl, rfl⟩
  simp only [h.store]
  refine (ends_set _).bind ?_
  rintro _ _ rfl
  refine (ends_settle hdone.result).bind ?_
  rintro _ _ ⟨rfl, rfl⟩
  refine ends_pure ⟨x, key, by rw [hrepository], ⟨h.stage.unit, h.stage.directories, ?_,
    h.stage.lines⟩, hledger, h.place⟩
  rw [h.place, hdone.store]
  exact Environment.storeAt_put _ _ _

end Holds

end EntityStore.Demo

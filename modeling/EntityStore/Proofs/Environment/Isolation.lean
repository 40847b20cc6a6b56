import EntityStore.Proofs.Environment.Units
import EntityStore.Proofs.Repository.Requests
import EntityStore.Proofs.Store.Agreement
import EntityStore.Proofs.Unit.Address
/-!
# Units in memory are isolated

Sessions meet in places, and a place belongs to one unit: the address of shared memory is made of
the unit's name, and a session of a private unit has a place of its own.  So what a session does
changes nothing for the sessions of other units, however their steps are interleaved.

The argument has three parts.  A step of a session changes its own place only
(`Operates.store_of_ne`).  Every course of a program that uses units in memory keeps sessions in the
places of their units (`InMemory`, one lemma for each kind of step).  And addresses are injective
(`sharedAddress_inj`), so that sessions of different units are in different places
(`InMemory.place_ne`).  `memory_units_isolated` puts them together.
-/

namespace EntityStore

/-! ## 1. What sessions do -/

/-- A session serves a repository: the repository is opened on it, or makes an operation. -/
inductive Session.Works (s : Session) (st : Store) : Store → Prop
  | opens {E : Type} (t : EntityType E) : Works s st (Repository.new t s st).state
  | requests {E : Type} {t : EntityType E} {r : Repository E} (q : Request E) :
      Repository.Reachable t r → r.session = s → Works s st (q.run r st).store

/-- A session serves a repository, or it makes a single step of its own. -/
inductive Session.Does (s : Session) (st : Store) : Store → Prop
  | works {st' : Store} : s.Works st st' → Does s st st'
  | begins : Does s st (st.begin s).2
  | commits : Does s st (st.commit s).2
  | rollsBack : Does s st (st.rollback s).2
  | executes (change : Change) (parameters : Parameters) :
      Does s st (st.execute s change parameters).2
  | alters (alteration : Database.Alteration) : Does s st (st.alter s alteration).2

namespace Store

variable {s : Session} {st st' : Store}

theorem state_new {E : Type} (t : EntityType E) (s : Session) (st : Store) :
    (Repository.new t s st).state = st ∨
      ∃ alteration, (Repository.new t s st).state = (st.alter s alteration).2 := by
  unfold Repository.new
  split
  · exact .inl rfl
  rename_i m hresolve
  have hprepare : (s.prepare m s.schemaMode st).state = st ∨
      ∃ alteration, (s.prepare m s.schemaMode st).state = (st.alter s alteration).2 := by
    unfold Session.prepare
    split
    · refine .inr ⟨.createTable m.tableDefinition true, ?_⟩
      unfold Session.alter Session.lift
      cases (st.alter s (.createTable m.tableDefinition true)).1 <;> rfl
    · split <;> exact .inl rfl
    · exact .inl rfl
  dsimp only
  split <;> exact hprepare

/-- Whatever a session does leaves a coherent store coherent. -/
theorem Coherent.does (h : st.Coherent) (hdoes : s.Does st st') : st'.Coherent := by
  cases hdoes with
  | begins => exact h.begin s
  | commits => exact h.commit s
  | rollsBack => exact h.rollback s
  | executes change parameters => exact h.execute s change parameters
  | alters alteration => exact h.alter s alteration
  | works hworks =>
    cases hworks with
    | opens t =>
      rcases state_new t s st with hstate | ⟨alteration, hstate⟩
      · rw [hstate]
        exact h
      · rw [hstate]
        exact h.alter s alteration
    | requests q hr hs =>
      rcases hr.opened.store_request q st with hstore | ⟨hidle, _, _, _, db, -, -, hstore⟩
      · rw [hstore]
        exact h
      · rw [hstore, hidle.writer]
        exact .of_closed h.readable db

theorem alter_closed (h : st.writer = none) (alteration : Database.Alteration) :
    (st.alter s alteration).2.writer = none := by
  unfold Store.alter
  split
  · exact h
  have hown : st.own? s = none := by simp [own?, h]
  rw [hown]
  dsimp only [alterAlone]
  split
  · exact h
  split
  · exact h
  split
  · exact h
  split <;> exact h

/-- Complete operations leave no transaction open. -/
theorem closed_works (h : st.writer = none) (hworks : s.Works st st') : st'.writer = none := by
  cases hworks with
  | opens t =>
    rcases state_new t s st with hstate | ⟨alteration, hstate⟩
    · rw [hstate, h]
    · rw [hstate, alter_closed h]
  | requests q hr hs => rw [hr.opened.writer_request, h]

end Store

namespace Environment

variable {D : Session → Store → Store → Prop} {env env' : Environment} {s s' : Session}
  {u : PersistenceUnit}

/-- An operation on a session: it does something to its store, or it is closed. -/
inductive Operates (D : Session → Store → Store → Prop) (s : Session) (env : Environment) :
    Environment → Prop
  | uses {st : Store} : D s (env.store s) st → Operates D s env (env.put s.place st)
  | closes : Operates D s env (env.close s)

/-- A step of a program that has its units in memory: a call about units, or an operation on an open
session. -/
inductive Step (D : Session → Store → Store → Prop) (env : Environment) : Environment → Prop
  | calls (call : UnitCall) : (∀ u path, call = .register u → u.storage ≠ .file path) →
      Step D env (call.after env)
  | operates {s : Session} {env' : Environment} :
      s ∈ env.sessions → Operates D s env env' → Step D env env'

/-- Any number of steps. -/
def Course (D : Session → Store → Store → Prop) : Environment → Environment → Prop :=
  Relation.ReflTransGen (Step D)

theorem course_afterAll {calls : List UnitCall} (env : Environment)
    (hcalls : ∀ call ∈ calls, ∀ u path, call = .register u → u.storage ≠ .file path) :
    Course D env (UnitCall.afterAll env calls) := by
  induction calls generalizing env with
  | nil => exact .refl
  | cons call calls ih =>
    have hfirst : Step D env (call.after env) := .calls call (hcalls call List.mem_cons_self)
    exact .head hfirst (ih _ fun c hc => hcalls c (List.mem_cons_of_mem _ hc))

/-! ## 2. Operations and their places -/

theorem sessions_close (env : Environment) (s : Session) :
    (env.close s).sessions = env.sessions.filter (·.id != s.id) := by
  unfold close
  dsimp only
  split <;> rfl

/-- The store of a session that is closed is left as it is, or dropped. -/
theorem storeAt_close (env : Environment) (s : Session) :
    (env.close s).storeAt s.place = (env.store s).leave s ∨
      (env.close s).storeAt s.place = .empty := by
  unfold close
  dsimp only
  split
  · exact .inl (storeAt_put env s.place _)
  · exact .inr (storeAt_dropped _ s.place)

/-- A shared store is kept as long as another session is open on it. -/
theorem storeAt_close_of_shared (hs' : s' ∈ env.sessions) (hid : s'.id ≠ s.id)
    (hplace : s'.place = s.place) (hshared : s.place.isShared = true) :
    (env.close s).storeAt s.place = (env.store s).leave s := by
  have hmem : s' ∈ env.sessions.filter (·.id != s.id) :=
    List.mem_filter.mpr ⟨hs', by simpa using hid⟩
  obtain ⟨address, haddress⟩ : ∃ address, s.place = .shared address := by
    cases hcase : s.place <;> simp_all [Place.isShared]
  unfold close
  dsimp only
  rw [if_pos]
  · exact storeAt_put env s.place _
  · rw [haddress]
    exact List.any_eq_true.mpr ⟨s', hmem, by simp [hplace, haddress]⟩

/-- **An operation changes nothing outside its session's place.** -/
theorem Operates.store_of_ne (h : Operates D s env env') (hne : s'.place ≠ s.place) :
    env'.store s' = env.store s' := by
  cases h with
  | uses _ => exact storeAt_put_of_ne hne _
  | closes => exact storeAt_close_of_ne hne

/-- What holds of every store is kept, if it is kept by what sessions do and leave behind. -/
theorem Operates.keeps {P : Store → Prop} (h : Operates D s env env')
    (hdoes : ∀ st st', P st → D s st st' → P st') (hleave : ∀ st, P st → P (st.leave s))
    (hempty : P .empty) (hP : ∀ place, P (env.storeAt place)) (place : Place) :
    P (env'.storeAt place) := by
  rcases eq_or_ne place s.place with rfl | hne
  · cases h with
    | uses hdone =>
      rw [storeAt_put]
      exact hdoes _ _ (hP s.place) hdone
    | closes =>
      rcases env.storeAt_close s with hstore | hstore
      · rw [hstore]
        exact hleave _ (hP s.place)
      · rw [hstore]
        exact hempty
  · cases h with
    | uses _ =>
      rw [storeAt_put_of_ne hne]
      exact hP place
    | closes =>
      rw [storeAt_close_of_ne hne]
      exact hP place

theorem Operates.units (h : Operates D s env env') : env'.units = env.units := by
  cases h with
  | uses _ => rfl
  | closes =>
    unfold close
    dsimp only
    split <;> rfl

theorem Operates.nextId (h : Operates D s env env') : env'.nextId = env.nextId := by
  cases h with
  | uses _ => rfl
  | closes =>
    unfold close
    dsimp only
    split <;> rfl

/-- Other sessions stay open, and no session is opened. -/
theorem Operates.sessions_sublist (h : Operates D s env env') :
    env'.sessions.Sublist env.sessions := by
  cases h with
  | uses _ => exact .refl _
  | closes =>
    rw [sessions_close]
    exact List.filter_sublist

theorem Operates.mem_sessions (h : Operates D s env env') (hs' : s' ∈ env.sessions)
    (hid : s'.id ≠ s.id) : s' ∈ env'.sessions := by
  cases h with
  | uses _ => exact hs'
  | closes =>
    rw [sessions_close]
    exact List.mem_filter.mpr ⟨hs', by simpa using hid⟩

/-! ## 3. Calls and their sessions -/

/-- A call opens a session on the unit that it looks up, or it opens none. -/
theorem sessions_call (env : Environment) (call : UnitCall) :
    ((call.after env).sessions = env.sessions ∧ (call.after env).nextId = env.nextId) ∨
      ∃ name u s, call.LooksUp name ∧ env.Resolves name u ∧ env.placeOf u = .ok s.place ∧
        s = env.sessionOf u s.place ∧ (call.after env).sessions = env.sessions ++ [s] ∧
        (call.after env).nextId = env.nextId + 1 := by
  cases call with
  | register u =>
    refine .inl ?_
    simp only [UnitCall.after, registerUnit]
    cases env.units.register u <;> exact ⟨rfl, rfl⟩
  | resolve name =>
    refine .inl ?_
    simp only [UnitCall.after, registeredUnit]
    cases env.units.resolve name <;> exact ⟨rfl, rfl⟩
  | createSession name =>
    simp only [UnitCall.after, createSession]
    cases hunit : env.registeredUnit name with
    | error fault => exact .inl ⟨rfl, rfl⟩
    | ok answer =>
      obtain ⟨u, registered, log⟩ := answer
      obtain ⟨units, hregistered⟩ := registeredUnit_ok hunit
      dsimp only at hregistered ⊢
      subst hregistered
      rcases connect_cases { env with units } u with ⟨place, hplace, -, henv⟩ | ⟨-, henv⟩
      · rw [henv]
        exact .inr ⟨name, u, env.sessionOf u place, rfl, ⟨_, _, hunit⟩, hplace, rfl, rfl, rfl⟩
      · rw [henv]
        exact .inl ⟨rfl, rfl⟩

/-! ## 4. Sessions in the places of their units -/

/-- A session is in the place of its unit, which is registered and in memory. -/
inductive Placed (env : Environment) (s : Session) : Prop
  | own {u : PersistenceUnit} : env.units.find? s.unit = some u → u.storage = .memory →
      s.place = .own s.id → Placed env s
  | shared {u : PersistenceUnit} : env.units.find? s.unit = some u → u.storage = .sharedMemory →
      s.place = .shared u.sharedAddress → Placed env s

/-- All units are in memory, every session is in the place of its unit, no two sessions have one
number, and what is in the places is coherent. -/
structure InMemory (env : Environment) : Prop where
  units : ∀ name u path, env.units.find? name = some u → u.storage ≠ .file path
  placed : ∀ s ∈ env.sessions, env.Placed s
  fresh : ∀ s ∈ env.sessions, s.id < env.nextId
  distinct : (env.sessions.map (·.id)).Nodup
  coherent : ∀ place, (env.storeAt place).Coherent

theorem Placed.mono (h : env.Placed s)
    (hunits : ∀ name u, env.units.find? name = some u → env'.units.find? name = some u) :
    env'.Placed s := by
  cases h with
  | own hfound hstorage hplace => exact .own (hunits _ _ hfound) hstorage hplace
  | shared hfound hstorage hplace => exact .shared (hunits _ _ hfound) hstorage hplace

namespace InMemory

theorem empty (directories : List (List Component)) : (Environment.empty directories).InMemory where
  units _ _ _ h := by cases h
  placed _ h := by cases h
  fresh _ h := by cases h
  distinct := List.nodup_nil
  coherent _ := .empty

/-- A call keeps units in memory, and a session that it opens is in the place of its unit. -/
theorem call (h : env.InMemory) {call : UnitCall}
    (hcall : ∀ u path, call = .register u → u.storage ≠ .file path) :
    (call.after env).InMemory := by
  have hkept : ∀ name u, env.units.find? name = some u →
      (call.after env).units.find? name = some u := by
    intro name u hfound
    rw [UnitCall.find?_after, hfound, Option.some_or]
  have hunits : ∀ name u path, (call.after env).units.find? name = some u →
      u.storage ≠ .file path := by
    intro name u path hfound
    rw [UnitCall.find?_after, Option.or_eq_some_iff] at hfound
    rcases hfound with hfound | ⟨-, hentered⟩
    · exact h.units name u path hfound
    · cases call with
      | register v =>
        obtain ⟨-, hv⟩ := Option.ite_none_right_eq_some.mp hentered
        rw [← Option.some.inj hv]
        exact hcall v path rfl
      | resolve other =>
        obtain ⟨-, hdefault⟩ := Option.ite_none_right_eq_some.mp hentered
        cases hdefault
        exact Storage.noConfusion
      | createSession other =>
        obtain ⟨-, hdefault⟩ := Option.ite_none_right_eq_some.mp hentered
        cases hdefault
        exact Storage.noConfusion
  have hcoherent : ∀ place, ((call.after env).storeAt place).Coherent := by
    intro place
    rw [UnitCall.storeAt_after]
    exact h.coherent place
  rcases env.sessions_call call with ⟨hsessions, hnext⟩ |
    ⟨name, u, s, hlookup, hresolves, hplace, hs, hsessions, hnext⟩
  · refine ⟨hunits, ?_, ?_, ?_, hcoherent⟩
    · rw [hsessions]
      exact fun s hs => (h.placed s hs).mono hkept
    · rw [hsessions, hnext]
      exact h.fresh
    · rw [hsessions]
      exact h.distinct
  · have hfound := hresolves.find?_after hlookup
    have hunit : s.unit = name := by
      rw [hs]
      exact UnitRegistry.name_of_find? hfound
    have hid : s.id = env.nextId := by rw [hs]; rfl
    have hplaced : (call.after env).Placed s := by
      rw [← hunit] at hfound
      cases hstorage : u.storage with
      | memory =>
        simp only [placeOf, hstorage, Except.ok.injEq] at hplace
        exact .own hfound hstorage (by rw [← hplace, hid])
      | sharedMemory =>
        simp only [placeOf, hstorage, Except.ok.injEq] at hplace
        exact .shared hfound hstorage hplace.symm
      | file path => exact absurd hstorage (hunits _ u path hfound)
    refine ⟨hunits, ?_, ?_, ?_, hcoherent⟩
    · intro x hx
      rw [hsessions] at hx
      rcases List.mem_append.mp hx with hx | hx
      · exact (h.placed x hx).mono hkept
      · rw [List.mem_singleton.mp hx]
        exact hplaced
    · intro x hx
      rw [hsessions] at hx
      rw [hnext]
      rcases List.mem_append.mp hx with hx | hx
      · exact Nat.lt_succ_of_lt (h.fresh x hx)
      · rw [List.mem_singleton.mp hx, hid]
        exact Nat.lt_succ_self _
    · rw [hsessions, List.map_append, List.nodup_append]
      refine ⟨h.distinct, List.nodup_singleton _, ?_⟩
      intro i hi j hj
      obtain ⟨x, hx, rfl⟩ := List.mem_map.mp hi
      obtain rfl : j = s.id := List.mem_singleton.mp hj
      rw [hid]
      exact Nat.ne_of_lt (h.fresh x hx)

/-- An operation on a session keeps the others in their places. -/
theorem operates (h : env.InMemory) (hop : Operates Session.Does s env env') : env'.InMemory where
  units := by
    rw [hop.units]
    exact h.units
  placed x hx := by
    refine (h.placed x (hop.sessions_sublist.subset hx)).mono ?_
    rw [hop.units]
    exact fun _ _ => id
  fresh x hx := by
    rw [hop.nextId]
    exact h.fresh x (hop.sessions_sublist.subset hx)
  distinct := h.distinct.sublist (hop.sessions_sublist.map _)
  coherent := hop.keeps (fun _ _ => .does) (fun _ hst => hst.rollback s) .empty h.coherent

theorem step (h : env.InMemory) (hstep : Step Session.Does env env') : env'.InMemory := by
  cases hstep with
  | calls call hcall => exact h.call hcall
  | operates _ hop => exact h.operates hop

theorem course (h : env.InMemory) (hcourse : Course Session.Does env env') : env'.InMemory := by
  induction hcourse with
  | refl => exact h
  | tail _ hstep ih => exact ih.step hstep

theorem eq_of_id (h : env.InMemory) (hs : s ∈ env.sessions) (hs' : s' ∈ env.sessions)
    (hid : s.id = s'.id) : s = s' :=
  List.inj_on_of_nodup_map h.distinct hs hs' hid

end InMemory

/-! ## 5. Joined sessions -/

/-- Sessions that work on the same rows: one and the same, or two of a unit in shared memory. -/
def Joined (s s' : Session) : Prop :=
  s' = s ∨ s'.unit = s.unit ∧ s.place.isShared = true

/-- **Sessions meet in a place only if they are joined.** -/
theorem InMemory.place_eq_iff (h : env.InMemory) (hs : s ∈ env.sessions) (hs' : s' ∈ env.sessions) :
    s'.place = s.place ↔ Joined s s' := by
  constructor
  · intro hplaces
    cases h.placed s hs with
    | own _ _ hplace =>
      refine .inl (h.eq_of_id hs' hs ?_)
      cases h.placed s' hs' with
      | own _ _ hplace' =>
        rw [hplace, hplace'] at hplaces
        exact Place.own.inj hplaces
      | shared _ _ hplace' =>
        rw [hplace, hplace'] at hplaces
        cases hplaces
    | shared hfound _ hplace =>
      refine .inr ⟨?_, by rw [hplace]; rfl⟩
      cases h.placed s' hs' with
      | own _ _ hplace' =>
        rw [hplace, hplace'] at hplaces
        cases hplaces
      | shared hfound' _ hplace' =>
        rw [hplace, hplace'] at hplaces
        have hname := PersistenceUnit.sharedAddress_inj.mp (Place.shared.inj hplaces)
        rwa [UnitRegistry.name_of_find? hfound', UnitRegistry.name_of_find? hfound] at hname
  · rintro (rfl | ⟨hunit, hshared⟩)
    · rfl
    cases h.placed s hs with
    | own _ _ hplace =>
      rw [hplace] at hshared
      cases hshared
    | shared hfound hstorage hplace =>
      cases h.placed s' hs' with
      | own hfound' hstorage' _ =>
        rw [hunit, hfound] at hfound'
        cases hfound'
        rw [hstorage] at hstorage'
        cases hstorage'
      | shared hfound' _ hplace' =>
        rw [hunit, hfound] at hfound'
        cases hfound'
        rw [hplace, hplace']

/-! ## 6. What sessions find -/

/-- The store goes from one state to another by what sessions of one kind do and leave behind. -/
inductive Used (P : Session → Prop) (st : Store) : Store → Prop
  | refl : Used P st st
  | does {x : Session} {st₁ st₂ : Store} :
      Used P st st₁ → P x → x.Does st₁ st₂ → Used P st st₂
  | leaves {x : Session} {st₁ : Store} : Used P st st₁ → P x → Used P st (st₁.leave x)

theorem nextId_mono (h : Course D env env') : env.nextId ≤ env'.nextId := by
  induction h with
  | refl => exact Nat.le_refl _
  | tail _ hstep ih =>
    refine Nat.le_trans ih ?_
    cases hstep with
    | calls call _ =>
      rcases sessions_call _ call with ⟨-, hnext⟩ | ⟨_, _, _, -, -, -, -, -, hnext⟩
      · exact hnext.ge
      · rw [hnext]
        exact Nat.le_succ _
    | operates _ hop => exact hop.nextId.ge

/-- A session with an old number was open before. -/
theorem Step.mem_sessions (h : Step D env env') (hold : s.id < env.nextId)
    (hs : s ∈ env'.sessions) : s ∈ env.sessions := by
  cases h with
  | calls call _ =>
    rcases sessions_call env call with ⟨hsessions, -⟩ | ⟨_, u, x, -, -, -, hx, hsessions, -⟩
    · rwa [hsessions] at hs
    · rw [hsessions] at hs
      rcases List.mem_append.mp hs with hs | hs
      · exact hs
      · rw [List.mem_singleton.mp hs, hx] at hold
        exact absurd hold (Nat.lt_irrefl _)
  | operates _ hop => exact hop.sessions_sublist.subset hs

/-- A step leaves the store of a session as it is, unless a joined session makes it. -/
theorem InMemory.used_step (h : env.InMemory) (hstep : Step Session.Does env env')
    (hs : s ∈ env.sessions) (hs' : s ∈ env'.sessions) {st : Store}
    (hused : Used (Joined s) st (env.store s)) : Used (Joined s) st (env'.store s) := by
  cases hstep with
  | calls call _ =>
    rw [store, UnitCall.storeAt_after]
    exact hused
  | @operates x _ hx hop =>
    by_cases hplace : s.place = x.place
    · have hjoined : Joined s x := (h.place_eq_iff hs hx).mp hplace.symm
      have hsame : env.store s = env.store x := congrArg env.storeAt hplace
      cases hop with
      | uses hdoes =>
        rw [store, hplace, storeAt_put]
        exact hused.does hjoined (hsame ▸ hdoes)
      | closes =>
        rw [sessions_close] at hs'
        have hid : s.id ≠ x.id := by simpa using (List.mem_filter.mp hs').2
        rcases hjoined with rfl | ⟨hunit, hshared⟩
        · exact absurd rfl hid
        · rw [store, hplace, storeAt_close_of_shared hs hid hplace (hplace ▸ hshared)]
          exact (hsame ▸ hused).leaves (.inr ⟨hunit, hshared⟩)
    · rw [hop.store_of_ne hplace]
      exact hused

/-- **What a session finds was done by sessions that it is joined with**, whatever others did
meanwhile. -/
theorem InMemory.used (h : env.InMemory) (hcourse : Course Session.Does env env')
    (hs : s ∈ env.sessions) (hs' : s ∈ env'.sessions) :
    Used (Joined s) (env.store s) (env'.store s) := by
  induction hcourse with
  | refl => exact .refl
  | tail hcourse hstep ih =>
    have hold := Nat.lt_of_lt_of_le (h.fresh s hs) (nextId_mono hcourse)
    have hbetween := hstep.mem_sessions hold hs'
    exact (h.course hcourse).used_step hstep hbetween hs' (ih hbetween)

/-! ## 7. Isolation -/

/-- Sessions of different units, and private sessions, have nothing to do with each other. -/
structure Isolated (env : Environment) : Prop where
  /-- Every open session belongs to a registered unit in memory. -/
  unit : ∀ s ∈ env.sessions, ∃ u, env.units.find? s.unit = some u ∧
    (u.storage = .memory ∨ u.storage = .sharedMemory)
  /-- An operation on a session changes nothing for the sessions of any other unit. -/
  shared : ∀ {s s' env'}, s ∈ env.sessions → s' ∈ env.sessions → s'.unit ≠ s.unit →
    Operates Session.Does s env env' → s' ∈ env'.sessions ∧ env'.store s' = env.store s'
  /-- An operation on a session of a private unit changes nothing for any other session. -/
  memory : ∀ {s s' u env'}, s ∈ env.sessions → s' ∈ env.sessions →
    env.units.find? s.unit = some u → u.storage = .memory → s' ≠ s →
    Operates Session.Does s env env' → s' ∈ env'.sessions ∧ env'.store s' = env.store s'
  /-- Sessions of a unit in shared memory have one store, and whatever two of them can both read is
  the same for both. -/
  together : ∀ {s s' u}, s ∈ env.sessions → s' ∈ env.sessions → env.units.find? s.unit = some u →
    u.storage = .sharedMemory → s'.unit = s.unit → env.store s' = env.store s ∧
      ∀ (table : String) (α : Type) (query : Database → Except StoreFault α),
        Store.About table query → (env.store s).Reads s table → (env.store s').Reads s' table →
          (env.store s).read s table query = (env.store s').read s' table query
  /-- Only another session's open transaction keeps a session from reading a table. -/
  reads : ∀ s ∈ env.sessions, ∀ table, (env.store s).Reads s table ∨
    ∃ t, (env.store s).writer = some t ∧ t.owner ≠ s.id ∧
      (t.altered = true ∨ t.written.any (Name.same table) = true)
  /-- In the course of any further steps, what a session finds is done by itself and, if its unit is
  in shared memory, by sessions of its unit. -/
  alone : ∀ {s env'}, s ∈ env.sessions → s ∈ env'.sessions → Course Session.Does env env' →
    Used (Joined s) (env.store s) (env'.store s)

namespace InMemory

theorem kept_of_not_joined (h : env.InMemory) (hs : s ∈ env.sessions) (hs' : s' ∈ env.sessions)
    (hjoined : ¬ Joined s s') (hop : Operates Session.Does s env env') :
    s' ∈ env'.sessions ∧ env'.store s' = env.store s' := by
  refine ⟨hop.mem_sessions hs' fun hid => hjoined (.inl (h.eq_of_id hs' hs hid)), ?_⟩
  exact hop.store_of_ne fun hplace => hjoined ((h.place_eq_iff hs hs').mp hplace)

theorem isShared_iff (h : env.InMemory) (hs : s ∈ env.sessions)
    (hunit : env.units.find? s.unit = some u) :
    s.place.isShared = true ↔ u.storage = .sharedMemory := by
  cases h.placed s hs with
  | own hfound hstorage hplace =>
    rw [hunit] at hfound
    cases hfound
    simp [hstorage, hplace, Place.isShared]
  | shared hfound hstorage hplace =>
    rw [hunit] at hfound
    cases hfound
    simp [hstorage, hplace, Place.isShared]

theorem isolated (h : env.InMemory) : env.Isolated where
  unit s hs := by
    cases h.placed s hs with
    | own hfound hstorage _ => exact ⟨_, hfound, .inl hstorage⟩
    | shared hfound hstorage _ => exact ⟨_, hfound, .inr hstorage⟩
  shared hs hs' hunit := by
    refine h.kept_of_not_joined hs hs' ?_
    rintro (rfl | ⟨hsame, -⟩)
    · exact hunit rfl
    · exact hunit hsame
  memory hs hs' hfound hstorage hne := by
    refine h.kept_of_not_joined hs hs' ?_
    rintro (heq | ⟨-, hshared⟩)
    · exact hne heq
    · rw [(h.isShared_iff hs hfound).mp hshared] at hstorage
      cases hstorage
  together {s s' u} hs hs' hfound hstorage hunit := by
    have hshared := (h.isShared_iff hs hfound).mpr hstorage
    have hplace := (h.place_eq_iff hs hs').mpr (.inr ⟨hunit, hshared⟩)
    have hstore : env.store s' = env.store s := congrArg env.storeAt hplace
    refine ⟨hstore, fun table α query hquery hreads hreads' => ?_⟩
    rw [hstore] at hreads' ⊢
    exact (h.coherent s.place).read_eq_of_reads hshared (hplace ▸ hshared) hreads hreads' hquery
  reads s _ table := (h.coherent s.place).reads_or_kept_out s table
  alone hs hs' hcourse := h.used hcourse hs hs'

end InMemory

/-- As long as sessions serve repositories only, no transaction is open between two steps. -/
theorem closed_course (h : Course Session.Works env env')
    (hclosed : ∀ place, (env.storeAt place).writer = none) :
    ∀ place, (env'.storeAt place).writer = none := by
  induction h with
  | refl => exact hclosed
  | tail _ hstep ih =>
    cases hstep with
    | calls call _ =>
      intro place
      rw [UnitCall.storeAt_after]
      exact ih place
    | operates _ hop =>
      refine hop.keeps (P := fun st => st.writer = none) ?_ ?_ rfl ih
      · exact fun _ _ => Store.closed_works
      · intro st hst
        simp [Store.leave, Store.rollback, Store.own?, hst]

/-- **Units in memory are isolated by name**, in the course of any steps of a program that has its
units in memory.  The address of shared memory tells the name.  Between complete operations of
repositories all sessions of a unit in shared memory read the same. -/
theorem memory_units_isolated {directories : List (List Component)}
    (h : Course Session.Does (.empty directories) env) :
    (∀ u v : PersistenceUnit, u.sharedAddress = v.sharedAddress ↔ u.name = v.name) ∧
    (∀ u : PersistenceUnit,
      PersistenceUnit.nameBytes? u.sharedAddress = some u.name.toUTF8.toList) ∧
    env.Isolated ∧
    (Course Session.Works (.empty directories) env →
      ∀ s ∈ env.sessions, ∀ s' ∈ env.sessions, ∀ u, env.units.find? s.unit = some u →
        u.storage = .sharedMemory → s'.unit = s.unit →
          ∀ (table : String) (α : Type) (query : Database → Except StoreFault α),
            Store.About table query →
              (env.store s).read s table query = (env.store s').read s' table query) := by
  have hmemory := (InMemory.empty directories).course h
  refine ⟨fun _ _ => PersistenceUnit.sharedAddress_inj, PersistenceUnit.nameBytes?_sharedAddress,
    hmemory.isolated, ?_⟩
  intro hworks s hs s' hs' u hfound hstorage hunit table α query hquery
  have hclosed := closed_course hworks (fun _ => rfl)
  have hreads : ∀ x ∈ env.sessions, (env.store x).Reads x table := by
    intro x hx
    rcases hmemory.isolated.reads x hx table with hreads | ⟨t, hwriter, -⟩
    · exact hreads
    · rw [store, hclosed x.place] at hwriter
      cases hwriter
  exact (hmemory.isolated.together hs hs' hfound hstorage hunit).2 table α query hquery
    (hreads s hs) (hreads s' hs')

end Environment

/-! ## 8. Two shops -/

namespace Shops

/-- Two units whose names differ in case only. -/
def calls : List UnitCall :=
  [.register (.new "shop" .sharedMemory), .register (.new "Shop" .sharedMemory),
    .createSession "shop", .createSession "Shop"]

/-- The environment in which a session is open on each. -/
def environment : Environment :=
  UnitCall.afterAll (.empty []) calls

/-- The session of the shop with a number. -/
def session (id : Nat) (unit : String) : Session :=
  ⟨id, unit, .create, .shared (PersistenceUnit.new unit .sharedMemory).sharedAddress, true, 5000, 0⟩

end Shops

namespace Environment

open Shops in
/-- A transaction is begun in one shop, and the other does not notice. -/
theorem memory_units_isolated_shops :
    environment.sessions = [session 0 "shop", session 1 "Shop"] ∧
      let begun := environment.put (session 0 "shop").place
        ((environment.store (session 0 "shop")).begin (session 0 "shop")).2
      (begun.store (session 0 "shop")).isActive (session 0 "shop") = true ∧
      session 1 "Shop" ∈ begun.sessions ∧
      begun.store (session 1 "Shop") = environment.store (session 1 "Shop") := by
  have hcourse : Course Session.Does (.empty []) environment := by
    refine course_afterAll _ ?_
    intro call hcall u path heq
    simp only [calls, List.mem_cons, List.not_mem_nil, or_false] at hcall
    rcases hcall with rfl | rfl | rfl | rfl <;> cases heq <;> exact Storage.noConfusion
  have hsessions : environment.sessions = [session 0 "shop", session 1 "Shop"] := by
    decide +kernel
  have hfirst : session 0 "shop" ∈ environment.sessions := by simp [hsessions]
  have hsecond : session 1 "Shop" ∈ environment.sessions := by simp [hsessions]
  obtain ⟨-, -, hisolated, -⟩ := memory_units_isolated hcourse
  have hkept := hisolated.shared hfirst hsecond (show "Shop" ≠ "shop" by decide) (.uses .begins)
  exact ⟨hsessions, by decide +kernel, hkept⟩

end Environment

end EntityStore

import EntityStore.Proofs.Repository.Requests
import EntityStore.Proofs.Query.Acceptance
/-!
# What is registered

Queries are registered in two ways, under the names of methods and under keys of their own, and a
registration can be refused for many reasons.  Whatever has been called, and whatever the repository
was used for in between, its queries are those of the registrations that succeeded
(`find?_afterAll`): one that is refused leaves no trace, and none takes the place of another.

What is registered under a key decides what can be run under it.  A key that is unknown, that was
registered for another form, or that is given the wrong number of arguments is refused
(`prepareQuery_error_iff`) before anything else is done (`run_of_refused`).  Main statement:
`registry_exact`.
-/

namespace EntityStore

open Query

variable {E : Type} {t : EntityType E} {r : Repository E}

/-! ## 1. Queries that can be built -/

namespace Query

/-- A query of a form with conditions on some attributes can be asked about the entities of a
schema: it has conditions exactly if its form is filtered, and they are on different attributes of
the schema. -/
structure Sensible (schema : EntitySchema E) (form : Form) (names : List String) : Prop where
  filtered : form.isFiltered = true ↔ names ≠ []
  declared : ∀ name ∈ names, ∃ a ∈ schema.attributes, a.name = name
  distinct : names.Nodup

namespace Descriptor

/-- The query of a form with conditions on some attributes. -/
def on (m : Metadata E) (form : Form) (names : List String) : Descriptor :=
  ⟨m.table, m.outputs, m.identifier.column, names.map condition, form⟩

variable {schema : EntitySchema E} {m : Metadata E}

theorem exists_attribute?_iff (hm : m.Resolved schema) {name : String} :
    (∃ a, m.attribute? name = some a) ↔ ∃ a ∈ schema.attributes, a.name = name := by
  rw [← hm.declared, ← Option.isSome_iff_exists, Metadata.attribute?, List.find?_isSome]
  simp

/-- One more attribute. -/
theorem exists_resolve_cons {seen rest : List String} {name : String} :
    (∃ conditions, resolve m seen (name :: rest) = .ok conditions) ↔
      (∃ a, m.attribute? name = some a) ∧ name ∉ seen ∧
        ∃ conditions, resolve m (name :: seen) rest = .ok conditions := by
  rw [resolve]
  cases m.attribute? name with
  | none => simp
  | some a =>
    by_cases hseen : name ∈ seen
    · simp [hseen]
    · cases hrest : resolve m (name :: seen) rest <;> simp [hseen]

theorem exists_resolve_iff (hm : m.Resolved schema) {seen names : List String} :
    (∃ conditions, resolve m seen names = .ok conditions) ↔
      (∀ name ∈ names, ∃ a ∈ schema.attributes, a.name = name) ∧ names.Nodup ∧
        ∀ name ∈ names, name ∉ seen := by
  induction names generalizing seen with
  | nil => simp [resolve]
  | cons name rest ih =>
    have hapart : (∀ other ∈ rest, other ∉ name :: seen) ↔
        name ∉ rest ∧ ∀ other ∈ rest, other ∉ seen := by
      simp only [List.mem_cons, not_or]
      constructor
      · intro h
        exact ⟨fun hmem => (h name hmem).1 rfl, fun other hother => (h other hother).2⟩
      · rintro ⟨hnew, hseen⟩ other hother
        exact ⟨fun heq => hnew (heq ▸ hother), hseen other hother⟩
    rw [exists_resolve_cons, exists_attribute?_iff hm, ih, hapart, List.forall_mem_cons,
      List.forall_mem_cons, List.nodup_cons]
    tauto

/-- **What can be built.** -/
theorem exists_build_iff (hm : m.Resolved schema) {form : Form} {names : List String} :
    (∃ d, build m names form = .ok d) ↔ Sensible schema form names := by
  have hbuild : (∃ d, build m names form = .ok d) ↔
      ((form.isFiltered && names.isEmpty) = false ∧
        (!form.isFiltered && !names.isEmpty) = false) ∧
          ∃ conditions, resolve m [] names = .ok conditions := by
    unfold build
    cases form.isFiltered && names.isEmpty <;> cases !form.isFiltered && !names.isEmpty <;>
      cases resolve m [] names <;> simp
  have hform : (form.isFiltered = true ↔ names ≠ []) ↔
      (form.isFiltered && names.isEmpty) = false ∧
        (!form.isFiltered && !names.isEmpty) = false := by
    cases form.isFiltered <;> cases names <;> simp
  rw [hbuild, ← hform, exists_resolve_iff hm]
  constructor
  · rintro ⟨hfiltered, hdeclared, hdistinct, -⟩
    exact ⟨hfiltered, hdeclared, hdistinct⟩
  · rintro ⟨hfiltered, hdeclared, hdistinct⟩
    exact ⟨hfiltered, hdeclared, hdistinct, fun _ _ => List.not_mem_nil⟩

end Descriptor

/-! ## 2. Keys of a registry -/

namespace Registry

variable {registry : Registry} {key : String} {d : Descriptor}

theorem mem_keys_iff : key ∈ registry.keys ↔ ∃ d, registry.find? key = some d := by
  simp only [keys, find?, List.mem_map, Option.map_eq_some_iff]
  constructor
  · rintro ⟨entry, hentry, rfl⟩
    have hfound : (registry.entries.find? (·.1 == entry.1)).isSome = true :=
      List.find?_isSome.mpr ⟨entry, hentry, beq_self_eq_true entry.1⟩
    obtain ⟨found, hfound⟩ := Option.isSome_iff_exists.mp hfound
    exact ⟨found.2, found, hfound, rfl⟩
  · rintro ⟨-, entry, hfound, -⟩
    have hkey : (entry.1 == key) = true :=
      List.find?_some (p := fun found : String × Descriptor => found.1 == key) hfound
    exact ⟨entry, List.mem_of_find?_eq_some hfound, eq_of_beq hkey⟩

theorem mem_place {entries : List (String × Descriptor)} {entry : String × Descriptor} :
    entry ∈ place key d entries ↔ entry = (key, d) ∨ entry ∈ entries := by
  induction entries with
  | nil => simp [place]
  | cons first rest ih =>
    unfold place
    split
    · rw [List.mem_cons]
    · rw [List.mem_cons, ih, List.mem_cons, or_left_comm]

/-- A new key is put where it belongs. -/
theorem increasing_place {entries : List (String × Descriptor)}
    (h : entries.Pairwise fun x y => x.1 < y.1) (hnew : ∀ entry ∈ entries, entry.1 ≠ key) :
    (place key d entries).Pairwise fun x y => x.1 < y.1 := by
  induction entries with
  | nil => exact List.pairwise_singleton _ _
  | cons first rest ih =>
    obtain ⟨hfirst, hrest⟩ := List.pairwise_cons.mp h
    unfold place
    split
    · rename_i hlt
      refine List.pairwise_cons.mpr ⟨List.forall_mem_cons.mpr ⟨hlt, fun x hx => ?_⟩, h⟩
      exact lt_trans hlt (hfirst x hx)
    · rename_i hle
      have hlt : first.1 < key := lt_of_le_of_ne (not_lt.mp hle) (hnew first List.mem_cons_self)
      refine List.pairwise_cons.mpr
        ⟨fun x hx => ?_, ih hrest fun x hx => hnew x (List.mem_cons_of_mem _ hx)⟩
      rcases mem_place.mp hx with rfl | hx
      · exact hlt
      · exact hfirst x hx

/-- The keys of a registry are strictly increasing. -/
def Increasing (registry : Registry) : Prop :=
  registry.entries.Pairwise fun x y => x.1 < y.1

/-- Only a new key is registered. -/
theorem find?_of_insert {next : Registry} (h : registry.insert key d = .ok next) :
    registry.find? key = none ∧ next = ⟨place key d registry.entries⟩ := by
  unfold Registry.insert at h
  split at h
  · cases h
  · cases h
    exact ⟨‹_›, rfl⟩

theorem Increasing.insert {next : Registry} (h : registry.Increasing)
    (hinsert : registry.insert key d = .ok next) : next.Increasing := by
  obtain ⟨hnone, rfl⟩ := find?_of_insert hinsert
  refine increasing_place h fun entry hentry heq => ?_
  have hmem : key ∈ registry.keys := List.mem_map.mpr ⟨entry, hentry, heq⟩
  obtain ⟨found, hfound⟩ := mem_keys_iff.mp hmem
  rw [hnone] at hfound
  cases hfound

theorem exists_insert_iff : (∃ next, registry.insert key d = .ok next) ↔ key ∉ registry.keys := by
  rw [mem_keys_iff, Registry.insert]
  cases registry.find? key <;> simp

end Registry

end Query

/-! ## 3. Registrations and other uses -/

namespace Repository

/-- A call that registers a query: the one that a method is named after, or any under a key. -/
inductive Registration where
  | method (name : String)
  | explicit (key : String) (form : Form) (names : List String)

namespace Registration

/-- The key of the query. -/
def key : Registration → String
  | .method name => name
  | .explicit key _ _ => key

/-- The form of the query and its attributes, unless they were to be read off a name that is not
that of a method. -/
def query? : Registration → Option (Form × List String)
  | .method name => (Method.parse name).toOption.map fun parsed => (parsed.form, parsed.attributes)
  | .explicit _ form names => some (form, names)

/-- Makes the call. -/
def make (r : Repository E) : Registration → Except RepositoryFault (Repository E × List Event)
  | .method name => r.registerMethod name
  | .explicit key form names => r.register key form names

/-- The repository after the call. -/
def after (r : Repository E) (call : Registration) : Repository E :=
  match call.make r with
  | .ok (r', _) => r'
  | .error _ => r

/-- The call registers a query. -/
def Succeeds (r : Repository E) (call : Registration) (form : Form) (names : List String) : Prop :=
  call.query? = some (form, names) ∧ ∃ answer, call.make r = .ok answer

/-- A registration that succeeds adds the query that was asked for. -/
theorem make_ok (hr : Opened t r) {call : Registration} {r' : Repository E} {log : List Event}
    (h : call.make r = .ok (r', log)) :
    ∃ form names queries, call.query? = some (form, names) ∧
      r.queries.insert call.key (Descriptor.on r.metadata form names) = .ok queries ∧
      r' = { r with queries } := by
  obtain ⟨form, names, hquery, hregisters⟩ :
      ∃ form names, call.query? = some (form, names) ∧ Registers r call.key form names r' := by
    cases call with
    | explicit key form names => exact ⟨form, names, rfl, .explicit h⟩
    | method name =>
      cases hparse : Method.parse name with
      | error fault => simp [make, registerMethod, hparse] at h
      | ok parsed =>
        exact ⟨parsed.form, parsed.attributes, by rw [query?, hparse]; rfl, .method hparse h⟩
  obtain ⟨d, queries, hbuild, hinsert, hr'⟩ := hregisters.eq
  obtain ⟨-, rfl⟩ := Descriptor.build_ok hr.metadata hbuild
  exact ⟨form, names, queries, hquery, hinsert, hr'⟩

theorem exists_register_iff (hr : Opened t r) {key : String} {form : Form} {names : List String} :
    (∃ answer, r.register key form names = .ok answer) ↔
      Sensible t.schema form names ∧ key ∉ r.registeredQueries := by
  rw [← Descriptor.exists_build_iff hr.metadata, register]
  cases hbuild : Descriptor.build r.metadata names form with
  | error fault => simp
  | ok d =>
    dsimp only
    rw [registeredQueries, ← Registry.exists_insert_iff (d := d)]
    cases r.queries.insert key d <;> simp

/-- **When a registration succeeds.** -/
theorem exists_make_iff (hr : Opened t r) (call : Registration) :
    (∃ answer, call.make r = .ok answer) ↔
      (∃ form names, call.query? = some (form, names) ∧ Sensible t.schema form names) ∧
        call.key ∉ r.registeredQueries := by
  cases call with
  | explicit key form names => simpa [make, query?, Registration.key] using exists_register_iff hr
  | method name =>
    simp only [make, registerMethod, query?, key]
    cases Method.parse name with
    | error fault => simp [Except.toOption]
    | ok parsed => simpa [Except.toOption] using exists_register_iff hr

end Registration

/-- Something that is done with a repository: a query is registered, or an operation is made on some
store. -/
inductive Use (E : Type) where
  | register (call : Registration)
  | request (q : Request E) (st : Store)

namespace Use

/-- The repository after it was used. -/
def after (r : Repository E) : Use E → Repository E
  | .register call => call.after r
  | .request q st => (q.run r st).repository

/-- The repository after it was used again and again. -/
def afterAll (r : Repository E) (uses : List (Use E)) : Repository E :=
  uses.foldl after r

/-- A use is a registration that succeeds: of a query of a form with conditions on some attributes,
under a key. -/
def Accepts (r : Repository E) (use : Use E) (key : String) (form : Form) (names : List String) :
    Prop :=
  ∃ call : Registration, use = .register call ∧ call.key = key ∧ call.Succeeds r form names

/-- One of the uses is a registration that succeeds. -/
inductive Accepted : Repository E → List (Use E) → String → Form → List String → Prop
  | now {r : Repository E} {use : Use E} {rest : List (Use E)} {key : String} {form : Form}
      {names : List String} :
      use.Accepts r key form names → Accepted r (use :: rest) key form names
  | later {r : Repository E} {use : Use E} {rest : List (Use E)} {key : String} {form : Form}
      {names : List String} :
      Accepted (use.after r) rest key form names → Accepted r (use :: rest) key form names

theorem Accepts.unique {use : Use E} {key key' : String} {form form' : Form}
    {names names' : List String} (h : use.Accepts r key form names)
    (h' : use.Accepts r key' form' names') : key = key' ∧ form = form' ∧ names = names' := by
  obtain ⟨call, rfl, rfl, hquery, -⟩ := h
  obtain ⟨_, heq, rfl, hquery', -⟩ := h'
  cases heq
  cases hquery.symm.trans hquery'
  exact ⟨rfl, rfl, rfl⟩

/-- **One use** adds the query that it registers, or it changes at most the executor and the key
that the session remembers. -/
theorem after_cases (hr : Opened t r) (use : Use E) :
    (∃ key form names queries, use.Accepts r key form names ∧
        r.queries.insert key (Descriptor.on r.metadata form names) = .ok queries ∧
        use.after r = { r with queries }) ∨
      (∀ key form names, ¬ use.Accepts r key form names) ∧
        ∃ (x : Executor) (key : Int64), x.state ≠ .active ∧ use.after r = r.leave x key := by
  cases use with
  | request q st =>
    refine .inr ⟨?_, hr.repository_request q st⟩
    rintro key form names ⟨call, heq, -⟩
    cases heq
  | register call =>
    cases hmake : call.make r with
    | error fault =>
      refine .inr ⟨?_, r.executor, r.session.lastKey, hr.executor, ?_⟩
      · rintro key form names ⟨_, heq, -, -, answer, hanswer⟩
        cases heq
        rw [hmake] at hanswer
        cases hanswer
      · simp only [after, Registration.after, hmake]
        rfl
    | ok answer =>
      obtain ⟨r', log⟩ := answer
      obtain ⟨form, names, queries, hquery, hinsert, hr'⟩ := Registration.make_ok hr hmake
      refine .inl ⟨call.key, form, names, queries, ⟨call, rfl, rfl, hquery, _, hmake⟩, hinsert, ?_⟩
      simp only [after, Registration.after, hmake, hr']

theorem opened_after (hr : Opened t r) (use : Use E) : Opened t (use.after r) := by
  rcases after_cases hr use with ⟨-, -, -, queries, -, -, hafter⟩ | ⟨-, x, last, hx, hafter⟩
  · rw [hafter]
    exact ⟨hr.entityType, hr.metadata, hr.executor⟩
  · rw [hafter]
    exact ⟨hr.entityType, hr.metadata, hx⟩

theorem metadata_after (hr : Opened t r) (use : Use E) : (use.after r).metadata = r.metadata := by
  rcases after_cases hr use with ⟨-, -, -, queries, -, -, hafter⟩ | ⟨-, x, last, -, hafter⟩
  · rw [hafter]
  · rw [hafter, metadata_leave]

theorem increasing_after (hr : Opened t r) (h : r.queries.Increasing) (use : Use E) :
    (use.after r).queries.Increasing := by
  rcases after_cases hr use with
    ⟨key, form, names, queries, -, hinsert, hafter⟩ | ⟨-, x, last, -, hafter⟩
  · rw [hafter]
    exact h.insert hinsert
  · rw [hafter]
    exact h

/-- The queries after one use are those before it, and the one that it registers. -/
theorem find?_after (hr : Opened t r) (use : Use E) {key : String} {d : Descriptor} :
    (use.after r).queries.find? key = some d ↔ r.queries.find? key = some d ∨
      ∃ form names, use.Accepts r key form names ∧ d = Descriptor.on r.metadata form names := by
  rcases after_cases hr use with
    ⟨key', form, names, queries, haccepts, hinsert, hafter⟩ | ⟨hnone, x, last, -, hafter⟩
  · have hnew : r.queries.find? key' = none := (Registry.find?_of_insert hinsert).1
    rw [hafter, Registry.find?_insert hinsert key]
    constructor
    · intro hfound
      split at hfound
      · rename_i hkey
        subst hkey
        exact .inr ⟨form, names, haccepts, (Option.some.inj hfound).symm⟩
      · exact .inl hfound
    · rintro (hold | ⟨_, _, haccepts', rfl⟩)
      · have hne : key' ≠ key := by
          rintro rfl
          rw [hnew] at hold
          cases hold
        rw [if_neg hne, hold]
      · obtain ⟨rfl, rfl, rfl⟩ := haccepts.unique haccepts'
        rw [if_pos rfl]
  · have hqueries : (use.after r).queries = r.queries := by
      rw [hafter]
      rfl
    simp [hqueries, hnone]

/-- **Any number of uses.** -/
theorem find?_afterAll (hr : Opened t r) (uses : List (Use E)) {key : String} {d : Descriptor} :
    (afterAll r uses).queries.find? key = some d ↔ r.queries.find? key = some d ∨
      ∃ form names, Accepted r uses key form names ∧ d = Descriptor.on r.metadata form names := by
  induction uses generalizing r with
  | nil =>
    have hnone : ∀ form names, ¬ Accepted r [] key form names := nofun
    simp [afterAll, hnone]
  | cons use rest ih =>
    have hcons : ∀ form names, Accepted r (use :: rest) key form names ↔
        use.Accepts r key form names ∨ Accepted (use.after r) rest key form names := by
      intro form names
      constructor
      · rintro (hnow | hlater)
        · exact .inl hnow
        · exact .inr hlater
      · rintro (hnow | hlater)
        · exact .now hnow
        · exact .later hlater
    rw [afterAll, List.foldl_cons, ← afterAll, ih (opened_after hr use), find?_after hr use,
      metadata_after hr use]
    simp only [hcons, or_and_right, exists_or, or_assoc]

theorem increasing_afterAll (hr : Opened t r) (h : r.queries.Increasing) (uses : List (Use E)) :
    (afterAll r uses).queries.Increasing := by
  induction uses generalizing r with
  | nil => exact h
  | cons use rest ih => exact ih (opened_after hr use) (increasing_after hr h use)

theorem opened_afterAll (hr : Opened t r) (uses : List (Use E)) : Opened t (afterAll r uses) := by
  induction uses generalizing r with
  | nil => exact hr
  | cons use rest ih => exact ih (opened_after hr use)

end Use

/-! ## 4. Misuse -/

/-- A key is misused by an operation that runs queries of another form, or with arguments that are
not one for each condition, or it is no key at all. -/
inductive Misuse (r : Repository E) (uses : List (Use E)) (wanted : Form) (key : String)
    (arguments : List Value) : QueryFault → Prop
  | unknown : (∀ form names, ¬ Use.Accepted r uses key form names) →
      Misuse r uses wanted key arguments .unknownQuery
  | form {form : Form} {names : List String} : Use.Accepted r uses key form names →
      form ≠ wanted → Misuse r uses wanted key arguments (.formMismatch form wanted)
  | arguments {names : List String} : Use.Accepted r uses key wanted names →
      arguments.length ≠ names.length →
      Misuse r uses wanted key arguments (.argumentCount names.length arguments.length)

/-- **A query is not prepared exactly if its key is misused.** -/
theorem prepareQuery_error_iff (hr : Opened t r) (hempty : r.queries = .empty)
    {uses : List (Use E)} {wanted : Form} {key : String} {arguments : List Value}
    {refusal : RepositoryFault} :
    (Use.afterAll r uses).prepareQuery key wanted arguments = .error refusal ↔
      ∃ fault, Misuse r uses wanted key arguments fault ∧ refusal = .derivation key fault := by
  have hregistered : ∀ d, (Use.afterAll r uses).queries.find? key = some d ↔
      ∃ form names, Use.Accepted r uses key form names ∧
        d = Descriptor.on r.metadata form names := by
    intro d
    rw [Use.find?_afterAll hr, hempty]
    exact or_iff_right nofun
  have hunknown : (Use.afterAll r uses).queries.find? key = none ↔
      ∀ form names, ¬ Use.Accepted r uses key form names := by
    rw [Option.eq_none_iff_forall_ne_some]
    constructor
    · intro hnone form names haccepted
      exact hnone _ ((hregistered _).mpr ⟨form, names, haccepted, rfl⟩)
    · intro hnone d hfind
      obtain ⟨form, names, haccepted, -⟩ := (hregistered d).mp hfind
      exact hnone form names haccepted
  constructor
  · intro h
    unfold prepareQuery Registry.lookup at h
    cases hfind : (Use.afterAll r uses).queries.find? key with
    | none =>
      simp only [hfind] at h
      exact ⟨_, .unknown (hunknown.mp hfind), (Except.error.inj h).symm⟩
    | some d =>
      obtain ⟨form, names, haccepted, rfl⟩ := (hregistered d).mp hfind
      by_cases hform : form = wanted
      · subst hform
        by_cases hlength : arguments.length = names.length
        · simp [hfind, Descriptor.on, Descriptor.bind, hlength] at h
        · simp only [hfind, Descriptor.on, Descriptor.bind, List.length_map, hlength, if_true,
            if_false] at h
          exact ⟨_, .arguments haccepted hlength, (Except.error.inj h).symm⟩
      · simp only [hfind, Descriptor.on, hform, if_false] at h
        exact ⟨_, .form haccepted hform, (Except.error.inj h).symm⟩
  · rintro ⟨fault, hmisuse, rfl⟩
    cases hmisuse with
    | unknown hnone => simp [prepareQuery, Registry.lookup, hunknown.mpr hnone]
    | form haccepted hform =>
      have hfind := (hregistered _).mpr ⟨_, _, haccepted, rfl⟩
      simp [prepareQuery, Registry.lookup, hfind, Descriptor.on, hform]
    | arguments haccepted hlength =>
      have hfind := (hregistered _).mpr ⟨_, _, haccepted, rfl⟩
      simp [prepareQuery, Registry.lookup, hfind, Descriptor.on, Descriptor.bind, hlength]

end Repository

/-- The form of the registered queries that an operation runs, and the key and the arguments that it
is given. -/
def Request.query? : Request E → Option (Form × String × List Value)
  | .basic _ => none
  | .findBy key arguments => some (.selectFiltered, key, arguments)
  | .countBy key arguments => some (.countFiltered, key, arguments)
  | .deleteBy key arguments => some (.deleteFiltered, key, arguments)

namespace Repository

/-- A query that is not prepared is not run. -/
theorem run_of_refused {q : Request E} {wanted : Form} {key : String} {arguments : List Value}
    (hq : q.query? = some (wanted, key, arguments)) {refusal : RepositoryFault}
    (h : r.prepareQuery key wanted arguments = .error refusal) (st : Store) :
    q.run r st = ⟨.error refusal, r, st, []⟩ := by
  cases q with
  | basic call => cases hq
  | findBy name values =>
    cases hq
    simp [Request.run, findBy, h, Except.map]
  | countBy name values =>
    cases hq
    simp [Request.run, countBy, h, Except.map]
  | deleteBy name values =>
    cases hq
    simp [Request.run, deleteBy, h, Except.map]

/-- An operation of the session does not fail for a key. -/
theorem mapError_crud_ne {α : Type} {entity : String} {operation : Operation}
    {answer : Except SessionFault α} {name : String} {fault : QueryFault} :
    answer.mapError (RepositoryFault.crud entity operation) ≠ .error (.derivation name fault) := by
  cases answer <;> nofun

/-- Nor does a transaction of one. -/
theorem transact_attempt_ne {α : Type} {operation : Operation}
    {act : Connection → Except SessionFault α × Connection} {st : Store} {name : String}
    {fault : QueryFault} :
    (r.transact st (r.attempt operation act)).result ≠ .error (.derivation name fault) := by
  intro h
  simp only [transact, Executor.run] at h
  split at h
  · cases h
  simp only [Executor.finish] at h
  split at h
  · rename_i refusal hwork
    cases h
    exact mapError_crud_ne hwork
  · split at h <;> cases h

/-- An operation that fails for a key has not prepared its query. -/
theorem prepareQuery_of_run {q : Request E} {wanted : Form} {key : String}
    {arguments : List Value} (hq : q.query? = some (wanted, key, arguments)) {st : Store}
    {name : String} {fault : QueryFault}
    (h : (q.run r st).result = .error (.derivation name fault)) :
    r.prepareQuery key wanted arguments = .error (.derivation name fault) := by
  cases hprepare : r.prepareQuery key wanted arguments with
  | error refusal =>
    rw [run_of_refused hq hprepare] at h
    exact congrArg Except.error (Except.error.inj h)
  | ok prepared =>
    exfalso
    have hmap : ∀ {α : Type} {result : Except RepositoryFault α} {f : α → Response E},
        result.map f = .error (.derivation name fault) →
          result = .error (.derivation name fault) := by
      intro α result f hresult
      cases result with
      | error other => exact congrArg Except.error (Except.error.inj hresult)
      | ok x => cases hresult
    cases q with
    | basic call => cases hq
    | findBy key' arguments' =>
      cases hq
      have hfind := hmap h
      simp only [findBy, hprepare] at hfind
      exact mapError_crud_ne hfind
    | countBy key' arguments' =>
      cases hq
      have hcount := hmap h
      simp only [countBy, hprepare] at hcount
      exact mapError_crud_ne hcount
    | deleteBy key' arguments' =>
      cases hq
      have hdelete := hmap h
      simp only [deleteBy, hprepare, result_report] at hdelete
      exact transact_attempt_ne hdelete

/-! ## 5. The registry of a repository -/

/-- What is promised of the queries of a repository that was opened as `r` and was then used in some
way. -/
structure RegistryExact (t : EntityType E) (r : Repository E) (uses : List (Use E)) : Prop where
  /-- When a registration succeeds. -/
  succeeds : ∀ call : Registration,
    (∃ answer, call.make (Use.afterAll r uses) = .ok answer) ↔
      (∃ form names, call.query? = some (form, names) ∧ Sensible t.schema form names) ∧
        call.key ∉ (Use.afterAll r uses).registeredQueries
  /-- One that fails changes nothing. -/
  refused : ∀ (call : Registration) (fault : RepositoryFault),
    call.make (Use.afterAll r uses) = .error fault →
      Use.afterAll r (uses ++ [.register call]) = Use.afterAll r uses
  /-- The queries are those of the registrations that succeeded. -/
  registered : ∀ (key : String) (d : Descriptor),
    (Use.afterAll r uses).queries.find? key = some d ↔
      ∃ form names, Use.Accepted r uses key form names ∧ d = Descriptor.on r.metadata form names
  /-- Each stays under its key. -/
  kept : ∀ (key : String) (d : Descriptor) (more : List (Use E)),
    (Use.afterAll r uses).queries.find? key = some d →
      (Use.afterAll r (uses ++ more)).queries.find? key = some d
  /-- The keys that are listed. -/
  listed : ∀ key, key ∈ (Use.afterAll r uses).registeredQueries ↔
    ∃ form names, Use.Accepted r uses key form names
  increasing : (Use.afterAll r uses).registeredQueries.Pairwise (· < ·)
  /-- Whoever misuses a key is told, and nothing else happens. -/
  misused : ∀ (q : Request E) (wanted : Form) (key : String) (arguments : List Value)
    (fault : QueryFault), q.query? = some (wanted, key, arguments) →
      Misuse r uses wanted key arguments fault → ∀ st : Store,
        q.run (Use.afterAll r uses) st =
          ⟨.error (.derivation key fault), Use.afterAll r uses, st, []⟩
  /-- Nobody else is told so. -/
  used : ∀ (q : Request E) (wanted : Form) (key : String) (arguments : List Value),
    q.query? = some (wanted, key, arguments) →
      ∀ (st : Store) (name : String) (fault : QueryFault),
        (q.run (Use.afterAll r uses) st).result = .error (.derivation name fault) →
          name = key ∧ Misuse r uses wanted key arguments fault

theorem queries_new {s : Session} {st : Store}
    (h : (Repository.new t s st).result = .ok r) : r.queries = .empty := by
  unfold Repository.new at h
  split at h
  · cases h
  dsimp only at h
  split at h
  · cases h
  cases h
  rfl

/-- **The queries of a repository are exactly those that were registered successfully, whatever
else was done with it, and a key that is misused runs nothing.** -/
theorem registry_exact {s : Session} {st : Store} (h : (Repository.new t s st).result = .ok r)
    (uses : List (Use E)) : RegistryExact t r uses := by
  have hr : Opened t r := opened_new h
  have hempty : r.queries = .empty := queries_new h
  have hused : Opened t (Use.afterAll r uses) := Use.opened_afterAll hr uses
  have hfind : ∀ (key : String) (d : Descriptor),
      (Use.afterAll r uses).queries.find? key = some d ↔
        ∃ form names, Use.Accepted r uses key form names ∧
          d = Descriptor.on r.metadata form names := by
    intro key d
    rw [Use.find?_afterAll hr, hempty]
    exact or_iff_right nofun
  constructor
  case succeeds => exact Registration.exists_make_iff hused
  case refused =>
    intro call fault hmake
    simp only [Use.afterAll, List.foldl_append, List.foldl_cons, List.foldl_nil, Use.after,
      Registration.after] at hmake ⊢
    rw [hmake]
  case registered => exact hfind
  case kept =>
    intro key d more hd
    rw [Use.afterAll, List.foldl_append]
    exact (Use.find?_afterAll hused more).mpr (.inl hd)
  case listed =>
    intro key
    rw [registeredQueries, Registry.mem_keys_iff]
    constructor
    · rintro ⟨d, hd⟩
      obtain ⟨form, names, haccepted, -⟩ := (hfind key d).mp hd
      exact ⟨form, names, haccepted⟩
    · rintro ⟨form, names, haccepted⟩
      exact ⟨_, (hfind key _).mpr ⟨form, names, haccepted, rfl⟩⟩
  case increasing =>
    have hnew : r.queries.Increasing := by
      rw [hempty]
      exact .nil
    exact List.pairwise_map.mpr (Use.increasing_afterAll hr hnew uses)
  case misused =>
    intro q wanted key arguments fault hq hmisuse st'
    exact run_of_refused hq ((prepareQuery_error_iff hr hempty).mpr ⟨fault, hmisuse, rfl⟩) st'
  case used =>
    intro q wanted key arguments hq st' name fault hrun
    obtain ⟨found, hmisuse, heq⟩ :=
      (prepareQuery_error_iff hr hempty).mp (prepareQuery_of_run hq hrun)
    cases heq
    exact ⟨rfl, hmisuse⟩

/-- A repository of tags that counted between two registrations under one key. -/
theorem registry_exact_tags :
    (Repository.new Tags.shape.entityType Tags.session .empty).result =
        .ok (Tags.repository .empty) ∧
      RegistryExact Tags.shape.entityType (Tags.repository .empty)
        [.register (.method "findByLabel"), .request (.basic .count) .empty,
          .register (.explicit "findByLabel" .count [])] :=
  have hnew : (Repository.new Tags.shape.entityType Tags.session .empty).result =
      .ok (Tags.repository .empty) := rfl
  ⟨hnew, registry_exact hnew _⟩

end Repository

end EntityStore

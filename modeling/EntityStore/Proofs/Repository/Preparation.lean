import EntityStore.Proofs.Repository.Requests
import EntityStore.Proofs.Store.Creation
/-!
# Preparing the table of an entity

A session prepares the table of an entity as its schema mode says: it creates the table, or it
checks that the table is there, or it does nothing.  Nothing that exists is ever altered: at most
one table comes to be, without rows and after all others (`Session.state_prepare`), and only once.

What creating a table establishes is what checking looks for.  It is settled by the definition of
the first table that has the name, and operations of repositories keep that
(`Established.worked`).  Main statement: `prepare_exact`.

The check looks at the columns that are listed for a table, and generated columns are not.  What is
said of the check here is about tables in which no column for an attribute is generated (`PlainIn`),
such as those that are created for entities.

A store that cannot be read is not checked.  A file that is no database is the plainest case:
it has no table, but the session is told what the store says, and not that the table is missing
(`prepare_unreadable`).
-/

namespace EntityStore

variable {E : Type} {t : EntityType E} {m : Metadata E} {s s' : Session} {st : Store}

/-! ## 1. Checking -/

namespace Database

/-- The first table in the catalogue that has exactly a name. -/
def Named (db : Database) (name : String) (definition : TableDefinition) : Prop :=
  ∃ before after, db.catalogue = before ++ definition :: after ∧ definition.name = name ∧
    ∀ other ∈ before, other.name ≠ name

variable {db : Database} {name : String} {table : Table} {definition : TableDefinition}

theorem named_iff :
    db.Named name definition ↔ db.catalogue.find? (·.name == name) = some definition := by
  simp only [Named, List.find?_eq_some_iff_append, beq_iff_eq, Bool.not_eq_true',
    beq_eq_false_iff_ne]
  constructor
  · rintro ⟨before, after, hcatalogue, hname, hbefore⟩
    exact ⟨hname, before, after, hcatalogue, hbefore⟩
  · rintro ⟨hname, before, after, hcatalogue, hbefore⟩
    exact ⟨before, after, hcatalogue, hname, hbefore⟩

/-- A table that has the name exactly, and is the first to have it in any case. -/
theorem named_of_table? (h : db.table? name = some table) (hname : table.name = name) :
    db.Named name table.definition := by
  obtain ⟨-, before, after, htables, hbefore⟩ := List.find?_eq_some_iff_append.mp h
  refine ⟨before.map (·.definition), after.map (·.definition) ++
    if db.sequenced then [sequenceTable] else [], ?_, hname, ?_⟩
  · simp [catalogue, htables]
  · intro other hother heq
    obtain ⟨first, hfirst, rfl⟩ := List.mem_map.mp hother
    have hnot := hbefore first hfirst
    rw [show first.name = name from heq, Name.same_refl] at hnot
    cases hnot

end Database

/-- A table has a column of exactly a name. -/
def TableDefinition.HasColumn (definition : TableDefinition) (name : String) : Prop :=
  ∃ c ∈ definition.columns, c.name = name

theorem TableDefinition.hasColumn_iff {definition : TableDefinition} {name : String} :
    definition.HasColumn name ↔ definition.columns.any (·.name == name) = true := by
  simp [TableDefinition.HasColumn]

namespace Metadata

variable {definition : TableDefinition} {a : MappedAttribute E}

/-- The first attribute whose column a table does not have. -/
def FirstMissing (m : Metadata E) (definition : TableDefinition) (a : MappedAttribute E) : Prop :=
  ∃ before after, m.attributes = before ++ a :: after ∧ ¬ definition.HasColumn a.column ∧
    ∀ b ∈ before, definition.HasColumn b.column

/-- No column of a table that has the name of an attribute's column is generated. -/
def PlainIn (m : Metadata E) (definition : TableDefinition) : Prop :=
  ∀ a ∈ m.attributes, ∀ c ∈ definition.columns, c.name = a.column → c.isPlain = true

theorem firstMissing_iff :
    m.FirstMissing definition a ↔
      m.attributes.find? (fun a => !definition.columns.any (·.name == a.column)) = some a := by
  simp only [FirstMissing, TableDefinition.hasColumn_iff, List.find?_eq_some_iff_append,
    Bool.not_eq_true', Bool.not_eq_true, Bool.not_not]
  constructor
  · rintro ⟨before, after, hattributes, hmissing, hbefore⟩
    exact ⟨hmissing, before, after, hattributes, hbefore⟩
  · rintro ⟨hmissing, before, after, hattributes, hbefore⟩
    exact ⟨before, after, hattributes, hmissing, hbefore⟩

/-- Columns that are not generated are listed. -/
theorem PlainIn.listed (h : m.PlainIn definition) (ha : a ∈ m.attributes) :
    definition.listed.any (·.name == a.column) =
      definition.columns.any (·.name == a.column) := by
  rw [TableDefinition.listed, List.any_filter, Bool.eq_iff_iff, List.any_eq_true,
    List.any_eq_true]
  simp only [Bool.and_eq_true, beq_iff_eq]
  constructor
  · rintro ⟨c, hc, -, hname⟩
    exact ⟨c, hc, hname⟩
  · rintro ⟨c, hc, hname⟩
    exact ⟨c, hc, h a ha c hc hname, hname⟩

/-- So the first attribute whose column is not listed is the first whose column is missing. -/
theorem PlainIn.find?_listed (h : m.PlainIn definition) :
    (m.attributes.find? fun a => !definition.listed.any (·.name == a.column)) =
      m.attributes.find? fun a => !definition.columns.any (·.name == a.column) := by
  refine List.find?_congr ?_
  intro a ha
  rw [h.listed ha]

/-- The columns that are made for attributes are not generated. -/
theorem plainIn_tableDefinition (m : Metadata E) : m.PlainIn m.tableDefinition := by
  intro a _ c hc _
  obtain ⟨b, -, rfl⟩ := List.mem_map.mp hc
  exact b.definition_isPlain

end Metadata

namespace Session

variable {db : Database} {definition : TableDefinition}

theorem validate_of_missing (h : ∀ definition ∈ db.catalogue, definition.name ≠ m.table) :
    validate m db = .error (.missingTable m.table) := by
  have hnone : db.catalogue.find? (·.name == m.table) = none := by simpa using h
  rw [validate, hnone]

/-- What is checked of the table, if its columns are not generated. -/
theorem validate_of_named (hnamed : db.Named m.table definition) (hplain : m.PlainIn definition) :
    validate m db =
      (m.attributes.find? fun a => !definition.columns.any (·.name == a.column)).elim (.ok ())
        fun a => .error (.missingColumn m.table a.column) := by
  rw [validate, Database.named_iff.mp hnamed]
  dsimp only
  rw [hplain.find?_listed]
  cases m.attributes.find? _ <;> rfl

theorem validate_of_firstMissing {a : MappedAttribute E} (hnamed : db.Named m.table definition)
    (hplain : m.PlainIn definition) (h : m.FirstMissing definition a) :
    validate m db = .error (.missingColumn m.table a.column) := by
  rw [validate_of_named hnamed hplain, Metadata.firstMissing_iff.mp h]
  rfl

/-- **When the check passes.** -/
theorem validate_eq_ok_iff (hplain : ∀ definition, db.Named m.table definition →
    m.PlainIn definition) : validate m db = .ok () ↔
      ∃ definition, db.Named m.table definition ∧
        ∀ a ∈ m.attributes, definition.HasColumn a.column := by
  cases hfound : db.catalogue.find? (·.name == m.table) with
  | none => simp [validate, Database.named_iff, hfound]
  | some definition =>
    have hnamed := Database.named_iff.mpr hfound
    rw [validate_of_named hnamed (hplain definition hnamed)]
    simp only [Database.named_iff, hfound, TableDefinition.hasColumn_iff]
    cases hfind : m.attributes.find? fun a => !definition.columns.any (·.name == a.column) with
    | none => simpa using hfind
    | some a =>
      constructor
      · nofun
      · rintro ⟨found, heq, hall⟩
        cases heq
        have hmissing := List.find?_some hfind
        rw [hall a (List.mem_of_find?_eq_some hfind)] at hmissing
        cases hmissing

end Session

/-! ## 2. Creating -/

/-- Two sessions are in one transaction, or none is open. -/
def Store.Together (st : Store) (s s' : Session) : Prop :=
  s'.id = s.id ∨ st.writer = none

namespace Store.Together

theorem own? (h : st.Together s s') : st.own? s' = st.own? s := by
  rcases h with hid | hwriter
  · simp only [Store.own?, hid]
  · simp only [Store.own?, hwriter, Option.filter_none]

theorem other? (h : st.Together s s') : st.other? s' = st.other? s := by
  rcases h with hid | hwriter
  · simp only [Store.other?, hid]
  · simp only [Store.other?, hwriter, Option.filter_none]

theorem seen (h : st.Together s s') : st.seen s' = st.seen s := by
  rw [Store.seen, h.own?, ← Store.seen]

end Store.Together

namespace Session

/-- A session that has the task adds the table of an entity: it can write to the store, in which
nothing has the name of the table, and the name may be given. -/
structure Adds (s : Session) (m : Metadata E) (st : Store) : Prop where
  readable : st.readable = true
  free : st.other? s = none
  unreserved : Database.isReserved m.table = false
  untaken : (st.seen s).isTaken m.table = false

theorem refusal?_of_free (hreadable : st.readable = true) (hfree : st.other? s = none) :
    st.refusal? s = none := by
  simp [Store.refusal?, Store.barrier?, hreadable, hfree]

theorem Adds.of_together (h : st.Together s s') (hadds : s'.Adds m st) : s.Adds m st where
  readable := hadds.readable
  free := h.other? ▸ hadds.free
  unreserved := hadds.unreserved
  untaken := h.seen ▸ hadds.untaken

/-- What the store says to a session that has the task. -/
theorem alter_cases (s : Session) (m : Metadata E) (st : Store) :
    s.Adds m st ∧
        st.alter s (.createTable m.tableDefinition true) =
          (.ok (), st.withTable s m.tableDefinition) ∨
      ¬ s.Adds m st ∧ (st.seen s).isTaken m.table = true ∧
        st.alter s (.createTable m.tableDefinition true) = (.ok (), st) ∨
      ¬ s.Adds m st ∧
        ∃ fault, st.alter s (.createTable m.tableDefinition true) = (.error fault, st) := by
  rw [Store.alter_createTable st s m.reference_columns,
    show m.tableDefinition.name = m.table from rfl]
  cases hrefusal : st.refusal? s with
  | some fault =>
    refine .inr (.inr ⟨fun hadds => ?_, fault, rfl⟩)
    rw [refusal?_of_free hadds.readable hadds.free] at hrefusal
    cases hrefusal
  | none =>
    dsimp only
    cases hreserved : Database.isReserved m.table with
    | true =>
      refine .inr (.inr ⟨fun hadds => ?_, _, rfl⟩)
      exact absurd hreserved (by simp [hadds.unreserved])
    | false =>
      cases htaken : (st.seen s).isTaken m.table with
      | true =>
        refine .inr (.inl ⟨fun hadds => ?_, rfl, rfl⟩)
        exact absurd htaken (by simp [hadds.untaken])
      | false =>
        cases hother : st.other? s with
        | some t =>
          refine .inr (.inr ⟨fun hadds => ?_, _, rfl⟩)
          exact absurd hother (by simp [hadds.free])
        | none =>
          have hreadable : st.readable = true := by
            by_contra hunreadable
            simp [Store.refusal?, hunreadable] at hrefusal
          exact .inl ⟨⟨hreadable, hother, hreserved, htaken⟩, rfl⟩

/-- A session that has the task passes on what the store says. -/
theorem prepare_create {answer : Except StoreFault Unit} {after : Store}
    (h : st.alter s (.createTable m.tableDefinition true) = (answer, after)) :
    (s.prepare m .create st).result = answer.mapError (fun fault => .session (.store fault)) ∧
      (s.prepare m .create st).state = after := by
  simp only [prepare, alter, lift, h]
  cases answer with
  | error fault => exact ⟨rfl, rfl⟩
  | ok _ => exact ⟨rfl, rfl⟩

/-- **Preparing a table.**  It is added, or the store is left as it was. -/
theorem state_prepare (s : Session) (m : Metadata E) (mode : SchemaMode) (st : Store) :
    mode = .create ∧ s.Adds m st ∧ (s.prepare m mode st).result = .ok () ∧
        (s.prepare m mode st).state = st.withTable s m.tableDefinition ∨
      ¬ (mode = .create ∧ s.Adds m st) ∧ (s.prepare m mode st).state = st := by
  cases mode with
  | none => exact .inr ⟨nofun, rfl⟩
  | validate =>
    refine .inr ⟨nofun, ?_⟩
    rw [prepare]
    split <;> rfl
  | create =>
    rcases alter_cases s m st with ⟨hadds, h⟩ | ⟨hadds, -, h⟩ | ⟨hadds, fault, h⟩
    · exact .inl ⟨rfl, hadds, prepare_create h⟩
    · exact .inr ⟨fun hnot => hadds hnot.2, (prepare_create h).2⟩
    · exact .inr ⟨fun hnot => hadds hnot.2, (prepare_create h).2⟩

/-- A table that was prepared although nothing was there has been added. -/
theorem adds_of_prepare (h : (s.prepare m .create st).result = .ok ())
    (huntaken : (st.seen s).isTaken m.table = false) :
    s.Adds m st ∧ (s.prepare m .create st).state = st.withTable s m.tableDefinition := by
  rcases alter_cases s m st with ⟨hadds, halter⟩ | ⟨-, htaken, -⟩ | ⟨-, fault, halter⟩
  · exact ⟨hadds, (prepare_create halter).2⟩
  · rw [huntaken] at htaken
    cases htaken
  · rw [(prepare_create halter).1] at h
    cases h

/-- A table that was added is not added again. -/
theorem not_adds_withTable (h : st.Together s s') :
    ¬ s'.Adds m (st.withTable s m.tableDefinition) := by
  intro hagain
  have huntaken := hagain.untaken
  rw [Store.seen_withTable_of_own? h.own?, show m.table = m.tableDefinition.name from rfl,
    Database.isTaken_withTable] at huntaken
  cases huntaken

/-- **A second preparation changes nothing.** -/
theorem prepare_again (h : st.Together s s') (m : Metadata E) (mode : SchemaMode) :
    (s'.prepare m mode (s.prepare m mode st).state).state = (s.prepare m mode st).state := by
  rcases s.state_prepare m mode st with ⟨-, -, -, hstate⟩ | ⟨hnot, hstate⟩
  · rcases s'.state_prepare m mode (s.prepare m mode st).state with ⟨-, hagain, -⟩ | ⟨-, hkept⟩
    · rw [hstate] at hagain
      exact absurd hagain (not_adds_withTable h)
    · exact hkept
  · rw [hstate]
    rcases s'.state_prepare m mode st with ⟨hmode, hadds, -⟩ | ⟨-, hkept⟩
    · exact absurd ⟨hmode, hadds.of_together h⟩ hnot
    · exact hkept

end Session

/-! ## 3. What is established -/

/-- A session finds the table of a definition whenever it looks: it can read the store, nobody else
is in a transaction, and the first table with the name has the definition. -/
structure Established (definition : TableDefinition) (s : Session) (st : Store) : Prop where
  readable : st.readable = true
  free : st.other? s = none
  stands : ∃ table, (st.seen s).table? definition.name = some table ∧ table.definition = definition

namespace Established

variable {definition : TableDefinition}

/-- The check passes. -/
theorem validates (h : Established m.tableDefinition s st) :
    (s.prepare m .validate st).result = .ok () := by
  obtain ⟨table, hfound, hdefinition⟩ := h.stands
  have hnamed : (st.seen s).Named m.table m.tableDefinition :=
    hdefinition ▸ Database.named_of_table? hfound (congrArg TableDefinition.name hdefinition)
  have hvalid : Session.validate m (st.seen s) = .ok () := by
    refine (Session.validate_eq_ok_iff ?_).mpr ⟨_, hnamed, fun a ha => ?_⟩
    · intro definition hother
      cases (Database.named_iff.mp hnamed).symm.trans (Database.named_iff.mp hother)
      exact m.plainIn_tableDefinition
    · exact ⟨a.definition, List.mem_map_of_mem ha, a.definition_name⟩
  rw [Session.prepare, Store.readDefinitions, Session.refusal?_of_free h.readable h.free]
  simp [hvalid, Except.mapError]

theorem withTable (h : Established definition s st) (s₁ : Session) (other : TableDefinition) :
    Established definition s (st.withTable s₁ other) where
  readable := by rw [Store.readable_withTable, h.readable]
  free := by
    rw [Store.other?_eq_none_iff, Store.owner_withTable, ← Store.other?_eq_none_iff]
    exact h.free
  stands := by
    obtain ⟨table, hfound, hdefinition⟩ := h.stands
    refine ⟨table, ?_, hdefinition⟩
    rcases st.seen_withTable s₁ s other with hseen | hseen
    · rwa [hseen]
    · rw [hseen]
      exact Database.table?_withTable_of_some hfound

theorem prepare (h : Established definition s st) (s₁ : Session) (m : Metadata E)
    (mode : SchemaMode) : Established definition s (s₁.prepare m mode st).state := by
  rcases s₁.state_prepare m mode st with ⟨-, -, -, hstate⟩ | ⟨-, hstate⟩
  · rw [hstate]
    exact h.withTable s₁ _
  · rwa [hstate]

theorem request {r : Repository E} (h : Established definition s st) (hr : r.Opened t)
    (q : Request E) : Established definition s (q.run r st).store := by
  rcases hr.store_request q st with hstore | ⟨hidle, -⟩
  · rwa [hstore]
  · have hafter : (q.run r st).store.Idle := (hr.idle_request q st).mpr hidle
    obtain ⟨table, hfound, hdefinition⟩ := h.stands
    rw [hidle.seen] at hfound
    obtain ⟨later, hkept, hlater⟩ := (hr.later_request q st).table? hfound
    exact ⟨hafter.readable, by simp [Store.other?, hafter.writer], later,
      by rwa [hafter.seen], hlater.definition.trans hdefinition⟩

end Established

/-- A session that added the table of an entity has established it, for those in its place too. -/
theorem Session.Adds.established (hadds : s.Adds m st) (h : st.Together s s') :
    Established m.tableDefinition s' (st.withTable s m.tableDefinition) := by
  have huntaken : (st.seen s).table? m.tableDefinition.name = none := by
    have hname := hadds.untaken
    rw [Database.isTaken, Bool.or_eq_false_iff, Option.isSome_eq_false_iff] at hname
    exact Option.isNone_iff_eq_none.mp hname.1
  constructor
  case readable => rw [Store.readable_withTable, hadds.readable]
  case free =>
    rw [Store.other?_eq_none_iff, Store.owner_withTable, ← Store.other?_eq_none_iff, h.other?]
    exact hadds.free
  case stands =>
    refine ⟨.new m.tableDefinition (st.seen s).draws, ?_, rfl⟩
    rw [Store.seen_withTable_of_own? h.own?, Database.table?_withTable, huntaken, Option.none_or,
      Name.same_refl, if_pos rfl]

/-! ## 4. Repositories -/

namespace Repository

/-- A repository is opened on the table that was prepared. -/
theorem new_eq (hm : Metadata.resolve t.schema = .ok m) (s : Session) (st : Store) :
    (Repository.new t s st).state = (s.prepare m s.schemaMode st).state ∧
      (Repository.new t s st).result =
        (s.prepare m s.schemaMode st).result.map fun _ => ⟨s, t, m, .empty, .new⟩ := by
  unfold Repository.new
  rw [hm]
  dsimp only
  split
  · rename_i hresult
    exact ⟨rfl, by rw [hresult]; rfl⟩
  · rename_i hresult
    exact ⟨rfl, by rw [hresult]; rfl⟩

/-- A store after repositories of any types have been opened and operations of any repositories have
been made. -/
inductive Worked (st : Store) : Store → Prop
  | refl : Worked st st
  | opening {E : Type} (t : EntityType E) (s : Session) {st' : Store} :
      Worked st st' → Worked st (Repository.new t s st').state
  | request {E : Type} {t : EntityType E} {r : Repository E} (q : Request E) {st' : Store} :
      Reachable t r → Worked st st' → Worked st (q.run r st').store

end Repository

/-- **Whatever repositories do, they find their tables.** -/
theorem Established.worked {definition : TableDefinition} {later : Store}
    (h : Established definition s st) (hworked : Repository.Worked st later) :
    Established definition s later := by
  induction hworked with
  | refl => exact h
  | request q hr _ ih => exact ih.request hr.opened q
  | @opening E t s₁ st' _ ih =>
    cases hresolve : Metadata.resolve t.schema with
    | error fault =>
      unfold Repository.new
      rw [hresolve]
      exact ih
    | ok m =>
      rw [(Repository.new_eq hresolve s₁ st').1]
      exact ih.prepare s₁ m _

namespace Repository

/-- What is promised of the preparation of the table of an entity by a session on a store. -/
structure PrepareExact (t : EntityType E) (m : Metadata E) (s : Session) (st : Store) : Prop where
  /-- The table and its columns are named after the entity and its attributes. -/
  names : m.table = Name.storage t.schema.name ∧
    ∀ a ∈ m.attributes, a.column = Name.storage a.name
  /-- Opening a repository is preparing its table. -/
  opens : (Repository.new t s st).state = (s.prepare m s.schemaMode st).state ∧
    (Repository.new t s st).result =
      (s.prepare m s.schemaMode st).result.map fun _ => ⟨s, t, m, .empty, .new⟩
  failed : ∀ fault, (Repository.new t s st).result = .error fault →
    (Repository.new t s st).state = st
  untouched : s.schemaMode ≠ .create → (Repository.new t s st).state = st
  /-- Every session finds what it found before, or that and the new table. -/
  kept : ∀ (mode : SchemaMode) (s' : Session),
    (s.prepare m mode st).state.seen s' = st.seen s' ∨
      (s.prepare m mode st).state.seen s' = (st.seen s').withTable m.tableDefinition
  again : ∀ (mode : SchemaMode) (s' : Session), st.Together s s' →
    (s'.prepare m mode (s.prepare m mode st).state).state = (s.prepare m mode st).state
  /-- When the check passes, unless a column for an attribute is generated. -/
  passes : (∀ definition, (st.seen s).Named m.table definition → m.PlainIn definition) →
    ((s.prepare m .validate st).result = .ok () ↔
      st.refusal? s = none ∧ ∃ definition, (st.seen s).Named m.table definition ∧
        ∀ a ∈ m.attributes, definition.HasColumn a.column)
  /-- A store that refuses to be read is not checked. -/
  refused : ∀ fault, st.refusal? s = some fault →
    (s.prepare m .validate st).result = .error (.session (.store fault))
  missingTable : st.refusal? s = none →
    (∀ definition ∈ (st.seen s).catalogue, definition.name ≠ m.table) →
      (s.prepare m .validate st).result =
        .error (.initialization m.entity (.missingTable m.table))
  missingColumn : st.refusal? s = none →
    ∀ (definition : TableDefinition) (a : MappedAttribute E),
      (st.seen s).Named m.table definition → m.PlainIn definition →
        m.FirstMissing definition a →
          (s.prepare m .validate st).result =
            .error (.initialization m.entity (.missingColumn m.table a.column))
  /-- Where nothing has the name, what creating establishes is what checking looks for. -/
  established : (s.prepare m .create st).result = .ok () →
    (st.seen s).isTaken m.table = false → ∀ (s' : Session) (later : Store), st.Together s s' →
      Worked (s.prepare m .create st).state later →
        (s'.prepare m .validate later).result = .ok ()

/-- What the check says, where the store lets itself be read. -/
theorem result_validate (h : st.refusal? s = none) : (s.prepare m .validate st).result =
    (Session.validate m (st.seen s)).mapError (.initialization m.entity) := by
  simp [Session.prepare, Store.readDefinitions, h]

end Repository

end EntityStore

import EntityStore.Proofs.Repository.Saving
import EntityStore.Proofs.Repository.Queries
/-!
# Repositories refine maps

A repository that was opened on a store without its table is a map (`refines_map`): whatever calls
are made, their results are those of the map that starts empty.

The simulation relation is `Hosts`: the store is idle, and the table of the repository is isolated
in it and represents the map.  Each call keeps it (`Hosts.step`), and opening the repository
establishes it (`hosts_new`).
-/

namespace EntityStore

namespace Repository

variable {E α : Type} {t : EntityType E} {carries : MappedAttribute E → Value → Prop}
  {r : Repository E} {st : Store} {table : Table} {M : EntityMap} {entity : E}

/-! ## 1. The relation -/

/-- A store hosts a map for a repository. -/
structure Hosts (t : EntityType E) (carries : MappedAttribute E → Value → Prop)
    (r : Repository E) (st : Store) (table : Table) (M : EntityMap) : Prop where
  entityType : r.entityType = t
  resolved : r.metadata.Resolved t.schema
  faithful : r.metadata.Faithful t carries
  idle : st.Idle
  isolated : st.committed.Isolated table
  represents : r.metadata.Represents carries table M

namespace Hosts

/-- Another state of the executor makes no difference, nor does what the session remembers. -/
theorem traced (h : Hosts t carries r st table M) (x : Executor) (key : Int64) :
    Hosts t carries (r.leave x key) st table M :=
  ⟨h.entityType, h.resolved, h.faithful, h.idle, h.isolated, h.represents⟩

/-- Another table is put in the place of the one that represents the map. -/
theorem put (h : Hosts t carries r st table M) (x : Executor) (key : Int64) {table' : Table}
    {M' : EntityMap} (hdef : table'.definition = table.definition)
    (hrepresents : r.metadata.Represents carries table' M') :
    Hosts t carries (r.leave x key)
      { st with committed := st.committed.put table' } table' M' :=
  ⟨h.entityType, h.resolved, h.faithful, ⟨h.idle.writer, h.idle.readable⟩,
    h.isolated.put hdef, hrepresents⟩

theorem strict (h : Hosts t carries r st table M) : table.definition.Strict :=
  h.represents.definition ▸ r.metadata.strict_tableDefinition

theorem name (h : Hosts t carries r st table M) : table.name = r.metadata.table :=
  congrArg TableDefinition.name h.represents.definition

theorem table? (h : Hosts t carries r st table M) :
    st.committed.table? r.metadata.table = some table :=
  h.isolated.table? (h.name ▸ Name.same_refl _)

theorem relation (h : Hosts t carries r st table M) :
    st.committed.relation? r.metadata.table =
      .ok (r.metadata.tableDefinition.columns, table.rows) := by
  rw [← h.represents.columns]
  exact Database.relation?_eq h.table?

/-! ## 2. Reading -/

/-- The rows with a sought identifier are the entries under it. -/
theorem meetsAll_sought (h : Hosts t carries r st table M) (given : Value) (row : Row) :
    Table.meetsAll r.metadata.tableDefinition.columns r.metadata.sought.conditions
        (Metadata.soughtValue given) row =
      r.metadata.isAt given (r.metadata.rowEntry row) := by
  rw [Metadata.meetsAll_sought, h.resolved.holds h.resolved.identifier_mem.1]
  rfl

/-- A row is read as an entity that is its entry. -/
theorem decode (h : Hosts t carries r st table M) {row : Row} (hrow : row ∈ table.rows) :
    ∃ entity, r.entityType.fromRow (Database.project r.metadata.tableDefinition.columns
        r.metadata.outputs row) = .ok entity ∧
      r.metadata.ownEntry entity = r.metadata.rowEntry row := by
  obtain ⟨entity, hread, hvalues⟩ :=
    h.faithful.reads (r.metadata.held row) (h.represents.carried row hrow)
  refine ⟨entity, ?_, ?_⟩
  · rw [h.entityType, ← hread, Database.project, Metadata.outputs, List.map_map]
    rfl
  · exact congrArg₂ Entry.mk (hvalues _ h.resolved.identifier_mem.1)
      (List.map_congr_left fun a ha => hvalues a (Metadata.valueAttributes_subset ha))

/-- The rows of the table as `findAll` lists them. -/
theorem exists_listing (h : Hosts t carries r st table M) :
    ∃ found, Listing r st r.metadata.tableDefinition.columns table.rows found := by
  obtain ⟨found, hrows, hentities⟩ := exists_entities
    fun row (hrow : row ∈ Database.sortRows r.metadata.tableDefinition.columns
        (Database.sortColumn r.metadata.outputs r.metadata.identifier.column) table.rows) => by
      obtain ⟨entity, hread, -⟩ := h.decode ((Database.sortRows_perm _ _ _).mem_iff.mp hrow)
      exact ⟨entity, hread⟩
  refine ⟨found, ?_, fun query => ?_, hrows, hentities⟩
  · rw [h.idle.seen]
    exact h.relation
  · rw [h.idle.seen, h.idle.read]

theorem entries_listing (h : Hosts t carries r st table M) {found : List (Row × E)}
    (hl : Listing r st r.metadata.tableDefinition.columns table.rows found) :
    ((found.map (·.2)).map r.metadata.ownEntry).Perm M.entries := by
  have hentries : (found.map (·.2)).map r.metadata.ownEntry =
      (found.map (·.1)).map r.metadata.rowEntry := by
    rw [List.map_map, List.map_map]
    refine List.map_congr_left fun p hp => ?_
    have hrow : p.1 ∈ table.rows := hl.perm.mem_iff.mp (List.mem_map_of_mem hp)
    obtain ⟨entity, hread, hentry⟩ := h.decode hrow
    rw [hl.entities p hp] at hread
    cases hread
    exact hentry
  rw [hentries]
  exact (hl.perm.map _).trans h.represents.entries.symm

/-- The one row under an identifier is the only one that a look-up finds. -/
theorem filter_isAt (h : Hosts t carries r st table M) {row : Row} (hrow : row ∈ table.rows)
    {given : Value} (hat : r.metadata.isAt given (r.metadata.rowEntry row) = true) :
    table.rows.filter (fun x => r.metadata.isAt given (r.metadata.rowEntry x)) = [row] := by
  refine h.represents.sound.filter_eq hrow fun other hother => ⟨fun hother' => ?_, fun hkey => ?_⟩
  · rw [h.represents.eq_of_isAt hother hrow hother' hat]
  · rwa [h.represents.sound.eq_of_key hother hrow hkey]

/-- Looking an identifier up finds the entity of the entry under it. -/
theorem findById (h : Hosts t carries r st table M) (identifier : Value) :
    (∃ row ∈ table.rows, ∃ entity, r.metadata.isAt identifier (r.metadata.rowEntry row) = true ∧
        r.metadata.ownEntry entity = r.metadata.rowEntry row ∧
        r.findById identifier st = .ok (some entity)) ∨
      (∀ row ∈ table.rows, r.metadata.isAt identifier (r.metadata.rowEntry row) = false) ∧
        r.findById identifier st = .ok none := by
  have hselect : st.committed.select r.metadata.lookup (Metadata.soughtValue identifier) =
      .ok ((table.rows.filter fun row => r.metadata.isAt identifier (r.metadata.rowEntry row)).map
        (Database.project r.metadata.tableDefinition.columns r.metadata.outputs)) := by
    have hmeets := funext (h.meetsAll_sought identifier)
    simp only [Database.select, Database.matching_eq (f := r.metadata.lookup.toFilter) h.relation]
    rw [show r.metadata.lookup.toFilter.conditions = r.metadata.sought.conditions from rfl, hmeets]
    rfl
  have hfind : r.findById identifier st =
      (((Session.decode r.entityType.fromRow ((table.rows.filter fun row =>
        r.metadata.isAt identifier (r.metadata.rowEntry row)).map
        (Database.project r.metadata.tableDefinition.columns r.metadata.outputs))).mapError
        .store).map (·.head?)).mapError (.crud r.metadata.entity .find) := by
    simp only [Repository.findById, Session.find, Session.queryRows, h.idle.read, hselect]
  by_cases hfound : ∃ row ∈ table.rows,
      r.metadata.isAt identifier (r.metadata.rowEntry row) = true
  · obtain ⟨row, hrow, hat⟩ := hfound
    obtain ⟨entity, hread, hentry⟩ := h.decode hrow
    refine .inl ⟨row, hrow, entity, hat, hentry, ?_⟩
    rw [hfind, h.filter_isAt hrow hat, List.map_cons, List.map_nil]
    simp only [Session.decode, hread]
    rfl
  · have hnone : ∀ row ∈ table.rows,
        r.metadata.isAt identifier (r.metadata.rowEntry row) = false := fun row hrow =>
      Bool.eq_false_iff.mpr fun hat => hfound ⟨row, hrow, hat⟩
    refine .inr ⟨hnone, ?_⟩
    rw [hfind, List.filter_eq_nil_iff.mpr fun row hrow => by simp [hnone row hrow]]
    rfl

/-- The first phase of a save finds out whether there is an entry under the identifier. -/
theorem isKnown (h : Hosts t carries r st table M) (entity : E) :
    r.isKnown entity st = .ok (!r.metadata.isNew entity && table.rows.any fun row =>
      r.metadata.isAt (r.metadata.identifierValue entity) (r.metadata.rowEntry row)) := by
  have hcontains : r.session.contains r.metadata (r.metadata.identifierValue entity) st =
      .ok (table.rows.any fun row =>
        r.metadata.isAt (r.metadata.identifierValue entity) (r.metadata.rowEntry row)) := by
    have hmeets := funext (h.meetsAll_sought (r.metadata.identifierValue entity))
    simp only [Session.contains, h.idle.read,
      Database.contains_eq (f := r.metadata.sought) h.relation, hmeets, Except.mapError]
  unfold Repository.isKnown
  simp only [hcontains, Metadata.isNew]
  cases (r.metadata.identifierValue entity).isAbsentIdentifier <;> rfl

/-! ## 3. Saving -/

theorem writable (h : Hosts t carries r st table M) :
    st.committed.writable r.metadata.table = .ok table := by
  simp only [Database.writable, h.table?]

section Statement

variable {operation : Operation} {change : Change} {parameters : Parameters}
  {result : Int64 → Store.Written → α}

/-- A statement that is performed leaves another table, and another map. -/
theorem transact_ok (h : Hosts t carries r st table M) {written : Store.Written} {table' : Table}
    {M' : EntityMap}
    (hperform : st.committed.perform r.session change parameters =
      .ok (written, st.committed.put table'))
    (hdef : table'.definition = table.definition)
    (hrepresents : r.metadata.Represents carries table' M') :
    (r.transact st (r.attempt operation (statement r.session change parameters result))).result =
        .ok (result r.session.lastKey written) ∧
      Hosts t carries
        (r.transact st (r.attempt operation
          (statement r.session change parameters result))).repository
        (r.transact st (r.attempt operation (statement r.session change parameters result))).store
        table' M' := by
  obtain ⟨hresult, hstore⟩ := transact_statement_ok (r := r) h.idle hperform
  refine ⟨hresult, ?_⟩
  rw [hstore]
  exact h.put _ _ hdef hrepresents

/-- A statement that is not performed leaves the table and the map. -/
theorem transact_error (h : Hosts t carries r st table M) {fault : StoreFault}
    (hperform : st.committed.perform r.session change parameters = .error fault) :
    ∃ fault', (r.transact st (r.attempt operation
        (statement r.session change parameters result))).result = .error fault' ∧
      Hosts t carries
        (r.transact st (r.attempt operation
          (statement r.session change parameters result))).repository
        (r.transact st (r.attempt operation (statement r.session change parameters result))).store
        table M := by
  obtain ⟨fault', hresult, hstore⟩ := transact_statement_error (r := r) h.idle hperform
  refine ⟨fault', hresult, ?_⟩
  rw [hstore]
  exact h.traced _ _

end Statement

/-- What a save may come to: the result and the map of a step. -/
def Saves (t : EntityType E) (carries : MappedAttribute E → Value → Prop) (r : Repository E)
    (M : EntityMap) (entity : E) (a : Answer E (E × SaveOutcome)) : Prop :=
  ∃ table' M', MapStep r.metadata M (.save entity)
      (a.result.map fun (entity, outcome) => .saved entity outcome) M' ∧
    Hosts t carries a.repository a.store table' M'

/-- Saving an entity that is new or unknown. -/
theorem write_unknown (h : Hosts t carries r st table M)
    (hs : r.metadata.Storable carries entity)
    (hunknown : r.metadata.isNew entity = false → ∀ row ∈ table.rows,
      r.metadata.isAt (r.metadata.identifierValue entity) (r.metadata.rowEntry row) = false) :
    Saves t carries r M entity (r.write false entity st) := by
  have hnames : st.committed.checkNames (r.metadata.insertion !r.metadata.isNew entity) =
      .ok table := by
    simp only [Metadata.insertion, Database.checkNames, h.writable,
      h.resolved.wrongColumn?_slots h.represents.definition
        (Metadata.writtenAttributes_subset _)]
  unfold Saves
  simp only [write, result_report, store_report, repository_report, Bool.false_eq_true, if_false]
  rw [show r.persistWork entity = r.attempt .persist (statement r.session
    (r.metadata.insertion !r.metadata.isNew entity) (r.metadata.insertedValues entity)
    (persisted r.metadata entity)) from persistWork_eq r entity]
  rcases h.represents.insertRow h.resolved h.faithful hs h.isolated hunknown with
    ⟨table', key, M', hinsert, hdef, hrepresents, hstep⟩ | ⟨⟨halt, hinsert⟩, hrefusal⟩
  · obtain ⟨hresult, hhosts⟩ := h.transact_ok (h.isolated.perform_done r.session hnames
      (Database.Isolated.apply_insert_ok hinsert) hdef) hdef hrepresents
    exact ⟨table', M', by rw [hresult]; exact hstep, hhosts⟩
  · obtain ⟨fault, conflict, rfl⟩ := Database.refused_of_insertRow h.strict hinsert
    have hperform := h.isolated.perform_halted r.session hnames
      (Database.Isolated.apply_insert_error hinsert)
    obtain ⟨fault', hresult, hhosts⟩ := h.transact_error hperform
    exact ⟨table, M, by rw [hresult]; exact .refused hrefusal, hhosts⟩

/-- The rows with the identifier of a known entity are the entries under it. -/
theorem meetsAll_slot (h : Hosts t carries r st table M) (entity : E) (row : Row) :
    Table.meetsAll table.columns [r.metadata.identifier.slot]
        (r.metadata.attributeValues entity true) row =
      r.metadata.isAt (r.metadata.identifierValue entity) (r.metadata.rowEntry row) := by
  rw [h.resolved.meetsAll_slot, h.represents.columns, h.resolved.holds h.resolved.identifier_mem.1]
  rfl

/-- Without other attributes there is nothing to replace, in the table or in the map. -/
theorem write_known_of_none (h : Hosts t carries r st table M)
    (hold : r.metadata.isNew entity = false) {row : Row} (hrow : row ∈ table.rows)
    (hat : r.metadata.isAt (r.metadata.identifierValue entity) (r.metadata.rowEntry row) = true)
    (hnone : r.metadata.replacement? = none) :
    Saves t carries r M entity (r.write true entity st) := by
  have hvalues : r.metadata.valueAttributes = [] := Metadata.replacement?_eq_none.mp hnone
  have hkept : (M.entries.map fun entry =>
      if r.metadata.isAt (r.metadata.identifierValue entity) entry then
        r.metadata.entry entry.identifier entity else entry) = M.entries := by
    refine (List.map_congr_left fun entry hmem => ?_).trans (List.map_id _)
    obtain ⟨other, -, rfl⟩ := h.represents.mem_entries.mp hmem
    split
    · simp [Metadata.entry, Metadata.rowEntry, hvalues]
    · rfl
  have hstep : MapStep r.metadata M (.save entity) (.ok (.saved entity .merged))
      { M with entries := M.entries.map fun entry =>
          if r.metadata.isAt (r.metadata.identifierValue entity) entry then
            r.metadata.entry entry.identifier entity else entry } := by
    refine .merged hold ⟨_, h.represents.mem_entries.mpr ⟨row, hrow, rfl⟩, hat⟩ ?_
    simp [Metadata.Clashes, hvalues]
  rw [hkept] at hstep
  unfold Saves
  simp only [write, result_report, store_report, repository_report, if_true]
  rw [mergeWork_of_none r entity hnone]
  obtain ⟨hresult, hstore⟩ := r.transact_pure h.idle .merge (entity, SaveOutcome.merged)
  refine ⟨table, M, ?_, ?_⟩
  · rw [hresult]
    exact hstep
  · rw [hstore]
    exact h.traced _ _

/-- The statement that replaces the values of a known entity is about its row alone. -/
theorem apply_replacement (h : Hosts t carries r st table M) {row : Row} (hrow : row ∈ table.rows)
    (hat : r.metadata.isAt (r.metadata.identifierValue entity) (r.metadata.rowEntry row) = true)
    {change : Change} (hchange : r.metadata.replacement? = some change) :
    st.committed.checkNames change = .ok table ∧
      (∀ table', st.committed.updateRow (r.metadata.attributeValues entity true)
          (r.metadata.valueAttributes.map MappedAttribute.slot) table row = .ok table' →
        st.committed.apply table change (r.metadata.attributeValues entity true) =
          .done (st.committed.put table') 1 none) ∧
      ∀ fault conflict, st.committed.updateRow (r.metadata.attributeValues entity true)
          (r.metadata.valueAttributes.map MappedAttribute.slot) table row =
            .error (.refused fault conflict) →
        st.committed.apply table change (r.metadata.attributeValues entity true) =
          st.committed.settle table 0 none (some (.refused fault conflict)) := by
  obtain rfl := Metadata.replacement?_eq_some hchange
  have htargets : Database.targets table ⟨r.metadata.table, [r.metadata.identifier.slot]⟩
      (r.metadata.attributeValues entity true) = [row] := by
    rw [← h.filter_isAt hrow hat]
    exact List.filter_congr fun x _ => h.meetsAll_slot entity x
  refine ⟨?_, fun table' hupdate => ?_, fun fault conflict hupdate => ?_⟩
  · simp only [Database.checkNames, h.writable,
      h.resolved.wrongColumn?_slots h.represents.definition Metadata.valueAttributes_subset]
  · simp only [Database.apply, htargets, Database.changeRows, hupdate, Database.settle]
  · simp only [Database.apply, htargets, Database.changeRows, hupdate]

/-- Saving an entity that is known. -/
theorem write_known (h : Hosts t carries r st table M)
    (hs : r.metadata.Storable carries entity) (hold : r.metadata.isNew entity = false) {row : Row}
    (hrow : row ∈ table.rows)
    (hat : r.metadata.isAt (r.metadata.identifierValue entity) (r.metadata.rowEntry row) = true) :
    Saves t carries r M entity (r.write true entity st) := by
  cases hreplacement : r.metadata.replacement? with
  | none => exact h.write_known_of_none hold hrow hat hreplacement
  | some change =>
    obtain ⟨hnames, hdone, hhalted⟩ := h.apply_replacement hrow hat hreplacement
    unfold Saves
    simp only [write, result_report, store_report, repository_report, if_true]
    rw [mergeWork_of_some r entity hreplacement]
    rcases h.represents.updateRow h.resolved h.faithful hs h.isolated hold hrow hat with
      ⟨table', M', hupdate, hdef, hrepresents, hstep⟩ | ⟨⟨halt, hupdate⟩, hrefusal⟩
    · obtain ⟨hresult, hhosts⟩ := h.transact_ok
        (h.isolated.perform_done r.session hnames (hdone table' hupdate) hdef) hdef hrepresents
      exact ⟨table', M', by rw [hresult]; exact hstep, hhosts⟩
    · obtain ⟨fault, conflict, rfl⟩ := Database.refused_of_updateRow h.strict hupdate
      have hperform := h.isolated.perform_halted r.session hnames (hhalted fault conflict hupdate)
      obtain ⟨fault', hresult, hhosts⟩ := h.transact_error hperform
      exact ⟨table, M, by rw [hresult]; exact .refused hrefusal, hhosts⟩

theorem saveWithOutcome (h : Hosts t carries r st table M)
    (hs : r.metadata.Storable carries entity) :
    Saves t carries r M entity (r.saveWithOutcome entity st) := by
  simp only [Repository.saveWithOutcome, h.isKnown entity]
  cases hknown : !r.metadata.isNew entity && table.rows.any fun row =>
      r.metadata.isAt (r.metadata.identifierValue entity) (r.metadata.rowEntry row) with
  | true =>
    obtain ⟨hold, hany⟩ := Bool.and_eq_true_iff.mp hknown
    obtain ⟨row, hrow, hat⟩ := List.any_eq_true.mp hany
    exact h.write_known hs (by simpa using hold) hrow hat
  | false =>
    refine h.write_unknown hs fun hold row hrow => ?_
    rw [hold, Bool.not_false, Bool.true_and, List.any_eq_false] at hknown
    simpa using hknown row hrow

/-! ## 4. Removing -/

/-- Removing the rows that meet a filter. -/
theorem transact_delete (h : Hosts t carries r st table M) (operation : Operation)
    {conditions : List Slot} {parameters : Parameters} {q : Entry → Bool}
    (hq : ∀ row ∈ table.rows,
      Table.meetsAll r.metadata.tableDefinition.columns conditions parameters row =
        q (r.metadata.rowEntry row)) :
    let answer := r.transact st (r.attempt operation (statement r.session
      (.delete ⟨r.metadata.table, conditions⟩) parameters fun _ written => written.changed))
    ∃ n table', answer.result = .ok n ∧ Hosts t carries answer.repository answer.store table'
      { M with entries := M.entries.filter fun entry => !q entry } := by
  have hname : Name.same table.name r.metadata.table = true := h.name ▸ Name.same_refl _
  have hrepresents := h.represents.without
    (p := Table.meetsAll table.columns conditions parameters) (q := q)
    (by rw [h.represents.columns]; exact hq)
  obtain ⟨hresult, hhosts⟩ := h.transact_ok (h.isolated.perform_delete h.represents.sound r.session
    (f := ⟨r.metadata.table, conditions⟩) hname) rfl hrepresents
  exact ⟨_, _, hresult, hhosts⟩

theorem deleteById (h : Hosts t carries r st table M) (identifier : Value) :
    ∃ table', (r.deleteById identifier st).result = .ok () ∧
      Hosts t carries (r.deleteById identifier st).repository (r.deleteById identifier st).store
        table' { M with entries := M.entries.filter fun entry =>
          !r.metadata.isAt identifier entry } := by
  rcases h.findById identifier with ⟨row, hrow, entity, hat, hentry, hfind⟩ | ⟨hnone, hfind⟩
  · -- The row that was found is removed by its own identifier, under which no other row is.
    have hown : r.metadata.identifierValue entity =
        r.metadata.held row r.metadata.identifier := congrArg Entry.identifier hentry
    have hself := h.represents.isAt_own h.resolved h.faithful hrow
    rw [← hown] at hself
    have hsame : ∀ x ∈ table.rows,
        Table.meetsAll r.metadata.tableDefinition.columns r.metadata.sought.conditions
            (Metadata.soughtValue (r.metadata.identifierValue entity)) x =
          r.metadata.isAt identifier (r.metadata.rowEntry x) := by
      intro x hx
      rw [h.meetsAll_sought, Bool.eq_iff_iff]
      constructor
      · intro hx'
        rwa [h.represents.eq_of_isAt hx hrow hx' hself]
      · intro hx'
        rwa [h.represents.eq_of_isAt hx hrow hx' hat]
    obtain ⟨n, table', hresult, hhosts⟩ := h.transact_delete .remove hsame
    refine ⟨table', ?_, ?_⟩
    · simp only [Repository.deleteById, hfind, result_report]
      exact congrArg (Except.map fun _ => ()) hresult
    · simp only [Repository.deleteById, hfind, repository_report, store_report]
      exact hhosts
  · have hkept : (M.entries.filter fun entry => !r.metadata.isAt identifier entry) = M.entries := by
      refine List.filter_eq_self.mpr fun entry hmem => ?_
      obtain ⟨row, hrow, rfl⟩ := h.represents.mem_entries.mp hmem
      rw [hnone row hrow, Bool.not_false]
    refine ⟨table, ?_, ?_⟩
    · simp only [Repository.deleteById, hfind]
    · simp only [Repository.deleteById, hfind, hkept]
      exact h

theorem deleteAll (h : Hosts t carries r st table M) :
    ∃ table', (r.deleteAll st).result = .ok () ∧
      Hosts t carries (r.deleteAll st).repository (r.deleteAll st).store table'
        { M with entries := [] } := by
  have hall : ∀ row ∈ table.rows,
      Table.meetsAll r.metadata.tableDefinition.columns [] [] row = true := fun _ _ => rfl
  obtain ⟨n, table', hresult, hhosts⟩ := h.transact_delete .deleteAll (q := fun _ => true) hall
  have hempty : (M.entries.filter fun _ => !true) = [] :=
    List.filter_eq_nil_iff.mpr fun _ _ => Bool.false_ne_true
  rw [hempty] at hhosts
  exact ⟨table', congrArg (Except.map fun _ => ()) hresult, hhosts⟩

/-! ## 5. Runs -/

/-- **Every call is a step of the map.** -/
theorem step (h : Hosts t carries r st table M) (call : Call E)
    (hcall : ∀ entity, call = .save entity → r.metadata.Storable carries entity) :
    ∃ table' M', MapStep r.metadata M call (call.run r st).result M' ∧
      Hosts t carries (call.run r st).repository (call.run r st).store table' M' := by
  cases call with
  | save entity => exact h.saveWithOutcome (hcall entity rfl)
  | findById identifier =>
    refine ⟨table, M, ?_, h⟩
    rcases h.findById identifier with ⟨row, hrow, entity, hat, hentry, hfind⟩ | ⟨hnone, hfind⟩
    · simp only [Call.run, hfind]
      refine .found ?_ (hentry ▸ hat)
      exact h.represents.mem_entries.mpr ⟨row, hrow, hentry.symm⟩
    · simp only [Call.run, hfind]
      refine .notFound fun entry hmem => ?_
      obtain ⟨row, hrow, rfl⟩ := h.represents.mem_entries.mp hmem
      exact hnone row hrow
  | findAll =>
    refine ⟨table, M, ?_, h⟩
    obtain ⟨found, hl⟩ := h.exists_listing
    simp only [Call.run, hl.findAll]
    exact .listed (h.entries_listing hl)
  | count =>
    refine ⟨table, M, ?_, h⟩
    obtain ⟨found, hl⟩ := h.exists_listing
    have hlength : found.length = M.entries.length := by
      rw [← (h.entries_listing hl).length_eq, List.length_map, List.length_map]
    have hcount : r.count st = .ok M.entries.length := by
      rw [← hlength]
      have hall : (found.filter fun p => Table.meetsAll
          r.metadata.tableDefinition.columns [] [] p.1) = found :=
        List.filter_eq_self.mpr fun _ _ => rfl
      have htally := hl.tally .count [] []
      rwa [hall] at htally
    simp only [Call.run, hcount]
    exact .counted
  | deleteById identifier =>
    obtain ⟨table', hresult, hhosts⟩ := h.deleteById identifier
    refine ⟨table', _, ?_, hhosts⟩
    simp only [Call.run, hresult]
    exact .removed
  | deleteAll =>
    obtain ⟨table', hresult, hhosts⟩ := h.deleteAll
    refine ⟨table', _, ?_, hhosts⟩
    simp only [Call.run, hresult]
    exact .removedAll

/-- No call changes what the repository knows of its entities. -/
theorem metadata_run (r : Repository E) (st : Store) (call : Call E) :
    (call.run r st).repository.metadata = r.metadata := by
  cases call with
  | save entity =>
    simp only [Call.run, Repository.saveWithOutcome]
    split <;> rfl
  | deleteById identifier =>
    simp only [Call.run, Repository.deleteById]
    split <;> rfl
  | findById | findAll | count | deleteAll => rfl

/-- **A run of calls is a run of the map.** -/
theorem run (h : Hosts t carries r st table M) (calls : List (Call E))
    (hcalls : ∀ entity, .save entity ∈ calls → r.metadata.Storable carries entity) :
    MapRun r.metadata M calls (Call.runAll r st calls) := by
  induction calls generalizing r st table M with
  | nil => exact .nil
  | cons call rest ih =>
    obtain ⟨table', M', hstep, hhosts⟩ := h.step call fun entity hentity =>
      hcalls entity (hentity ▸ List.mem_cons_self)
    have hmetadata := metadata_run r st call
    have hrest := ih hhosts fun entity hmem =>
      hmetadata ▸ hcalls entity (List.mem_cons_of_mem _ hmem)
    have hmap := hhosts.represents.isMap
    rw [hmetadata] at hrest hmap
    exact .cons hstep hmap hrest

end Hosts

/-- Opening a repository on an idle store creates its table, if nothing has the table's name. -/
theorem state_new {s : Session} (hmode : s.schemaMode = .create) (hidle : st.Idle)
    (hunused : st.committed.Unused r.metadata.tableDefinition.name)
    (href : ∀ c ∈ r.metadata.tableDefinition.columns, c.reference = none)
    (hnew : (Repository.new t s st).result = .ok r) :
    (Repository.new t s st).state =
      { st with committed := st.committed.withTable r.metadata.tableDefinition } := by
  have halter := alter_of_new hmode hnew
  rw [hunused.alter hidle s href] at halter
  split at halter
  · cases halter
  · exact (congrArg Prod.snd halter).symm

/-- **Opening a repository establishes the empty map.** -/
theorem hosts_new {s : Session} (hmode : s.schemaMode = .create) (hidle : st.Idle)
    (hunused : st.committed.Unused (Name.storage t.schema.name))
    (hnew : (Repository.new t s st).result = .ok r) (hfaithful : r.metadata.Faithful t carries) :
    Hosts t carries r (Repository.new t s st).state
      (.new r.metadata.tableDefinition st.committed.draws) .empty := by
  have hopened := opened_new hnew
  have hresolved := hopened.metadata
  have href := r.metadata.reference_columns
  have hunused : st.committed.Unused r.metadata.tableDefinition.name := by
    rw [show r.metadata.tableDefinition.name = Name.storage t.schema.name from hresolved.table]
    exact hunused
  rw [state_new hmode hidle hunused href hnew]
  refine ⟨hopened.entityType, hresolved, hfaithful, ⟨hidle.writer, hidle.readable⟩,
    hunused.isolated href, rfl, Table.sound_new hresolved.oneKey, .nil, ?_, ?_, ?_, ?_, ?_⟩
  · exact fun row hrow => absurd hrow List.not_mem_nil
  · exact fun row hrow => absurd hrow List.not_mem_nil
  · exact fun row hrow => absurd hrow List.not_mem_nil
  · exact fun _ => ⟨fun row hrow => absurd hrow List.not_mem_nil, fun h => by cases h⟩
  · exact fun _ row hrow => absurd hrow List.not_mem_nil

/-- **A repository is a map.**  Let a repository be opened, with the task of creating its table, on
an idle store in which nothing has the table's name or refers to it.  Let entities be read off rows
faithfully, and let the entities that are saved have values which entities carry.  Then the results
of any calls are those of the map that starts empty. -/
theorem refines_map {s : Session} (hmode : s.schemaMode = .create) (hidle : st.Idle)
    (hunused : st.committed.Unused (Name.storage t.schema.name))
    (hnew : (Repository.new t s st).result = .ok r) (hfaithful : r.metadata.Faithful t carries)
    (calls : List (Call E))
    (hcalls : ∀ entity, .save entity ∈ calls → r.metadata.Storable carries entity) :
    MapRun r.metadata .empty calls (Call.runAll r (Repository.new t s st).state calls) :=
  (hosts_new hmode hidle hunused hnew hfaithful).run calls hcalls

end Repository

/-! ## 6. Tags -/

namespace Tags

/-- Both attributes of a tag are texts. -/
def IsText (_ : MappedAttribute Record) (value : Value) : Prop :=
  ∃ s, value = .text s

/-- Each value is read from its own column. -/
theorem fromRow_tag (code label : String) :
    shape.entityType.fromRow ⟨[("code", .text code), ("label", .text label)]⟩ =
      .ok (tag code label) := by
  have hcode : ResultRow.cell? ⟨[("code", .text code), ("label", .text label)]⟩ "code" =
      some (0, "code", .text code) := by
    simp [ResultRow.cell?, ResultRow.index?, List.findIdx?_cons, Name.same_refl]
  have hlabel : ResultRow.cell? ⟨[("code", .text code), ("label", .text label)]⟩ "label" =
      some (1, "label", .text label) := by
    have hother : Name.same "code" "label" = false := by decide
    simp [ResultRow.cell?, ResultRow.index?, List.findIdx?_cons, Name.same_refl, hother]
  simp only [RecordShape.entityType, shape, RecordShape.readAttributes, RecordShape.readAttribute,
    ResultRow.getAs, Attribute.id, Attribute.new, Attribute.asNotNull, Attribute.asUnique, hcode,
    hlabel, RecordShape.convert?, if_true]
  rfl

/-- Tags are read off rows faithfully. -/
theorem faithful_metadata : metadata.Faithful shape.entityType IsText where
  keeps := by
    rintro a ha - ⟨s, rfl⟩
    rcases List.mem_cons.mp ha with rfl | ha
    · exact ⟨rfl, rfl⟩
    · rw [List.mem_singleton.mp ha]
      exact ⟨rfl, rfl⟩
  keys := nofun
  reads := by
    intro value hvalue
    let labelled : MappedAttribute Record :=
      ⟨(Attribute.new "label" .text).asNotNull.asUnique, "label", RecordShape.field 1⟩
    obtain ⟨code, hcode⟩ := hvalue metadata.identifier List.mem_cons_self
    obtain ⟨label, hlabel⟩ :=
      hvalue labelled (List.mem_cons_of_mem _ (List.mem_singleton_self labelled))
    have hrow : (metadata.attributes.map fun a => (a.name, value a)) =
        [("code", .text code), ("label", .text label)] := by
      rw [← hcode, ← hlabel]
      rfl
    refine ⟨tag code label, ?_, fun a ha => ?_⟩
    · rw [hrow]
      exact fromRow_tag code label
    · rcases List.mem_cons.mp ha with rfl | ha
      · exact hcode.symm
      · rw [List.mem_singleton.mp ha]
        exact hlabel.symm

/-- A tag can be saved. -/
theorem storable_tag (code label : String) : metadata.Storable IsText (tag code label) where
  values := by
    intro a ha
    rw [List.mem_singleton.mp (show a ∈ [_] from ha)]
    exact ⟨label, rfl⟩
  identifier := fun _ => ⟨code, rfl⟩

/-- Nothing has a name in a store that holds nothing. -/
theorem unused_empty (name : String) : Store.empty.committed.Unused name :=
  ⟨nofun, nofun, nofun, nofun⟩

/-- The store after a repository of tags was opened on a database. -/
def opened (db : Database) : Store :=
  (Repository.new shape.entityType session ⟨db, none, true⟩).state

/-- A database with a view of the name of the tags' table. -/
def underView : Database :=
  { Database.empty with views := [⟨"tag", ["id"], [[.integer 1]]⟩] }

/-- A database with notes about tags; there is one about a tag that is not there yet. -/
def referredTo : Database :=
  { Database.empty with
    tables := [⟨⟨"note", [⟨"about", some .text, false, false, false, false, false, none,
      some ⟨"tag", "code", false⟩⟩]⟩, [⟨1, [.text "a"]⟩], 1, []⟩] }

end Tags

namespace Repository

/-- A tag is added, another is refused that has its label, and then it is replaced, found, counted
and removed. -/
theorem refines_map_tags : MapRun Tags.metadata .empty
    [.save (Tags.tag "a" "x"), .save (Tags.tag "b" "x"), .save (Tags.tag "a" "y"),
      .findById (.text "a"), .count, .deleteById (.text "a"), .findById (.text "a")]
    [.ok (.saved (Tags.tag "a" "x") .persisted),
      .error (.crud "Tag" .persist (.store (.notUnique "tag" "label"))),
      .ok (.saved (Tags.tag "a" "y") .merged), .ok (.found (some (Tags.tag "a" "y"))),
      .ok (.counted 1), .ok .removed, .ok (.found none)] := by
  have hnew : (Repository.new Tags.shape.entityType Tags.session .empty).result =
      .ok (Tags.repository .empty) := rfl
  refine refines_map rfl ⟨rfl, rfl⟩ (Tags.unused_empty _) hnew Tags.faithful_metadata _ ?_
  intro entity hentity
  have htag : ∃ code label, entity = Tags.tag code label := by
    simp at hentity
    rcases hentity with rfl | rfl | rfl <;> exact ⟨_, _, rfl⟩
  obtain ⟨code, label, rfl⟩ := htag
  exact Tags.storable_tag code label

/-- The store may stand in the way of a map.  A tag whose code is not in the map is refused if its
label is taken; if there is a view in the place of the table no tag is saved; and a tag that is
referred to from another table is not removed. -/
theorem refused_by_store :
    (Tags.metadata.Faithful Tags.shape.entityType Tags.IsText ∧
      Tags.metadata.Storable Tags.IsText (Tags.tag "a" "x") ∧
      Tags.metadata.Storable Tags.IsText (Tags.tag "b" "x") ∧
      Tags.metadata.isNew (Tags.tag "b" "x") = false ∧
      Call.runAll (Tags.repository .empty) (Tags.opened .empty)
          [.save (Tags.tag "a" "x"), .findById (.text "b"), .save (Tags.tag "b" "x"),
            .findById (.text "b"), .count] =
        [.ok (.saved (Tags.tag "a" "x") .persisted), .ok (.found none),
          .error (.crud "Tag" .persist (.store (.notUnique "tag" "label"))), .ok (.found none),
          .ok (.counted 1)]) ∧
    (Tags.underView.table? "tag" = none ∧
      Call.runAll (Tags.repository .empty) (Tags.opened Tags.underView) [.deleteAll] =
        [.error (.crud "Tag" .deleteAll (.store (.readOnlyView "tag")))]) ∧
    (Tags.referredTo.table? "tag" = none ∧
      Call.runAll (Tags.repository .empty) (Tags.opened Tags.referredTo)
          [.save (Tags.tag "a" "x"), .deleteAll, .count] =
        [.ok (.saved (Tags.tag "a" "x") .persisted),
          .error (.crud "Tag" .deleteAll (.store .foreignKey)), .ok (.counted 1)]) :=
  ⟨⟨Tags.faithful_metadata, Tags.storable_tag "a" "x", Tags.storable_tag "b" "x", rfl, rfl⟩,
    ⟨rfl, rfl⟩, ⟨rfl, rfl⟩⟩

end Repository

end EntityStore

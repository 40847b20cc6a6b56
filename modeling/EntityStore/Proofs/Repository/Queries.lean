import EntityStore.Proofs.Repository.Reachable
import EntityStore.Proofs.Store.Filtering
/-!
# The three forms of a filtered query

A list of attributes can be registered in three forms, under three keys: to find the entities whose
attributes equal some arguments, to count them and to remove them.  The forms are run in different
ways, one of them in a transaction, but they agree on what they are about.  All three are compared
with `findAll`: with the rows that it lists, in its order (`Listing`).

Main statement: `filtered_queries`.  Finding gives the entities of the rows that meet the
conjunction, counting gives their number, and removing them, whenever it succeeds, gives their
number and leaves all other rows as they were.
-/

namespace EntityStore

variable {E α : Type}

/-! ## 1. Reading -/

/-- A store either refuses whatever is asked about a table, or answers from what the session
sees. -/
theorem Store.read_cases (st : Store) (s : Session) (table : String) :
    (∃ fault, ∀ {α : Type} (query : Database → Except StoreFault α),
      st.read s table query = .error fault) ∨
    ∀ {α : Type} (query : Database → Except StoreFault α),
      st.read s table query = query (st.seen s) := by
  unfold Store.read readDefinitions
  cases st.refusal? s with
  | some fault => exact .inl ⟨fault, fun _ => rfl⟩
  | none =>
    cases st.readLock? s table with
    | some fault => exact .inl ⟨fault, fun _ => rfl⟩
    | none => exact .inr fun _ => rfl

/-- Rows of which all can be read are read one by one. -/
theorem Session.decode_eq {fromRow : ResultRow → Except StoreFault E} {f : Row → ResultRow}
    {found : List (Row × E)} (h : ∀ p ∈ found, fromRow (f p.1) = .ok p.2) :
    decode fromRow (found.map fun p => f p.1) = .ok (found.map (·.2)) := by
  induction found with
  | nil => rfl
  | cons p rest ih =>
    have hrest := ih fun q hq => h q (List.mem_cons_of_mem _ hq)
    simp only [List.map_cons, decode, h p List.mem_cons_self, hrest]

/-- Rows of which all can be read have entities. -/
theorem exists_entities {fromRow : Row → Except StoreFault E} {rows : List Row}
    (h : ∀ row ∈ rows, ∃ e, fromRow row = .ok e) :
    ∃ found : List (Row × E), found.map (·.1) = rows ∧ ∀ p ∈ found, fromRow p.1 = .ok p.2 := by
  induction rows with
  | nil => exact ⟨[], rfl, fun p hp => by cases hp⟩
  | cons row rest ih =>
    obtain ⟨e, he⟩ := h row List.mem_cons_self
    obtain ⟨found, hfound, hread⟩ := ih fun r hr => h r (List.mem_cons_of_mem _ hr)
    refine ⟨(row, e) :: found, by rw [List.map_cons, hfound], fun p hp => ?_⟩
    rcases List.mem_cons.mp hp with rfl | hp
    · exact he
    · exact hread p hp

namespace Repository

variable {t : EntityType E} {r : Repository E} {st : Store} {columns : List Column}
  {rows : List Row} {found : List (Row × E)}

/-- Every row of the repository's table can be read as an entity. -/
def Readable (r : Repository E) (st : Store) : Prop :=
  ∀ columns rows, (st.seen r.session).relation? r.metadata.table = .ok (columns, rows) →
    ∀ row ∈ rows, ∃ e,
      r.entityType.fromRow (Database.project columns r.metadata.outputs row) = .ok e

/-- The rows of the repository's table with their entities, in the order of `findAll`. -/
structure Listing (r : Repository E) (st : Store) (columns : List Column) (rows : List Row)
    (found : List (Row × E)) : Prop where
  relation : (st.seen r.session).relation? r.metadata.table = .ok (columns, rows)
  /-- What is asked about the table is answered. -/
  answered : ∀ {α : Type} (query : Database → Except StoreFault α),
    st.read r.session r.metadata.table query = query (st.seen r.session)
  rows : found.map (·.1) = Database.sortRows columns
    (Database.sortColumn r.metadata.outputs r.metadata.identifier.column) rows
  entities : ∀ p ∈ found,
    r.entityType.fromRow (Database.project columns r.metadata.outputs p.1) = .ok p.2

namespace Listing

theorem perm (h : Listing r st columns rows found) : (found.map (·.1)).Perm rows :=
  h.rows ▸ Database.sortRows_perm columns _ rows

/-- A selection picks from the listing, in its order. -/
theorem select (h : Listing r st columns rows found) (operation : Operation)
    (conditions : List Slot) (parameters : Parameters) :
    r.select operation
        ⟨⟨r.metadata.table, conditions⟩, r.metadata.outputs, some r.metadata.identifier.column⟩
        parameters st =
      .ok ((found.filter fun p => Table.meetsAll columns conditions parameters p.1).map (·.2)) := by
  have hpicked : ∀ p ∈ found.filter fun p => Table.meetsAll columns conditions parameters p.1,
      r.entityType.fromRow (Database.project columns r.metadata.outputs p.1) = .ok p.2 :=
    fun p hp => h.entities p (List.mem_filter.mp hp).1
  have hrows : ((Database.sortRows columns (Database.sortColumn r.metadata.outputs
        r.metadata.identifier.column) rows).filter
        (Table.meetsAll columns conditions parameters)).map
        (Database.project columns r.metadata.outputs) =
      (found.filter fun p => Table.meetsAll columns conditions parameters p.1).map
        fun p => Database.project columns r.metadata.outputs p.1 := by
    rw [← h.rows, List.filter_map, List.map_map]
    rfl
  simp only [Repository.select, Session.queryRows, h.answered,
    Database.select_eq (f := ⟨r.metadata.table, conditions⟩) h.relation, hrows,
    Session.decode_eq hpicked, Except.mapError]

theorem countP (h : Listing r st columns rows found) (p : Row → Bool) :
    rows.countP p = (found.filter fun q => p q.1).length := by
  rw [← h.perm.countP_eq, List.countP_map, List.countP_eq_length_filter]
  rfl

/-- A count counts the listing. -/
theorem tally (h : Listing r st columns rows found) (operation : Operation)
    (conditions : List Slot) (parameters : Parameters) :
    r.tally operation ⟨r.metadata.table, conditions⟩ parameters st =
      .ok (found.filter fun p => Table.meetsAll columns conditions parameters p.1).length := by
  simp only [Repository.tally, Session.count, h.answered, h.countP,
    Database.count_eq (f := ⟨r.metadata.table, conditions⟩) h.relation, Except.mapError]

/-- On an idle store the listing is that of a committed table, if there is one. -/
theorem table (h : Listing r st columns rows found) (hidle : st.Idle) {table : Table}
    (htable : st.committed.table? r.metadata.table = some table) :
    columns = table.columns ∧ rows = table.rows := by
  have hrelation := h.relation
  simp only [hidle.seen, Database.relation?, htable] at hrelation
  cases hrelation
  exact ⟨rfl, rfl⟩

theorem findAll (h : Listing r st columns rows found) :
    r.findAll st = .ok (found.map (·.2)) := by
  have hall : (found.filter fun p => Table.meetsAll columns [] [] p.1) = found :=
    List.filter_eq_self.mpr fun _ _ => rfl
  have hselect := h.select .findAll [] []
  rwa [hall] at hselect

end Listing

/-- The rows of a table that can be read are listed, or else whatever is asked about the table
fails with the same fault of the store. -/
theorem listing_or_fault (hread : r.Readable st) :
    (∃ columns rows found, Listing r st columns rows found) ∨
      ∃ fault, ∀ operation conditions parameters,
        r.select operation
            ⟨⟨r.metadata.table, conditions⟩, r.metadata.outputs, some r.metadata.identifier.column⟩
            parameters st = .error (.crud r.metadata.entity operation (.store fault)) ∧
          r.tally operation ⟨r.metadata.table, conditions⟩ parameters st =
            .error (.crud r.metadata.entity operation (.store fault)) := by
  rcases st.read_cases r.session r.metadata.table with ⟨fault, hrefused⟩ | hanswered
  · refine .inr ⟨fault, fun operation conditions parameters => ⟨?_, ?_⟩⟩
    · simp only [select, Session.queryRows, hrefused, Except.mapError]
    · simp only [tally, Session.count, hrefused, Except.mapError]
  cases hrelation : (st.seen r.session).relation? r.metadata.table with
  | error fault =>
    refine .inr ⟨fault, fun operation conditions parameters => ⟨?_, ?_⟩⟩
    · simp only [select, Session.queryRows, hanswered, Database.select,
        Database.matching_error (f := ⟨r.metadata.table, conditions⟩) hrelation, Except.mapError]
    · simp only [tally, Session.count, hanswered, Database.count,
        Database.matching_error (f := ⟨r.metadata.table, conditions⟩) hrelation, Except.mapError,
        Except.map]
  | ok relation =>
    obtain ⟨columns, rows⟩ := relation
    obtain ⟨found, hrows, hentities⟩ := exists_entities
      fun row (hrow : row ∈ Database.sortRows columns
          (Database.sortColumn r.metadata.outputs r.metadata.identifier.column) rows) =>
        hread columns rows hrelation row ((Database.sortRows_perm columns _ rows).mem_iff.mp hrow)
    exact .inl ⟨columns, rows, found, hrelation, hanswered, hrows, hentities⟩

/-! ## 2. Removing -/

/-- A repository without anything to recover has a store refuse its transaction, and change
nothing, unless the store is idle. -/
theorem transact_refused (hx : r.executor.state ≠ .active) (h : ¬ st.Idle)
    (work : Work Connection α) :
    ∃ fault, (r.transact st work).result = .error fault ∧ (r.transact st work).store = st := by
  obtain ⟨fault, hrefused⟩ := Store.begin_of_not_idle r.session h
  exact ⟨_, transact_of_refused (Executor.recover_of_settled hx _ _) hrefused work⟩

/-- A transaction of one statement that succeeds has performed it on what is committed. -/
theorem transact_statement_done (hx : r.executor.state ≠ .active) {operation : Operation}
    {change : Change} {parameters : Parameters} {result : Int64 → Store.Written → α} {x : α}
    (h : (r.transact st
      (r.attempt operation (statement r.session change parameters result))).result = .ok x) :
    st.Idle ∧ ∃ written db,
      st.committed.perform r.session change parameters = .ok (written, db) ∧
        x = result r.session.lastKey written ∧
        (r.transact st
          (r.attempt operation (statement r.session change parameters result))).store =
          { st with committed := db } := by
  by_cases hidle : st.Idle
  · cases hp : st.committed.perform r.session change parameters with
    | error fault =>
      obtain ⟨fault', hresult, -⟩ := transact_statement_error hidle hp
      rw [hresult] at h
      cases h
    | ok done =>
      obtain ⟨written, db⟩ := done
      obtain ⟨hresult, hstore⟩ := transact_statement_ok hidle hp
      rw [hresult] at h
      cases h
      exact ⟨hidle, written, db, rfl, rfl, hstore⟩
  · obtain ⟨fault, hresult, -⟩ := transact_refused hx hidle
      (r.attempt operation (statement r.session change parameters result))
    rw [hresult] at h
    cases h

/-- A removal that succeeds was performed on what is committed. -/
theorem deleteBy_ok (hx : r.executor.state ≠ .active) {key : String} {arguments : List Value}
    {d : Query.Descriptor} {parameters : Parameters} {n : Nat}
    (hprepare : r.prepareQuery key .deleteFiltered arguments = .ok (d, parameters))
    (h : (r.deleteBy key arguments st).result = .ok n) :
    st.Idle ∧ ∃ written db,
      st.committed.perform r.session d.removal parameters = .ok (written, db) ∧
        n = written.changed ∧ (r.deleteBy key arguments st).store = { st with committed := db } ∧
        ∃ x lastKey, (r.deleteBy key arguments st).repository = r.leave x lastKey := by
  simp only [deleteBy, hprepare, execute_eq_statement, result_report, store_report,
    repository_report] at h ⊢
  obtain ⟨hidle, written, db, hperform, hn, hstore⟩ := transact_statement_done hx h
  exact ⟨hidle, written, db, hperform, hn, hstore, _, _, rfl⟩

/-- The listing after some rows were removed. -/
theorem Listing.without (h : Listing r st columns rows found) (hidle : st.Idle) {table : Table}
    (htable : st.committed.table? r.metadata.table = some table) (p : Row → Bool)
    (x : Executor) (key : Int64) :
    Listing (r.leave x key) { st with committed := st.committed.put (table.without p) } columns
      (rows.filter fun row => !p row) (found.filter fun q => !p q.1) := by
  have hafter : Store.Idle { st with committed := st.committed.put (table.without p) } :=
    ⟨hidle.writer, hidle.readable⟩
  obtain ⟨rfl, rfl⟩ := h.table hidle htable
  have hput : (st.committed.put (table.without p)).table? r.metadata.table =
      some (table.without p) := Database.table?_put htable rfl
  refine ⟨?_, ?_, ?_, fun q hq => h.entities q (List.mem_filter.mp hq).1⟩
  · rw [hafter.seen]
    exact Database.relation?_eq hput
  · intro β query
    rw [hafter.read, hafter.seen]
  · rw [metadata_leave, ← Database.filter_sortRows, ← h.rows, List.filter_map]
    rfl

/-! ## 3. The three forms -/

section Forms

variable {findKey countKey deleteKey : String} {names : List String} {arguments : List Value}

/-- A registered query is run on the conditions on its attributes, and with its arguments bound to
them in order. -/
theorem prepareQuery_eq {key : String} {form : Query.Form}
    (h : Registered t key form names r) (hlength : arguments.length = names.length) :
    r.prepareQuery key form arguments =
      .ok (⟨r.metadata.table, r.metadata.outputs, r.metadata.identifier.column,
        names.map Query.Descriptor.condition, form⟩, names.zip arguments) := by
  have hparameters : ((names.map Query.Descriptor.condition).map (·.parameter)) = names := by
    rw [List.map_map]
    exact List.map_id names
  simp [prepareQuery, Query.Registry.lookup, h.find?.2, Query.Descriptor.bind, hlength,
    hparameters]

theorem findBy_eq (h : Registered t findKey .selectFiltered names r)
    (hlength : arguments.length = names.length) :
    r.findBy findKey arguments st = r.select .query
      ⟨⟨r.metadata.table, names.map Query.Descriptor.condition⟩, r.metadata.outputs,
        some r.metadata.identifier.column⟩ (names.zip arguments) st := by
  simp only [findBy, prepareQuery_eq h hlength]
  rfl

theorem countBy_eq (h : Registered t countKey .countFiltered names r)
    (hlength : arguments.length = names.length) :
    r.countBy countKey arguments st = r.tally .query
      ⟨r.metadata.table, names.map Query.Descriptor.condition⟩ (names.zip arguments) st := by
  simp only [countBy, prepareQuery_eq h hlength]
  rfl

theorem Listing.fits (h : Listing r st columns rows found) (hst : st.Reachable) :
    ∀ row ∈ rows, row.Fits columns :=
  (hst.sound.seen r.session).fits_relation h.relation

/-- A conjunction with an argument that is `null` is met by no row. -/
theorem conjunction_null {row : Row} (hrow : row.Fits columns)
    (hlength : arguments.length = names.length)
    (hnull : ∃ argument ∈ arguments, argument.bound = .null) :
    Query.conjunction columns names arguments row = false := by
  obtain ⟨argument, hmem, hbound⟩ := hnull
  have hsnd : (names.zip arguments).map (·.2) = arguments :=
    List.map_snd_zip (Nat.le_of_eq hlength)
  rw [← hsnd] at hmem
  obtain ⟨⟨name, value⟩, hentry, rfl⟩ := List.mem_map.mp hmem
  have hheld : Table.holds columns row (Name.storage name) value.bound = false := by
    rw [show value.bound = .null from hbound]
    exact Database.holds_null hrow _
  exact List.all_eq_false.mpr ⟨(name, value), hentry, by simp [hheld]⟩

/-- A registered removal that succeeds takes the rows that meet the conjunction out of the table,
and out of the listing. -/
theorem Listing.removed (h : Listing r st columns rows found) (hst : st.Reachable)
    (hdelete : Registered t deleteKey .deleteFiltered names r)
    (hlength : arguments.length = names.length) {n : Nat}
    (hn : (r.deleteBy deleteKey arguments st).result = .ok n) :
    let meets := Query.conjunction columns names arguments
    let after := r.deleteBy deleteKey arguments st
    n = (found.filter fun p => meets p.1).length ∧
      (∃ table, st.committed.table? r.metadata.table = some table ∧ table.rows = rows ∧
        after.store = { st with committed := st.committed.put (table.without meets) }) ∧
      Listing after.repository after.store columns (rows.filter fun row => !meets row)
        (found.filter fun p => !meets p.1) := by
  intro meets after
  have hmeets : Table.meetsAll columns (names.map Query.Descriptor.condition)
      (names.zip arguments) = meets :=
    Query.Descriptor.meetsAll_zip hdelete.find?.1 hlength columns
  obtain ⟨hidle, written, db, hperform, rfl, hstore, x, key, hrepository⟩ :=
    deleteBy_ok hdelete.reachable.opened.executor (prepareQuery_eq hdelete hlength) hn
  obtain ⟨table, htable, happly⟩ := Database.perform_ok hperform
  obtain ⟨hcolumns, hrows⟩ := h.table hidle htable
  obtain ⟨hchanged, hdb⟩ := Database.apply_delete_done (hst.sound.committed.table? htable) happly
  simp only [Query.Descriptor.filter, ← hcolumns, ← hrows, hmeets, h.countP] at hchanged hdb
  refine ⟨hchanged, ⟨table, htable, hrows.symm, hdb ▸ hstore⟩, ?_⟩
  rw [show after.repository = r.leave x key from hrepository,
    show after.store = { st with committed := db } from hstore, hdb]
  exact h.without hidle htable meets x key

/-- A removal does not succeed on a table about which nothing can be asked. -/
theorem deleteBy_ne_ok (hdelete : Registered t deleteKey .deleteFiltered names r)
    (hlength : arguments.length = names.length) {fault : RepositoryFault}
    (hfault : r.tally .count ⟨r.metadata.table, []⟩ [] st = .error fault) (n : Nat) :
    (r.deleteBy deleteKey arguments st).result ≠ .ok n := by
  intro hn
  obtain ⟨hidle, written, db, hperform, -⟩ :=
    deleteBy_ok hdelete.reachable.opened.executor (prepareQuery_eq hdelete hlength) hn
  obtain ⟨table, htable, -⟩ := Database.perform_ok hperform
  have hrelation : st.committed.relation? r.metadata.table = .ok (table.columns, table.rows) :=
    Database.relation?_eq htable
  simp only [tally, Session.count, hidle.read,
    Database.count_eq (f := ⟨r.metadata.table, []⟩) hrelation, Except.mapError] at hfault
  cases hfault

/-- **The three forms of a filtered query agree.**  Let a repository have the same attributes
registered in all three forms, on a store that sessions brought about and of which every row can be
read, and let there be an argument for each attribute.  Then either nothing can be asked about the
table, and all forms fail like `findAll`; or there is a listing of the rows of the table, and

* `findBy` gives the entities of the rows that meet the conjunction, in the order of `findAll`;
* `countBy` gives their number;
* `deleteBy`, if it succeeds, gives their number, too, and takes out those rows and no other.
  Afterwards `findAll` gives the other entities, and nothing is found or counted.

No row meets a conjunction with `null`.  Rows with equal identifiers stand in the order of their
keys here (`Database.sortRows`); on a table with an index of its own they may not. -/
theorem filtered_queries (hst : st.Reachable) (hread : r.Readable st)
    (hfind : Registered t findKey .selectFiltered names r)
    (hcount : Registered t countKey .countFiltered names r)
    (hdelete : Registered t deleteKey .deleteFiltered names r)
    (hlength : arguments.length = names.length) :
    (∃ fault, r.findAll st = .error (.crud r.metadata.entity .findAll (.store fault)) ∧
        r.findBy findKey arguments st = .error (.crud r.metadata.entity .query (.store fault)) ∧
        r.countBy countKey arguments st = .error (.crud r.metadata.entity .query (.store fault)) ∧
        ∀ n, (r.deleteBy deleteKey arguments st).result ≠ .ok n) ∨
      ∃ columns rows found, Listing r st columns rows found ∧
        let meets := Query.conjunction columns names arguments
        let after := r.deleteBy deleteKey arguments st
        r.findAll st = .ok (found.map (·.2)) ∧
        r.findBy findKey arguments st = .ok ((found.filter fun p => meets p.1).map (·.2)) ∧
        r.countBy countKey arguments st = .ok (found.filter fun p => meets p.1).length ∧
        ((∃ argument ∈ arguments, argument.bound = .null) → ∀ p ∈ found, meets p.1 = false) ∧
        ∀ n, after.result = .ok n →
          n = (found.filter fun p => meets p.1).length ∧
          (∃ table, st.committed.table? r.metadata.table = some table ∧ table.rows = rows ∧
            after.store = { st with committed := st.committed.put (table.without meets) }) ∧
          after.repository.findAll after.store =
            .ok ((found.filter fun p => !meets p.1).map (·.2)) ∧
          after.repository.findBy findKey arguments after.store = .ok [] ∧
          after.repository.countBy countKey arguments after.store = .ok 0 := by
  have hmeets : ∀ columns, Table.meetsAll columns (names.map Query.Descriptor.condition)
      (names.zip arguments) = Query.conjunction columns names arguments :=
    Query.Descriptor.meetsAll_zip hfind.find?.1 hlength
  rcases listing_or_fault hread with ⟨columns, rows, found, hl⟩ | ⟨fault, hfault⟩
  · refine .inr ⟨columns, rows, found, hl, ?_⟩
    intro meets after
    have hmeets : _ = meets := hmeets columns
    refine ⟨hl.findAll, ?_, ?_, ?_, ?_⟩
    · rw [findBy_eq hfind hlength, hl.select, hmeets]
    · rw [countBy_eq hcount hlength, hl.tally, hmeets]
    · intro hnull p hp
      have hrow : p.1 ∈ rows := hl.perm.mem_iff.mp (List.mem_map_of_mem hp)
      exact conjunction_null (hl.fits hst p.1 hrow) hlength hnull
    · intro n hn
      obtain ⟨hchanged, htable, hafter⟩ := hl.removed hst hdelete hlength hn
      have hnone : (found.filter fun p => !meets p.1).filter (fun p => meets p.1) = [] := by
        rw [List.filter_filter]
        exact List.filter_eq_nil_iff.mpr fun p _ => by simp
      have hstep : Step r after.repository := .write (.deleteBy deleteKey arguments) st
      refine ⟨hchanged, htable, hafter.findAll, ?_, ?_⟩
      · rw [findBy_eq (hfind.before hstep) hlength, hafter.select, hmeets, hnone, List.map_nil]
      · rw [countBy_eq (hcount.before hstep) hlength, hafter.tally, hmeets, hnone, List.length_nil]
  · refine .inl ⟨fault, (hfault .findAll [] []).1, ?_, ?_,
      deleteBy_ne_ok hdelete hlength (hfault .count [] []).2⟩
    · rw [findBy_eq hfind hlength]
      exact (hfault _ _ _).1
    · rw [countBy_eq hcount hlength]
      exact (hfault _ _ _).2

end Forms

end Repository

/-! ## 4. Tags by their labels -/

namespace Tags

/-- Queries for the tags with a label, in the three forms. -/
def labelQueries : Query.Registry :=
  let query (form : Query.Form) : Query.Descriptor :=
    ⟨"tag", metadata.outputs, "code", [⟨"label", "label"⟩], form⟩
  ⟨[("countByLabel", query .countFiltered), ("deleteByLabel", query .deleteFiltered),
    ("labelled", query .selectFiltered)]⟩

/-- A store with two tags. -/
def twoTags : Store :=
  store [tag "a" "x", tag "b" "y"] []

/-- The store comes about by creating the table and adding the tags. -/
theorem reachable_twoTags : twoTags.Reachable := by
  have hkeys : ∀ c ∈ metadata.tableDefinition.columns, c.isRowKey = false := by decide
  have hdefinable : (Database.Alteration.createTable metadata.tableDefinition true).Definable := by
    intro i j c d hc _ hkey
    rw [hkeys c (List.mem_of_getElem? hc)] at hkey
    cases hkey
  have hcreated := (Store.Reachable.drawing []).alter session _ hdefinable
  have hfirst := hcreated.execute session (metadata.insertion true)
    (metadata.attributeValues (tag "a" "x") true)
  exact hfirst.execute session (metadata.insertion true)
    (metadata.attributeValues (tag "b" "y") true)

/-- Both tags can be read. -/
theorem readable_twoTags : (repository labelQueries).Readable twoTags := by
  have hrelation : (twoTags.seen session).relation? metadata.table =
      .ok (metadata.tableDefinition.columns,
        [⟨1, tag "a" "x"⟩, ⟨2, tag "b" "y"⟩]) := rfl
  have hfirst : shape.entityType.fromRow (Database.project metadata.tableDefinition.columns
      metadata.outputs ⟨1, tag "a" "x"⟩) = .ok (tag "a" "x") := rfl
  have hsecond : shape.entityType.fromRow (Database.project metadata.tableDefinition.columns
      metadata.outputs ⟨2, tag "b" "y"⟩) = .ok (tag "b" "y") := rfl
  intro columns rows h row hrow
  cases hrelation.symm.trans h
  rcases List.mem_cons.mp hrow with rfl | hrow
  · exact ⟨_, hfirst⟩
  · rw [List.mem_singleton.mp hrow]
    exact ⟨_, hsecond⟩

/-- The queries are registered one after another, the last two under names of methods. -/
theorem registered_labelQueries :
    Repository.Registered shape.entityType "labelled" .selectFiltered ["label"]
        (repository labelQueries) ∧
      Repository.Registered shape.entityType "countByLabel" .countFiltered ["label"]
        (repository labelQueries) ∧
      Repository.Registered shape.entityType "deleteByLabel" .deleteFiltered ["label"]
        (repository labelQueries) := by
  have hnew : Repository.Reachable shape.entityType (repository .empty) :=
    .new (show (Repository.new shape.entityType session .empty).result = .ok _ from rfl)
  have hfind : Repository.Registers (repository .empty) "labelled" .selectFiltered ["label"]
      (repository ⟨labelQueries.entries.drop 2⟩) := .explicit rfl
  have hcount : Repository.Registers (repository ⟨labelQueries.entries.drop 2⟩) "countByLabel"
      .countFiltered ["label"]
      (repository ⟨labelQueries.entries.take 1 ++ labelQueries.entries.drop 2⟩) :=
    .method (show Query.Method.parse _ = .ok ⟨.countFiltered, ["label"]⟩ from rfl) rfl
  have hdelete : Repository.Registers
      (repository ⟨labelQueries.entries.take 1 ++ labelQueries.entries.drop 2⟩) "deleteByLabel"
      .deleteFiltered ["label"] (repository labelQueries) :=
    .method (show Query.Method.parse _ = .ok ⟨.deleteFiltered, ["label"]⟩ from rfl) rfl
  have hfound := Repository.Registered.now hnew hfind
  have hcounted := Repository.Registered.now hfound.reachable hcount
  exact ⟨(hfound.before (.register hcount)).before (.register hdelete),
    hcounted.before (.register hdelete), .now hcounted.reachable hdelete⟩

end Tags

namespace Repository

/-- One of two tags is counted by its label and removed, and then it is neither found nor
counted. -/
theorem filtered_queries_labelled :
    let r := Tags.repository Tags.labelQueries
    let after := r.deleteBy "deleteByLabel" [.text "y"] Tags.twoTags
    r.countBy "countByLabel" [.text "y"] Tags.twoTags = .ok 1 ∧ after.result = .ok 1 ∧
      after.repository.findBy "labelled" [.text "y"] after.store = .ok [] ∧
      after.repository.countBy "countByLabel" [.text "y"] after.store = .ok 0 := by
  intro r after
  obtain ⟨hfind, hcount, hdelete⟩ := Tags.registered_labelQueries
  have hcounted : r.countBy "countByLabel" [.text "y"] Tags.twoTags = .ok 1 := rfl
  have hdone : after.result = .ok 1 := rfl
  rcases filtered_queries Tags.reachable_twoTags Tags.readable_twoTags hfind hcount hdelete
      (show [Value.text "y"].length = ["label"].length from rfl) with
    ⟨fault, -, -, hfault, -⟩ | ⟨columns, rows, found, -, h⟩
  · rw [hcounted] at hfault
    cases hfault
  · obtain ⟨-, -, -, -, hremoved⟩ := h
    obtain ⟨-, -, -, hnone, hzero⟩ := hremoved 1 hdone
    exact ⟨hcounted, hdone, hnone, hzero⟩

end Repository

end EntityStore

import EntityStore.Proofs.Repository.Requests
import EntityStore.Proofs.Repository.Resaving
/-!
# The rows that saves leave

A save inserts a row or updates the rows under an identifier.  This module says what is in the table
afterwards, for a table of whatever definition that passes no row over (`StrictIn`): a repository
uses any table that it finds under its name.  A row is under an identifier if a look-up would find
it (`IsUnder`), and it shows the values of an entity if it holds them as its columns store them
(`ShowsValues`).

* An insertion adds one row, under a key that no row had, which shows the values that were written
  (`Resolved.insertion_ok`).
* An update leaves every row under the identifier there, with the new values, and nothing else
  changes (`Resolved.replacement_ok`).
* So neither takes away the last row under an identifier (`hasRow_saving`).
-/

namespace EntityStore

variable {E : Type}

namespace Metadata

/-! ## 1. Rows of entities -/

/-- The table of the entities, or the view in its place, has a row with a property. -/
def HasRow (m : Metadata E) (db : Database) (p : List Column → Row → Prop) : Prop :=
  ∃ columns rows, db.relation? m.table = .ok (columns, rows) ∧ ∃ row ∈ rows, p columns row

/-- A look-up of the identifier finds the row. -/
def IsUnder (m : Metadata E) (identifier : Value) (columns : List Column) (row : Row) : Prop :=
  Table.holds columns row m.identifier.column identifier.bound = true

/-- A row shows the values of an entity, apart from the identifier. -/
def ShowsValues (m : Metadata E) (entity : E) (columns : List Column) (row : Row) : Prop :=
  ∀ a ∈ m.valueAttributes, Table.Shows columns row a.column (a.read entity)

/-- A table has a column for the identifier of an entity; where the entity leaves it to the store to
choose a key, this column shows the keys. -/
def Identifies (m : Metadata E) (entity : E) (definition : TableDefinition) : Prop :=
  ∃ c, Table.column? definition.columns m.identifier.column = some c ∧
    (m.isNew entity = true → m.identifier.kind = .integer → c.isRowKey = true)

/-- The table of the entities, if there is one, has a column for identifiers. -/
def HasIdentifier (m : Metadata E) (db : Database) : Prop :=
  ∀ t, db.table? m.table = some t → ∃ c, Table.column? t.columns m.identifier.column = some c

/-- The table of the entities, if there is one, passes no row over. -/
def StrictIn (m : Metadata E) (db : Database) : Prop :=
  ∀ t, db.table? m.table = some t → t.definition.Strict

variable {schema : EntitySchema E} {m : Metadata E} {db after : Database} {t : Table} {entity : E}
  {s : Session} {written : Store.Written} {p q : List Column → Row → Prop}

/-- Columns are never taken away. -/
theorem HasIdentifier.later (h : m.HasIdentifier db) (hlater : db.Later after) :
    m.HasIdentifier after := by
  intro t' ht'
  obtain ⟨t, ht, hgrown⟩ := hlater.table?_before ht'
  rw [Table.columns, hgrown.definition]
  exact h t ht

/-- Definitions are never changed. -/
theorem StrictIn.later (h : m.StrictIn db) (hlater : db.Later after) : m.StrictIn after := by
  intro t' ht'
  obtain ⟨t, ht, hgrown⟩ := hlater.table?_before ht'
  rw [hgrown.definition]
  exact h t ht

/-- A row of a table is a row. -/
theorem hasRow_table (h : db.table? m.table = some t) :
    m.HasRow db p ↔ ∃ row ∈ t.rows, p t.columns row := by
  constructor
  · rintro ⟨columns, rows, hrelation, hrow⟩
    cases (Database.relation?_eq h).symm.trans hrelation
    exact hrow
  · intro hrow
    exact ⟨_, _, Database.relation?_eq h, hrow⟩

theorem HasRow.mono (h : m.HasRow db p) (hpq : ∀ columns row, p columns row → q columns row) :
    m.HasRow db q := by
  obtain ⟨columns, rows, hrelation, row, hrow, hp⟩ := h
  exact ⟨columns, rows, hrelation, row, hrow, hpq columns row hp⟩

/-- No row is under `null`. -/
theorem HasRow.bound_ne_null {identifier : Value} (h : m.HasRow db (m.IsUnder identifier))
    (hdb : db.Sound) : identifier.bound ≠ .null := by
  obtain ⟨columns, rows, hrelation, row, hrow, hunder⟩ := h
  intro hnull
  rw [IsUnder, hnull, Database.holds_null (hdb.fits_relation hrelation row hrow)] at hunder
  cases hunder

/-- Rows with the same identifier in its column are under the same identifiers. -/
theorem isUnder_congr {columns : List Column} {c : Column} {row other : Row}
    (hc : Table.column? columns m.identifier.column = some c)
    (hread : Table.read columns other m.identifier.column =
      Table.read columns row m.identifier.column) (identifier : Value) :
    m.IsUnder identifier columns other ↔ m.IsUnder identifier columns row := by
  rw [IsUnder, IsUnder, Table.holds_of_column? hc, Table.holds_of_column? hc, hread]

/-! ## 2. Insertions -/

/-- What an insertion that can be performed comes to. -/
structure Inserts (m : Metadata E) (db : Database) (w : Bool) (entity : E) (t : Table) (row : Row)
    (after : Database) : Prop where
  table : db.table? m.table = some t
  fresh : t.row? row.key = none
  put : after = db.put (t.add row)
  found : after.table? m.table = some (t.add row)
  shows : ∀ a ∈ m.writtenAttributes w, Table.Shows t.columns row a.column (a.read entity)
  key : ∀ name c, Table.column? t.columns name = some c → c.isRowKey = true →
    Table.read t.columns row name = .integer row.key

/-- **An insertion adds one row**, which shows the values that are written. -/
theorem Resolved.insertion_ok (hm : m.Resolved schema) (hdb : db.Sound) (hstrict : m.StrictIn db)
    {w : Bool}
    (h : db.perform s (m.insertion w) (m.attributeValues entity w) = .ok (written, after)) :
    ∃ t row, written.key = some row.key ∧ m.Inserts db w entity t row after := by
  obtain ⟨t, htable, happly, hcolumns⟩ := Database.perform_columns h
  have htable : db.table? m.table = some t := htable
  obtain ⟨t', key, hinsert, hput, hkey⟩ := Database.apply_insert_done (hstrict t htable) happly
  obtain ⟨-, -, -, hadd⟩ := Database.insertRow_ok hinsert
  obtain ⟨-, hfresh, -, rfl⟩ := Database.addRow_eq_ok.mp hadd
  refine ⟨t, _, hkey, htable, hfresh, hput.symm, ?_, ?_, ?_⟩
  · rw [← hput]
    exact Database.table?_put htable rfl
  · intro a ha
    obtain ⟨c, hc⟩ := hcolumns a.slot (List.mem_map.mpr ⟨a, ha, rfl⟩)
    refine Database.shows_inserted (hdb.table? htable).oneKey hc ?_ hinsert
    rw [hm.given_column _ (writtenAttributes_subset w) ha (Table.same_of_column? hc),
      hm.value_attributeValues entity ha]
  · intro name c hc hkey
    rw [Database.read_newValues hc, hkey]
    rfl

/-- An entity without an identifier can only get one from the assigner. -/
theorem assigned_of_new {key : Int64} (hnew : m.isNew entity = true)
    (hpresent : m.isNew (m.assignIdentifier entity key) = false) :
    m.identifier.kind = .integer ∧ ∃ assign, m.assigner = some assign ∧
      m.assignIdentifier entity key = assign entity key := by
  unfold assignIdentifier assignIdentifier? at hpresent ⊢
  by_cases hkind : m.identifier.kind = .integer
  · rw [if_pos hkind] at hpresent ⊢
    cases hassigner : m.assigner with
    | none =>
      rw [hassigner, Option.map_none, Option.getD_none, hnew] at hpresent
      cases hpresent
    | some assign => exact ⟨hkind, assign, rfl, rfl⟩
  · rw [if_neg hkind, Option.getD_none, hnew] at hpresent
    cases hpresent

/-- **What comes back of an entity that was added is in the new row**, with its identifier if it
has got one. -/
theorem Inserts.shows_saved {row : Row} {saved : E} (hm : m.Resolved schema)
    (h : m.Inserts db (!m.isNew entity) entity t row after)
    (hassign : m.isNew entity = true → ∀ assign, m.assigner = some assign → m.WritesKeys assign)
    (hidentifies : m.Identifies entity t.definition)
    (hsaved : saved = if m.isNew entity then m.assignIdentifier entity row.key else entity)
    (hpresent : m.isNew saved = false) :
    Table.Shows t.columns row m.identifier.column (m.identifierValue saved) ∧
      m.ShowsValues saved t.columns row := by
  have hvalues : m.ShowsValues entity t.columns row := by
    intro a ha
    refine h.shows a ?_
    simp [writtenAttributes, mem_valueAttributes.mp ha]
  cases hnew : m.isNew entity with
  | false =>
    rw [hnew, if_neg Bool.false_ne_true] at hsaved
    subst hsaved
    refine ⟨h.shows m.identifier ?_, hvalues⟩
    simp [writtenAttributes, hnew, hm.identifier_mem.1]
  | true =>
    rw [hnew, if_pos rfl] at hsaved
    subst hsaved
    obtain ⟨hkind, assign, hassigner, heq⟩ := assigned_of_new hnew hpresent
    have hwrites := hassign hnew assign hassigner
    obtain ⟨c, hc, hkey⟩ := hidentifies
    have hrowkey : c.isRowKey = true := hkey hnew hkind
    have hstored : c.affinity.store (Value.integer row.key).bound = .integer row.key := by
      rw [Database.affinity_of_isRowKey hrowkey]
      rfl
    rw [heq]
    constructor
    · rw [hwrites.identifier]
      refine Table.shows_of_read hc ((h.key _ c hc hrowkey).trans hstored.symm) ?_
      intro _ hnull
      rw [hstored] at hnull
      cases hnull
    · intro a ha
      rw [hwrites.values entity row.key a ha]
      exact hvalues a ha

/-! ## 3. Replacements -/

/-- What a replacement that can be performed comes to. -/
structure Replaces (m : Metadata E) (db : Database) (entity : E) (t t' : Table)
    (after : Database) : Prop where
  table : db.table? m.table = some t
  found : after.table? m.table = some t'
  columns : t'.columns = t.columns
  replaced : ∀ row ∈ t.rows, m.IsUnder (m.identifierValue entity) t.columns row →
    ∃ other ∈ t'.rows, m.ShowsValues entity t.columns other ∧
      ∀ c, Table.column? t.columns m.identifier.column = some c →
        Table.read t.columns other m.identifier.column =
          Table.read t.columns row m.identifier.column
  untouched : ∀ row ∈ t.rows, ¬m.IsUnder (m.identifierValue entity) t.columns row → row ∈ t'.rows
  unchanged : (∀ row ∈ t.rows, ¬m.IsUnder (m.identifierValue entity) t.columns row) → t' = t

/-- A replacement is about the rows under the identifier. -/
theorem Resolved.mem_targets (hm : m.Resolved schema) {row : Row} :
    row ∈ Database.targets t ⟨m.table, [m.identifier.slot]⟩ (m.attributeValues entity true) ↔
      row ∈ t.rows ∧ m.IsUnder (m.identifierValue entity) t.columns row := by
  rw [Database.targets, List.mem_filter, hm.meetsAll_slot]
  rfl

/-- **A replacement gives the new values to every row under the identifier**, and leaves the others
alone. -/
theorem Resolved.replacement_ok (hm : m.Resolved schema) (hdb : db.Sound)
    (hstrict : m.StrictIn db) {change : Change} (hchange : m.replacement? = some change)
    (h : db.perform s change (m.attributeValues entity true) = .ok (written, after)) :
    ∃ t t', m.Replaces db entity t t' after := by
  obtain rfl := replacement?_eq_some hchange
  obtain ⟨t, htable, happly, hcolumns⟩ := Database.perform_columns h
  have htable : db.table? m.table = some t := htable
  have ht := hdb.table? htable
  obtain ⟨t', hrows, hput, hdef⟩ := Database.apply_update_ok happly
  have hsame : t'.columns = t.columns := congrArg TableDefinition.columns hdef
  have htargets : ∀ row ∈ Database.targets t ⟨m.table, [m.identifier.slot]⟩
      (m.attributeValues entity true), row ∈ t.rows := fun row hrow => (hm.mem_targets.mp hrow).1
  obtain ⟨hreplaced, hkept⟩ :=
    Database.changeRows_updateRow ht (hstrict t htable) htargets (Database.targets_keys ht _ _)
      hrows
  refine ⟨t, t', htable, ?_, hsame, ?_, ?_, ?_⟩
  · rw [← hput]
    exact Database.table?_put htable (congrArg TableDefinition.name hdef)
  · intro row hrow hunder
    obtain ⟨key, hother⟩ := hreplaced row (hm.mem_targets.mpr ⟨hrow, hunder⟩)
    have hlength : row.values.length = t.columns.length := (ht.fits row hrow).length
    have hsound : t'.Sound := by
      rw [show t' = (Database.changeRows _ _ t).1 from (congrArg Prod.fst hrows).symm]
      exact Database.sound_changeRows ht htargets
    refine ⟨_, hother, ?_, ?_⟩
    · intro a ha
      obtain ⟨c, hc⟩ := hcolumns a.slot (List.mem_map.mpr ⟨a, ha, rfl⟩)
      refine Database.shows_updated hc hlength (hsame ▸ hsound.fits _ hother) ?_
      have hw : a ∈ m.writtenAttributes true := by
        simp [writtenAttributes, (mem_valueAttributes.mp ha).1]
      rw [hm.given_column _ valueAttributes_subset ha (Table.same_of_column? hc),
        hm.value_attributeValues entity hw]
    · intro c hc
      rw [Database.read_otherValues hc hlength, hm.given_column_not_mem _ valueAttributes_subset
        hm.identifier_mem.1 hm.identifier_not_mem (Table.same_of_column? hc), Option.getD_none]
  · intro row hrow hnot
    refine hkept row hrow ?_
    intro other hother hkey
    obtain ⟨hmember, hunder⟩ := hm.mem_targets.mp hother
    rw [ht.eq_of_key hrow hmember hkey] at hnot
    exact hnot hunder
  · intro hnone
    have hempty : Database.targets t ⟨m.table, [m.identifier.slot]⟩
        (m.attributeValues entity true) = [] := by
      refine List.eq_nil_iff_forall_not_mem.mpr ?_
      intro row hrow
      obtain ⟨hmember, hunder⟩ := hm.mem_targets.mp hrow
      exact hnone row hmember hunder
    rw [hempty] at hrows
    simp only [Database.changeRows, Prod.mk.injEq] at hrows
    exact hrows.1.symm

/-- After a replacement there is a row with the new values under the identifier exactly if there was
a row under it before. -/
theorem Replaces.hasRow_iff {t' : Table} (h : m.Replaces db entity t t' after) {c : Column}
    (hc : Table.column? t.columns m.identifier.column = some c) :
    m.HasRow after (fun columns row => m.IsUnder (m.identifierValue entity) columns row ∧
      m.ShowsValues entity columns row) ↔ m.HasRow db (m.IsUnder (m.identifierValue entity)) := by
  rw [hasRow_table h.found, hasRow_table h.table, h.columns]
  constructor
  · rintro ⟨other, hother, hunder, -⟩
    by_contra hnone
    have hnot : ∀ row ∈ t.rows, ¬m.IsUnder (m.identifierValue entity) t.columns row := by
      intro row hrow hfound
      exact hnone ⟨row, hrow, hfound⟩
    rw [h.unchanged hnot] at hother
    exact hnot other hother hunder
  · rintro ⟨row, hrow, hunder⟩
    obtain ⟨other, hother, hshows, hread⟩ := h.replaced row hrow hunder
    exact ⟨other, hother, (isUnder_congr hc (hread c hc) _).mpr hunder, hshows⟩

/-- **No save takes away the last row under an identifier.** -/
theorem hasRow_saving (hm : m.Resolved schema) (hdb : db.Sound) (hstrict : m.StrictIn db)
    {known : Bool} {change : Change} {parameters : Parameters}
    (hsaving : Repository.Write.saving m entity known = some (change, parameters))
    (h : db.perform s change parameters = .ok (written, after))
    (hcolumn : m.HasIdentifier db) {identifier : Value}
    (hrow : m.HasRow db (m.IsUnder identifier)) : m.HasRow after (m.IsUnder identifier) := by
  cases known with
  | false =>
    cases hsaving
    obtain ⟨t, row, -, hinserts⟩ := hm.insertion_ok hdb hstrict h
    obtain ⟨other, hother, hunder⟩ := (hasRow_table hinserts.table).mp hrow
    exact (hasRow_table hinserts.found).mpr ⟨other, Table.mem_add.mpr (.inr hother), hunder⟩
  | true =>
    obtain ⟨found, hreplacement, heq⟩ := Option.map_eq_some_iff.mp hsaving
    cases heq
    obtain ⟨t, t', hreplaces⟩ := hm.replacement_ok hdb hstrict hreplacement h
    obtain ⟨c, hc⟩ := hcolumn t hreplaces.table
    obtain ⟨other, hother, hunder⟩ := (hasRow_table hreplaces.table).mp hrow
    rw [hasRow_table hreplaces.found, hreplaces.columns]
    by_cases htarget : m.IsUnder (m.identifierValue entity) t.columns other
    · obtain ⟨last, hlast, -, hread⟩ := hreplaces.replaced other hother htarget
      exact ⟨last, hlast, (isUnder_congr hc (hread c hc) _).mpr hunder⟩
    · exact ⟨other, hreplaces.untouched other hother htarget, hunder⟩

end Metadata

/-! ## 4. The phases of a save -/

namespace Repository

variable {type : EntityType E} {r : Repository E} {st : Store} {entity saved : E}
  {outcome : SaveOutcome}

/-- What is known has a row under its identifier. -/
theorem hasRow_of_isKnown (hidle : st.Idle) (hknown : r.isKnown entity st = .ok true) :
    r.metadata.HasRow st.committed (r.metadata.IsUnder (r.metadata.identifierValue entity)) := by
  cases habsent : (r.metadata.identifierValue entity).isAbsentIdentifier with
  | true =>
    rw [isKnown_of_absent habsent] at hknown
    cases hknown
  | false =>
  simp only [isKnown, habsent, Bool.false_eq_true, if_false, Session.contains, hidle.read]
    at hknown
  cases hrelation : st.committed.relation? r.metadata.table with
  | error fault =>
    simp only [Database.contains, Database.matching_error (f := r.metadata.sought) hrelation,
      Except.map, Except.mapError] at hknown
    cases hknown
  | ok relation =>
    obtain ⟨columns, rows⟩ := relation
    rw [Database.contains_eq (f := r.metadata.sought) hrelation] at hknown
    obtain ⟨row, hrow, hmeets⟩ := List.any_eq_true.mp (Except.ok.inj hknown)
    rw [r.metadata.meetsAll_sought] at hmeets
    exact ⟨columns, rows, hrelation, row, hrow, hmeets⟩

/-- **What a save that persists does to the table.**  It adds one row, and an entity that came
without an identifier comes back with the key of this row.  Or the table, which is not strict then,
has passed the row over: no row is added, and the entity comes back with the key that the session
had remembered before. -/
theorem Opened.added_or_passed (h : Opened type r)
    (hsaved : (r.write false entity st).result = .ok (saved, outcome)) :
    outcome = .persisted ∧ ∃ table, st.committed.table? r.metadata.table = some table ∧
      ((∃ row, st.committed.insertRow table
            (r.metadata.attributeValues entity
              !(r.metadata.identifierValue entity).isAbsentIdentifier)
            ((r.metadata.writtenAttributes
              !(r.metadata.identifierValue entity).isAbsentIdentifier).map MappedAttribute.slot) =
              .ok (table.add row, row.key) ∧
          table.row? row.key = none ∧
          (r.write false entity st).store =
            { st with committed := st.committed.put (table.add row) } ∧
          (r.write false entity st).repository.session = r.session.remember row.key ∧
          saved = if (r.metadata.identifierValue entity).isAbsentIdentifier then
            r.metadata.assignIdentifier entity row.key else entity) ∨
        ¬table.definition.Strict ∧ ∃ key,
          (r.write false entity st).store =
            { st with committed := st.committed.put (table.record key) } ∧
          (r.write false entity st).repository.session = r.session ∧
          saved = if (r.metadata.identifierValue entity).isAbsentIdentifier then
            r.metadata.assignIdentifier entity r.session.lastKey else entity) := by
  obtain ⟨houtcome, hidle, written, db, hperform, hsaved', hstore⟩ := h.write_unknown_ok hsaved
  have hsession : (r.write false entity st).repository.session =
      r.session.remember (written.key.getD r.session.lastKey) := by
    simp only [write, repository_report, Bool.false_eq_true, if_false, persistWork_eq]
    exact session_transact_statement hidle hperform
  obtain ⟨table, htable, happly⟩ := Database.perform_ok hperform
  have htable : st.committed.table? r.metadata.table = some table := htable
  refine ⟨houtcome, table, htable, ?_⟩
  rcases Database.apply_insert_cases happly with
    ⟨table', key, hinsert, rfl, hkey⟩ | ⟨key, hpassed, rfl, -, hkey⟩
  · obtain ⟨-, -, -, hadd⟩ := Database.insertRow_ok hinsert
    obtain ⟨-, hfresh, -, rfl⟩ := Database.addRow_eq_ok.mp hadd
    rw [hkey] at hsession
    refine .inl ⟨_, hinsert, hfresh, hstore, hsession, ?_⟩
    rw [hsaved', persisted, hkey]
    rfl
  · rw [hkey] at hsession
    refine .inr ⟨(Database.insertRow_passed hpassed).2, key, hstore, hsession, ?_⟩
    rw [hsaved', persisted, hkey]
    rfl

/-- **What is added to a strict table comes back with the key of its own row**, if it came without
an identifier. -/
theorem Opened.row_of_write (h : Opened type r) (hstrict : r.metadata.StrictIn st.committed)
    (hsaved : (r.write false entity st).result = .ok (saved, outcome)) :
    outcome = .persisted ∧ ∃ table row,
      st.committed.table? r.metadata.table = some table ∧
        st.committed.insertRow table
          (r.metadata.attributeValues entity
            !(r.metadata.identifierValue entity).isAbsentIdentifier)
          ((r.metadata.writtenAttributes
            !(r.metadata.identifierValue entity).isAbsentIdentifier).map MappedAttribute.slot) =
            .ok (table.add row, row.key) ∧
        table.row? row.key = none ∧
        (r.write false entity st).store =
          { st with committed := st.committed.put (table.add row) } ∧
        saved = if (r.metadata.identifierValue entity).isAbsentIdentifier then
          r.metadata.assignIdentifier entity row.key else entity := by
  obtain ⟨houtcome, table, htable, hadded | ⟨hlax, -⟩⟩ := h.added_or_passed hsaved
  · obtain ⟨row, hinsert, hfresh, hstore, -, hsaved'⟩ := hadded
    exact ⟨houtcome, table, row, htable, hinsert, hfresh, hstore, hsaved'⟩
  · exact absurd (hstrict table htable) hlax

end Repository

end EntityStore

import EntityStore.Proofs.Repository.Queries
import EntityStore.Proofs.Repository.Columns
/-!
# Which columns an entity is read from

The columns of a result bear the names of attributes, and a result is asked for a column by name,
ignoring case.  Resolution keeps the names of attributes apart, and their columns, but not the names
with their case ignored: `ab` and `aB` are both accepted, with the columns `ab` and `a_b`.  What is
read under the second name is the column of the first.

So an attribute has the value of the first attribute with its name, ignoring case
(`get_project`).  That is the value of its own column wherever names differ in more than case
(`DistinctLabels`), and then everything that a repository returns was read from the right columns,
and a removal by identifier takes out no row with another one.

Main statement: `decoded_from_own_columns`.
-/

namespace EntityStore

variable {E α : Type}

/-! ## 1. Columns of a result -/

namespace Metadata

variable {m : Metadata E} {a : MappedAttribute E} {columns : List Column} {row : Row}

/-- No two attributes have names that differ in case only. -/
def DistinctLabels (m : Metadata E) : Prop :=
  (m.attributes.map fun a => Name.fold a.name).Nodup

/-- An entity has the values of a row, each attribute that of its own column. -/
def Decodes (m : Metadata E) (columns : List Column) (row : Row) (entity : E) : Prop :=
  ∀ a ∈ m.attributes, a.read entity = Table.read columns row a.column

/-- **What a result has under a name** is the column of the first attribute with the name, ignoring
case. -/
theorem get_project (m : Metadata E) (columns : List Column) (row : Row) (name : String) :
    (Database.project columns m.outputs row).get name =
      match m.attributes.find? fun a => Name.same a.name name with
      | some a => .ok (Table.read columns row a.column)
      | none => .error (.columnName name) := by
  have hcells : (Database.project columns m.outputs row).cells =
      m.attributes.map fun a => (a.name, Table.read columns row a.column) := by
    simp only [Database.project, outputs, List.map_map]
    rfl
  have hindex : (Database.project columns m.outputs row).index? name =
      m.attributes.findIdx? fun a => Name.same a.name name := by
    unfold ResultRow.index?
    rw [hcells, List.findIdx?_map]
    rfl
  unfold ResultRow.get ResultRow.cell?
  rw [hindex, hcells, List.find?_eq_bind_findIdx?_getElem?]
  cases m.attributes.findIdx? fun a => Name.same a.name name with
  | none => rfl
  | some i =>
    simp only [Option.bind_some, List.getElem?_map]
    cases m.attributes[i]? with
    | none => rfl
    | some a => rfl

/-- An attribute is found under its name if names differ in more than case. -/
theorem DistinctLabels.find? (h : m.DistinctLabels) (ha : a ∈ m.attributes) :
    (m.attributes.find? fun b => Name.same b.name a.name) = some a := by
  cases hfound : m.attributes.find? fun b => Name.same b.name a.name with
  | none =>
    have hnone := List.find?_eq_none.mp hfound a ha
    rw [Name.same_refl] at hnone
    exact absurd rfl hnone
  | some b =>
    have hmem := List.mem_of_find?_eq_some hfound
    have hsame := List.find?_some hfound
    rw [List.inj_on_of_nodup_map h hmem ha (eq_of_beq hsame)]

end Metadata

/-- Entities are read by name: an attribute has what the row has under the attribute's name. -/
def EntityType.ReadsByName (t : EntityType E) (m : Metadata E) : Prop :=
  ∀ row entity, t.fromRow row = .ok entity →
    ∀ a ∈ m.attributes, row.get a.name = .ok (a.read entity)

/-- An entity that is read by name has the values of its own columns. -/
theorem EntityType.ReadsByName.decodes {t : EntityType E} {m : Metadata E}
    (ht : t.ReadsByName m) (hm : m.DistinctLabels) {columns : List Column} {row : Row} {entity : E}
    (h : t.fromRow (Database.project columns m.outputs row) = .ok entity) :
    m.Decodes columns row entity := by
  intro a ha
  have hget := ht _ _ h a ha
  rw [m.get_project, hm.find? ha] at hget
  exact (Except.ok.inj hget).symm

/-! ## 2. Lists of entities -/

/-- Rows that are read are read one by one. -/
theorem Session.decode_ok {fromRow : ResultRow → Except StoreFault E} {rows : List ResultRow}
    {entities : List E} (h : decode fromRow rows = .ok entities) :
    List.Forall₂ (fun row entity => fromRow row = .ok entity) rows entities := by
  induction rows generalizing entities with
  | nil =>
    cases h
    exact .nil
  | cons row rest ih =>
    unfold decode at h
    split at h
    · cases h
    rename_i entity hentity
    split at h
    · cases h
    rename_i others hothers
    cases h
    exact .cons hentity (ih hothers)

/-- The rows of a selection are rows of its table, in some order. -/
theorem Database.select_ok {db : Database} {selection : Selection} {parameters : Parameters}
    {results : List ResultRow} (h : db.select selection parameters = .ok results) :
    ∃ columns rows, ∃ found : List Row, db.relation? selection.table =
        .ok (columns, rows) ∧
      found.Perm (rows.filter (Table.meetsAll columns selection.conditions parameters)) ∧
      results = found.map (project columns selection.outputs) := by
  unfold select matching at h
  cases hrelation : db.relation? selection.table with
  | error fault =>
    rw [hrelation] at h
    cases h
  | ok relation =>
    obtain ⟨columns, rows⟩ := relation
    rw [hrelation] at h
    cases h
    refine ⟨columns, rows, _, rfl, ?_, rfl⟩
    split
    · exact sortRows_perm _ _ _
    · exact .refl _

/-- What a query of a session gives was read off the rows that the session sees. -/
theorem Session.queryRows_ok {s : Session} {st : Store} {selection : Selection}
    {parameters : Parameters} {fromRow : ResultRow → Except StoreFault E} {entities : List E}
    (h : s.queryRows st selection parameters fromRow = .ok entities) :
    ∃ columns rows, ∃ found : List Row,
      (st.seen s).relation? selection.table = .ok (columns, rows) ∧
      found.Perm (rows.filter (Table.meetsAll columns selection.conditions parameters)) ∧
      List.Forall₂ (fun row entity =>
        fromRow (Database.project columns selection.outputs row) = .ok entity) found entities := by
  unfold queryRows at h
  rcases st.read_cases s selection.table with ⟨fault, hrefused⟩ | hanswered
  · rw [hrefused] at h
    cases h
  rw [hanswered] at h
  cases hselect : (st.seen s).select selection parameters with
  | error fault =>
    rw [hselect] at h
    cases h
  | ok results =>
    obtain ⟨columns, rows, found, hrelation, hperm, rfl⟩ := Database.select_ok hselect
    rw [hselect] at h
    dsimp only at h
    cases hdecode : decode fromRow (found.map (Database.project columns selection.outputs)) with
    | error fault =>
      rw [hdecode] at h
      cases h
    | ok decoded =>
      rw [hdecode] at h
      cases h
      exact ⟨columns, rows, found, hrelation, hperm,
        List.forall₂_map_left_iff.mp (decode_ok hdecode)⟩

namespace Repository

variable {t : EntityType E} {r : Repository E} {st : Store}

/-- Entities that were read off the rows of the repository's table that are picked, each off a row
of its own and each attribute off its own column. -/
def DecodedFrom (r : Repository E) (st : Store) (picks : List Column → Row → Bool)
    (entities : List E) : Prop :=
  ∃ columns rows, ∃ found : List Row,
    (st.seen r.session).relation? r.metadata.table = .ok (columns, rows) ∧
    found.Perm (rows.filter (picks columns)) ∧
    List.Forall₂ (r.metadata.Decodes columns) found entities

/-! ## 3. Finding -/

section Finding

variable (hr : Reachable t r) (ht : t.ReadsByName r.metadata) (hm : r.metadata.DistinctLabels)

include hr ht hm

/-- The entities of a selection of whole rows. -/
theorem decodedFrom_select (selection : Selection) {operation : Operation}
    {parameters : Parameters} {entities : List E} (htable : selection.table = r.metadata.table)
    (houtputs : selection.outputs = r.metadata.outputs)
    (h : r.select operation selection parameters st = .ok entities) :
    r.DecodedFrom st (fun columns => Table.meetsAll columns selection.conditions parameters)
      entities := by
  unfold Repository.select at h
  cases hquery : r.session.queryRows st selection parameters r.entityType.fromRow with
  | error fault =>
    rw [hquery] at h
    cases h
  | ok decoded =>
    rw [hquery] at h
    cases h
    obtain ⟨columns, rows, found, hrelation, hperm, hread⟩ := Session.queryRows_ok hquery
    rw [htable] at hrelation
    rw [houtputs, hr.opened.entityType] at hread
    exact ⟨columns, rows, found, hrelation, hperm, hread.imp fun _ _ => ht.decodes hm⟩

theorem decodedFrom_findAll {entities : List E} (h : r.findAll st = .ok entities) :
    r.DecodedFrom st (fun _ _ => true) entities :=
  decodedFrom_select hr ht hm (Query.Descriptor.unfiltered r.metadata .selectAll).selection rfl rfl
    h

/-- What is found under an identifier is the first of the entities that hold it. -/
theorem decodedFrom_findById {identifier : Value} {found : Option E}
    (h : r.findById identifier st = .ok found) :
    ∃ entities, found = entities.head? ∧ r.DecodedFrom st
      (fun columns row => Table.holds columns row r.metadata.identifier.column identifier.bound)
      entities := by
  unfold findById Session.find at h
  cases hquery : r.session.queryRows st r.metadata.lookup (Metadata.soughtValue identifier)
      r.entityType.fromRow with
  | error fault =>
    rw [hquery] at h
    cases h
  | ok entities =>
    rw [hquery] at h
    cases h
    have hselect : r.select .find r.metadata.lookup (Metadata.soughtValue identifier) st =
        .ok entities := by
      rw [Repository.select, hquery]
      rfl
    have hdecoded := decodedFrom_select hr ht hm r.metadata.lookup rfl rfl hselect
    have hsought : (fun columns row => Table.meetsAll columns r.metadata.lookup.conditions
        (Metadata.soughtValue identifier) row) = fun columns row =>
          Table.holds columns row r.metadata.identifier.column identifier.bound := by
      funext columns row
      exact r.metadata.meetsAll_sought columns identifier row
    exact ⟨entities, rfl, hsought ▸ hdecoded⟩

omit ht hm in
/-- Every registered query reads whole rows of the repository's table. -/
theorem find?_queries {key : String} {d : Query.Descriptor} (h : r.queries.find? key = some d) :
    d.table = r.metadata.table ∧ d.outputs = r.metadata.outputs := by
  induction hr with
  | new hnew =>
    unfold Repository.new at hnew
    split at hnew
    · cases hnew
    dsimp only at hnew
    split at hnew
    · cases hnew
    cases hnew
    cases h
  | step hr hstep ih =>
    cases hstep with
    | register hreg =>
      obtain ⟨e, queries, hbuild, hinsert, rfl⟩ := hreg.eq
      rw [Query.Registry.find?_insert hinsert] at h
      split at h
      · cases h
        obtain ⟨-, rfl⟩ := Query.Descriptor.build_ok hr.opened.metadata hbuild
        exact ⟨rfl, rfl⟩
      · exact ih h
    | write call st =>
      rcases traced_run _ st call with hsame | ⟨x, key, -, hsame⟩ <;> rw [hsame] at h ⊢ <;>
        exact ih h

omit hr ht hm in
/-- A query that is run was found in the registry. -/
theorem prepareQuery_ok {key : String} {form : Query.Form} {arguments : List Value}
    {d : Query.Descriptor} {parameters : Parameters}
    (h : r.prepareQuery key form arguments = .ok (d, parameters)) :
    r.queries.find? key = some d := by
  unfold prepareQuery at h
  split at h
  · cases h
  rename_i found hlookup
  split at h
  · cases h
  cases h
  unfold Query.Registry.lookup at hlookup
  split at hlookup
  · cases hlookup
  rename_i hfind
  split at hlookup
  · cases hlookup
    exact hfind
  · cases hlookup

/-- What a registered query finds. -/
theorem decodedFrom_findBy {key : String} {arguments : List Value} {entities : List E}
    (h : r.findBy key arguments st = .ok entities) :
    ∃ d parameters, r.prepareQuery key .selectFiltered arguments = .ok (d, parameters) ∧
      r.DecodedFrom st (fun columns => Table.meetsAll columns d.conditions parameters)
        entities := by
  unfold findBy at h
  split at h
  · cases h
  rename_i d parameters hprepare
  obtain ⟨htable, houtputs⟩ := find?_queries hr (prepareQuery_ok hprepare)
  exact ⟨d, parameters, hprepare, decodedFrom_select hr ht hm d.selection htable houtputs h⟩

end Finding

end Repository

/-! ## 4. Values that match a matching value -/

/-- A value that matches anything is compared unchanged. -/
theorem Affinity.compare_of_matches {affinity : Affinity} {held given : Value}
    (h : affinity.matches? held given = true) : affinity.compare held = held := by
  have hnumber : ∀ s, held = .text s → held.equals (toNumber given) = true →
      toNumber held = held := by
    intro s hs hequal
    subst hs
    cases given with
    | text s' =>
      cases hread : Numeral.read? s' with
      | none =>
        have hkept : toNumber (.text s') = .text s' := by simp [toNumber, hread]
        rw [hkept] at hequal
        rw [eq_of_beq hequal]
        exact hkept
      | some n =>
        cases n <;> simp [toNumber, hread, Value.ofNumber, Value.equals, Value.scaled?] at hequal
    | null | integer _ | real _ | blob _ =>
      simp [toNumber, Value.equals, Value.scaled?] at hequal
  unfold matches? at h
  cases affinity with
  | none => rfl
  | text =>
    cases held <;> cases given <;>
      simp [compare, toText, Value.equals, Value.scaled?] at h ⊢
  | integer | real =>
    cases held with
    | text s => exact hnumber s rfl h
    | null | integer _ | real _ | blob _ => rfl

/-- No value matches one that is passed as `null`. -/
theorem Affinity.matches?_null (affinity : Affinity) (held : Value) :
    affinity.matches? held .null = false := by
  cases affinity <;> simp [matches?, compare, toNumber, toText]

theorem Affinity.matches?_trans {affinity : Affinity} {held other given : Value}
    (h : affinity.matches? held given = true)
    (hother : affinity.matches? other held.bound = true) :
    affinity.matches? other given = true := by
  have hbound : held.bound = held := by
    unfold Value.bound
    split
    · split
      · rename_i hnan
        simp only [Value.bound, hnan, if_true, Affinity.matches?_null] at hother
        cases hother
      · rfl
    · rfl
  rw [hbound, matches?, Affinity.compare_of_matches h] at hother
  exact Value.equals_trans hother h

/-- **What matches a matching value matches**, in one column of rows that fit their columns. -/
theorem Table.holds_trans {columns : List Column} {row other : Row} (hfits : row.Fits columns)
    {name : String} {given : Value} (h : holds columns row name given = true)
    (hother : holds columns other name (read columns row name).bound = true) :
    holds columns other name given = true := by
  unfold holds at *
  cases hcolumn : columns.find? fun c => Name.same c.name name with
  | none =>
    rw [hcolumn] at h hother
    exact Affinity.matches?_trans h hother
  | some c =>
    rw [hcolumn] at h hother
    dsimp only at h hother ⊢
    unfold Column.matches? at *
    by_cases hkey : c.isRowKey = true
    · rw [if_pos hkey] at *
      rw [Database.read_of_isRowKey hfits hcolumn hkey] at h hother
      have hkept : c.affinity.store (Value.bound (.integer row.key)) = .integer row.key := by
        rw [Database.affinity_of_isRowKey hkey]
        rfl
      rw [hkept, beq_iff_eq] at hother
      rw [hother]
      exact h
    · rw [if_neg hkey] at *
      exact Affinity.matches?_trans h hother

/-! ## 5. Removing -/

namespace Repository

variable {t : EntityType E} {r : Repository E} {st : Store}

/-- A removal in a transaction takes the rows of its filter out of a committed table, or changes
nothing. -/
theorem store_transact_delete (hx : r.executor.state ≠ .active) (hst : st.Reachable)
    (operation : Operation) (f : Filter) (parameters : Parameters)
    (result : Int64 → Store.Written → α) :
    (r.transact st
        (r.attempt operation (statement r.session (.delete f) parameters result))).store = st ∨
      st.Idle ∧ ∃ table, st.committed.table? f.table = some table ∧
        (r.transact st
          (r.attempt operation (statement r.session (.delete f) parameters result))).store =
          { st with
            committed := st.committed.put
              (table.without (Table.meetsAll table.columns f.conditions parameters)) } := by
  by_cases hidle : st.Idle
  · cases hperform : st.committed.perform r.session (.delete f) parameters with
    | error fault =>
      obtain ⟨fault', -, hstore⟩ := transact_statement_error (r := r) hidle hperform
      exact .inl hstore
    | ok done =>
      obtain ⟨written, db⟩ := done
      obtain ⟨-, hstore⟩ := transact_statement_ok (r := r) hidle hperform
      obtain ⟨table, htable, happly⟩ := Database.perform_ok hperform
      have htable : st.committed.table? f.table = some table := htable
      obtain ⟨-, rfl⟩ := Database.apply_delete_done (hst.sound.committed.table? htable) happly
      exact .inr ⟨hidle, table, htable, hstore⟩
  · obtain ⟨fault, -, hstore⟩ := transact_refused hx hidle _
    exact .inl hstore

/-- **A removal by identifier takes out rows with that identifier only.**  It addresses them by the
identifier of the entity that was found, which is what a row with the sought identifier holds. -/
theorem store_deleteById (hr : Reachable t r) (ht : t.ReadsByName r.metadata)
    (hm : r.metadata.DistinctLabels) (hst : st.Reachable) (identifier : Value) :
    (r.deleteById identifier st).store = st ∨
      ∃ table p, st.committed.table? r.metadata.table = some table ∧
        (∀ row ∈ table.rows, p row = true →
          Table.holds table.columns row r.metadata.identifier.column identifier.bound = true) ∧
        (r.deleteById identifier st).store =
          { st with committed := st.committed.put (table.without p) } := by
  unfold deleteById
  split
  · exact .inl rfl
  · exact .inl rfl
  rename_i entity hfind
  obtain ⟨entities, hhead, columns, rows, found, hrelation, hperm, hdecoded⟩ :=
    decodedFrom_findById hr ht hm hfind
  rcases store_transact_delete hr.opened.executor hst .remove r.metadata.sought
      (Metadata.soughtValue (r.metadata.identifierValue entity))
      (fun _ written => written.changed) with
    hsame | ⟨hidle, table, htable, hstore⟩
  · exact .inl hsame
  refine .inr ⟨table, _, htable, ?_, hstore⟩
  intro other _ hother
  rw [Metadata.meetsAll_sought] at hother
  rw [hidle.seen, Database.relation?, show st.committed.table? r.metadata.table = some table
    from htable] at hrelation
  obtain ⟨rfl, rfl⟩ := Prod.mk.inj (Except.ok.inj hrelation)
  cases hdecoded with
  | nil => cases hhead
  | cons hrow hrest =>
    rename_i row first found others
    obtain rfl : entity = first := Option.some.inj hhead
    have hmem := hperm.mem_iff.mp List.mem_cons_self
    obtain ⟨hrow', hholds⟩ := List.mem_filter.mp hmem
    have hidentifier : r.metadata.identifierValue entity =
        Table.read table.columns row r.metadata.identifier.column :=
      hrow _ hr.opened.metadata.identifier_mem.1
    rw [hidentifier] at hother
    exact Table.holds_trans ((hst.sound.committed.table? htable).fits row hrow') hholds hother

/-- **Rows are decoded from the right columns**, if names of attributes differ in more than case.
Let a repository read its entities by name, on a store that sessions brought about.  Then every
entity that `findById`, `findAll` or `findBy` gives is read off a row of the repository's table,
each attribute off its own column, and every row is read once; and a removal by identifier takes no
row out of the table but those that hold the identifier, and changes nothing else. -/
theorem decoded_from_own_columns (hr : Reachable t r) (ht : t.ReadsByName r.metadata)
    (hm : r.metadata.DistinctLabels) (hst : st.Reachable) :
    (∀ identifier found, r.findById identifier st = .ok found →
      ∃ entities, found = entities.head? ∧ r.DecodedFrom st
        (fun columns row => Table.holds columns row r.metadata.identifier.column identifier.bound)
        entities) ∧
    (∀ entities, r.findAll st = .ok entities → r.DecodedFrom st (fun _ _ => true) entities) ∧
    (∀ key arguments entities, r.findBy key arguments st = .ok entities →
      ∃ d parameters, r.prepareQuery key .selectFiltered arguments = .ok (d, parameters) ∧
        r.DecodedFrom st (fun columns => Table.meetsAll columns d.conditions parameters)
          entities) ∧
    (∀ identifier, (r.deleteById identifier st).store = st ∨
      ∃ table p, st.committed.table? r.metadata.table = some table ∧
        (∀ row ∈ table.rows, p row = true →
          Table.holds table.columns row r.metadata.identifier.column identifier.bound = true) ∧
        (r.deleteById identifier st).store =
          { st with committed := st.committed.put (table.without p) }) := by
  refine ⟨?_, ?_, ?_, ?_⟩
  · intro identifier found h
    exact decodedFrom_findById hr ht hm h
  · intro entities h
    exact decodedFrom_findAll hr ht hm h
  · intro key arguments entities h
    exact decodedFrom_findBy hr ht hm h
  · intro identifier
    exact store_deleteById hr ht hm hst identifier

end Repository

/-! ## 6. Pairs

Records of two integers, the second of which identifies them, under names that are left open.  They
are read by name and not converted. -/

/-- Values that are read and not converted are those that the row has under their names. -/
theorem RecordShape.readAttributes_untyped {row : ResultRow} {attributes : List Attribute}
    {record : Record} (h : readAttributes false row attributes = .ok record) :
    List.Forall₂ (fun a value => row.get a.name = .ok value) attributes record := by
  induction attributes generalizing record with
  | nil =>
    cases h
    exact .nil
  | cons a rest ih =>
    unfold readAttributes at h
    split at h
    · cases h
    rename_i value hvalue
    split at h
    · cases h
    rename_i values hvalues
    cases h
    exact .cons hvalue (ih hvalues)

namespace Pairs

/-- The shape of pairs with these names. -/
def shape (amount code : String) : RecordShape where
  name := "Pair"
  attributes := [.new amount .integer, .id code .integer]
  accessors := [(amount, 0), (code, 1)]
  assigner := false
  typed := false

/-- The attributes with their columns and accessors. -/
def metadata (amount code : String) : Metadata Record where
  entity := "Pair"
  table := "pair"
  attributes := [⟨.new amount .integer, Name.storage amount, RecordShape.field 0⟩,
    ⟨.id code .integer, Name.storage code, RecordShape.field 1⟩]
  identifier := ⟨.id code .integer, Name.storage code, RecordShape.field 1⟩
  assigner := none

/-- A repository of pairs. -/
def repository (amount code : String) : Repository Record :=
  ⟨Tags.session, (shape amount code).entityType, metadata amount code, .empty, .new⟩

/-- A pair. -/
def pair (amount code : Int64) : Record :=
  [.integer amount, .integer code]

/-- The table of the pairs `(2, 1)` and `(5, 2)`. -/
def table (amount code : String) : Table :=
  ⟨(metadata amount code).tableDefinition, [⟨1, pair 2 1⟩, ⟨2, pair 5 2⟩], 2, []⟩

/-- A store with that table. -/
def store (amount code : String) : Store :=
  ⟨{ Database.empty with tables := [table amount code] }, none, true⟩

/-- Pairs are read by name, whatever the names are. -/
theorem readsByName (amount code : String) :
    (shape amount code).entityType.ReadsByName (metadata amount code) := by
  intro row record h
  have hread : List.Forall₂ (fun a value => row.get a.name = .ok value)
      (shape amount code).attributes record := RecordShape.readAttributes_untyped h
  intro a ha
  cases hread with
  | cons hamount hrest =>
    cases hrest with
    | cons hcode hnil =>
      cases hnil
      rcases List.mem_cons.mp ha with rfl | ha
      · exact hamount
      · rw [List.mem_singleton.mp ha]
        exact hcode

/-- The store comes about by creating the table and adding the pairs. -/
theorem reachable_store : (store "amount" "code").Reachable := by
  have hresolved : (metadata "amount" "code").Resolved (shape "amount" "code").schema :=
    Metadata.resolved_of_resolve rfl
  have hcreated := (Store.Reachable.drawing []).alter Tags.session
    (.createTable (metadata "amount" "code").tableDefinition true) hresolved.oneKey
  have hfirst := hcreated.execute Tags.session ((metadata "amount" "code").insertion true)
    ((metadata "amount" "code").attributeValues (pair 2 1) true)
  exact hfirst.execute Tags.session ((metadata "amount" "code").insertion true)
    ((metadata "amount" "code").attributeValues (pair 5 2) true)

end Pairs

namespace Repository

/-- A pair is found and removed by its code. -/
theorem decoded_from_own_columns_pair :
    let r := Pairs.repository "amount" "code"
    let st := Pairs.store "amount" "code"
    r.findById (.integer 1) st = .ok (some (Pairs.pair 2 1)) ∧
      (∃ entities, some (Pairs.pair 2 1) = entities.head? ∧ r.DecodedFrom st
        (fun columns row => Table.holds columns row "code" (.integer 1)) entities) ∧
      ((r.deleteById (.integer 1) st).store = st ∨
        ∃ table p, st.committed.table? "pair" = some table ∧
          (∀ row ∈ table.rows, p row = true →
            Table.holds table.columns row "code" (.integer 1) = true) ∧
          (r.deleteById (.integer 1) st).store =
            { st with committed := st.committed.put (table.without p) }) := by
  have hfound : (Pairs.repository "amount" "code").findById (.integer 1)
      (Pairs.store "amount" "code") = .ok (some (Pairs.pair 2 1)) := rfl
  intro r st
  have hnew : Reachable (Pairs.shape "amount" "code").entityType r :=
    .new (show (Repository.new _ Tags.session .empty).result = .ok r from rfl)
  have hlabels : r.metadata.DistinctLabels := by
    show (r.metadata.attributes.map fun a => Name.fold a.name).Nodup
    decide
  obtain ⟨hfind, -, -, hdelete⟩ :=
    decoded_from_own_columns hnew (Pairs.readsByName "amount" "code") hlabels
      Pairs.reachable_store
  exact ⟨hfound, hfind _ _ hfound, hdelete (.integer 1)⟩

/-- Names that differ in case only are accepted, and then the second attribute is read from the
column of the first.  The pair with the code `1` is found with the code `2`, and if it is to be
removed, the pair with the code `2` is removed in its place. -/
theorem decoded_from_other_column :
    let r := Pairs.repository "ab" "aB"
    let opened := (Repository.new (Pairs.shape "ab" "aB").entityType Tags.session .empty).state
    let st := (r.save (Pairs.pair 5 2) (r.save (Pairs.pair 2 1) opened).store).store
    (Repository.new (Pairs.shape "ab" "aB").entityType Tags.session .empty).result = .ok r ∧
      (Pairs.shape "ab" "aB").entityType.ReadsByName r.metadata ∧
      st = Pairs.store "ab" "aB" ∧
      r.findById (.integer 1) st = .ok (some (Pairs.pair 2 2)) ∧
      (r.deleteById (.integer 1) st).result = .ok () ∧
      (r.deleteById (.integer 1) st).store.committed.tables.map (·.rows) =
        [[⟨1, Pairs.pair 2 1⟩]] :=
  ⟨rfl, Pairs.readsByName "ab" "aB", rfl, rfl, rfl, rfl⟩

end Repository

end EntityStore

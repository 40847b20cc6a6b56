import EntityStore.Proofs.Repository.Refinement
import EntityStore.Proofs.Repository.GeneratedKeys
/-!
# Ledgers

A store is a ledger of a repository (`Ledger`) if nothing but the repository has to do with its
table, keys are generated, and the table remembers the number of keys that were given out.  On a
ledger every operation succeeds and comes to a definite answer, and what it leaves behind is a
ledger again:

* saving a new entity writes a row at the end, under the next number (`Ledger.save_new`);
* saving an entity again writes its values into its row (`Ledger.save_known`);
* removing entities takes their rows away, but no number comes back (`Ledger.deleteAll`,
  `Ledger.deleteById`).

The numbers are natural ones here; as keys they have to stay below `2 ^ 63`.
-/

namespace EntityStore

/-! ## 1. Numbered rows -/

namespace Table

variable {t : Table} {row : Row} {k : Nat}

/-- A row with the largest key stands last. -/
theorem place_last {rows : List Row} (h : ∀ other ∈ rows, other.key < row.key) :
    place row rows = rows ++ [row] := by
  induction rows with
  | nil => rfl
  | cons other rest ih =>
    have hnot : ¬ row.key < other.key := fun hlt =>
      Int64.lt_irrefl (Int64.lt_trans hlt (h other List.mem_cons_self))
    rw [place, if_neg hnot, ih fun x hx => h x (List.mem_cons_of_mem _ hx)]
    rfl

theorem toInt_key (hk : k < 2 ^ 63) : (Int64.ofNat k).toInt = k :=
  Int64.toInt_ofNat_of_lt hk

theorem eq_key {key : Int64} (hk : k < 2 ^ 63) (h : key.toInt = k) : key = Int64.ofNat k :=
  Int64.toInt_inj.mp (h.trans (toInt_key hk).symm)

/-- **Where keys are recorded, the store numbers the rows.** -/
theorem chooseKey_recorded (hsound : t.Sound) (hrecorded : t.Recorded)
    (hauto : t.isAutoincrement = true) (hlast : t.lastKey.toInt = k) (hroom : k + 1 < 2 ^ 63) :
    t.chooseKey = .ok (Int64.ofNat (k + 1)) := by
  have hmax : maxKey.toInt = 2 ^ 63 - 1 := Int64.toInt_maxValue
  have hlastmax : t.lastKey ≠ maxKey := fun h => by
    rw [h] at hlast
    omega
  cases hchosen : t.chooseKey with
  | error fault =>
    rcases chooseKey_error hsound hchosen with ⟨-, hkey | ⟨row, hrow, hkey⟩⟩ | ⟨hplain, -⟩
    · exact absurd hkey hlastmax
    · have hle := hrecorded row hrow
      rw [hkey] at hle
      omega
    · rw [hauto] at hplain
      cases hplain
  | ok key =>
    refine congrArg Except.ok (eq_key hroom ?_)
    have hlower := lastKey_lt_of_chooseKey hauto hchosen
    -- The key that follows the largest one in the table is no larger than the next number.
    suffices key.toInt ≤ k + 1 by push_cast; omega
    simp only [chooseKey_eq, hauto, if_true, if_neg hlastmax] at hchosen
    split at hchosen
    · cases hchosen
    rename_i hlargestmax
    split at hchosen
    · obtain rfl := Except.ok.inj hchosen
      rw [toInt_nextKey hlastmax, hlast]
    · obtain rfl := Except.ok.inj hchosen
      unfold followingKey
      cases hlargest : t.largestKey? with
      | none =>
        have hone : (1 : Int64).toInt = 1 := by decide
        simp only [Option.map_none, Option.getD_none]
        omega
      | some largest =>
        obtain ⟨row, hrow, rfl⟩ := (hsound.le_largest hlargest).1
        have hle := hrecorded row hrow
        simp only [Option.map_some, Option.getD_some]
        rw [toInt_nextKey fun h => hlargestmax (h ▸ hlargest)]
        omega

/-- The table with a row at the end, whose key is remembered. -/
def append (t : Table) (row : Row) : Table :=
  ⟨t.definition, t.rows ++ [row], row.key, t.draws.eraseP fun d => d.key == row.key⟩

/-- A row under the next number is added at the end. -/
theorem add_numbered (hrecorded : t.Recorded) (hlast : t.lastKey.toInt = k)
    (hroom : k + 1 < 2 ^ 63) (hkey : row.key = Int64.ofNat (k + 1)) :
    t.add row = t.append row := by
  have hkeyInt : row.key.toInt = ((k + 1 : Nat) : Int) := by rw [hkey, toInt_key hroom]
  have hle : t.lastKey ≤ row.key := by
    rw [Int64.le_iff_toInt_le]
    omega
  have hbefore : ∀ other ∈ t.rows, other.key < row.key := fun other hother => by
    have := hrecorded other hother
    rw [Int64.lt_iff_toInt_lt]
    omega
  have hmax : max t.lastKey row.key = row.key :=
    (show max t.lastKey row.key = if t.lastKey ≤ row.key then row.key else t.lastKey from rfl).trans
      (if_pos hle)
  rw [Table.add, place_last hbefore, hmax, append]

end Table

namespace Repository

variable {E α : Type} {t : EntityType E} {r : Repository E} {st : Store} {table table' : Table}
  {k k' : Nat} {entity : E} {row : Row} {a : Answer E α} {value : α}

/-! ## 2. Ledgers -/

/-- A repository with generated keys has a table for itself on an idle store, and `k` is the number
of the key that was given out last. -/
structure Ledger (t : EntityType E) (r : Repository E) (st : Store) (table : Table) (k : Nat) :
    Prop where
  entityType : r.entityType = t
  resolved : r.metadata.Resolved t.schema
  kind : r.metadata.identifier.kind = .integer
  generated : r.metadata.identifier.generated = true
  idle : st.Idle
  isolated : st.committed.Isolated table
  definition : table.definition = r.metadata.tableDefinition
  sound : table.Sound
  recorded : table.Recorded
  lastKey : table.lastKey.toInt = k

/-- An operation succeeded with a value.  It has put a table in the place of the one that the
repository had, and has left a ledger behind. -/
structure Done (t : EntityType E) (r : Repository E) (st : Store) (table' : Table) (k' : Nat)
    (value : α) (a : Answer E α) : Prop where
  result : a.result = .ok value
  repository : ∃ x key, a.repository = r.leave x key
  store : a.store = { st with committed := st.committed.put table' }
  ledger : Ledger t a.repository a.store table' k'

theorem Done.report (h : Done t r st table' k' value a)
    (event : Except RepositoryFault α → Option Event) :
    Done t r st table' k' value (Answer.report a event) :=
  ⟨h.result, h.repository, h.store, h.ledger⟩

theorem Done.map {β : Type} (h : Done t r st table' k' value a) (f : α → β) :
    Done t r st table' k' (f value) ⟨a.result.map f, a.repository, a.store, a.log⟩ :=
  ⟨congrArg (Except.map f) h.result, h.repository, h.store, h.ledger⟩

namespace Ledger

theorem name (h : Ledger t r st table k) : table.name = r.metadata.table :=
  congrArg TableDefinition.name h.definition

theorem columns (h : Ledger t r st table k) :
    table.columns = r.metadata.tableDefinition.columns :=
  congrArg TableDefinition.columns h.definition

theorem fits (h : Ledger t r st table k) (hrow : row ∈ table.rows) :
    row.Fits r.metadata.tableDefinition.columns :=
  h.columns ▸ h.sound.fits row hrow

theorem table? (h : Ledger t r st table k) :
    st.committed.table? r.metadata.table = some table :=
  h.isolated.table? (h.name ▸ Name.same_refl _)

theorem relation (h : Ledger t r st table k) :
    st.committed.relation? r.metadata.table = .ok (table.columns, table.rows) :=
  Database.relation?_eq h.table?

theorem isAutoincrement (h : Ledger t r st table k) : table.isAutoincrement = true := by
  rw [h.resolved.isAutoincrement h.definition, h.generated, decide_eq_true h.kind]
  rfl

/-! ## 3. Reading -/

/-- The row that is looked for under a key is the one that has it. -/
theorem meetsAll_sought (h : Ledger t r st table k) (hrow : row ∈ table.rows) (key : Int64) :
    Table.meetsAll table.columns r.metadata.sought.conditions
      (Metadata.soughtValue (.integer key)) row = (row.key == key) := by
  rw [r.metadata.meetsAll_sought, h.columns]
  exact h.resolved.holds_key h.kind (h.fits hrow) key

/-- Rows that can be read are listed. -/
theorem listing (h : Ledger t r st table k) {decode : Row → E}
    (hread : ∀ row ∈ table.rows, t.fromRow
      (Database.project table.columns r.metadata.outputs row) = .ok (decode row)) :
    Listing r st table.columns table.rows
      ((Database.sortRows table.columns (Database.sortColumn r.metadata.outputs
        r.metadata.identifier.column) table.rows).map fun row => (row, decode row)) where
  relation := by
    rw [h.idle.seen]
    exact h.relation
  answered := fun query => by rw [h.idle.seen, h.idle.read]
  rows := by
    rw [List.map_map]
    exact List.map_id _
  entities := by
    intro p hp
    obtain ⟨row, hrow, rfl⟩ := List.mem_map.mp hp
    rw [h.entityType]
    exact hread row ((Database.sortRows_perm _ _ _).mem_iff.mp hrow)

/-- A query finds the entities of the rows that meet its conditions. -/
theorem findBy (h : Ledger t r st table k) {decode : Row → E}
    (hread : ∀ row ∈ table.rows, t.fromRow
      (Database.project table.columns r.metadata.outputs row) = .ok (decode row))
    {key : String} {arguments : List Value} {conditions : List Slot} {form : Query.Form}
    {parameters : Parameters}
    (hprepare : r.prepareQuery key .selectFiltered arguments =
      .ok (⟨r.metadata.table, r.metadata.outputs, r.metadata.identifier.column, conditions, form⟩,
        parameters)) :
    ∃ found, r.findBy key arguments st = .ok found ∧
      found.Perm ((table.rows.filter
        (Table.meetsAll table.columns conditions parameters)).map decode) := by
  have hselect := (h.listing hread).select .query conditions parameters
  rw [List.filter_map, List.map_map] at hselect
  refine ⟨_, ?_, ((Database.sortRows_perm table.columns (Database.sortColumn r.metadata.outputs
    r.metadata.identifier.column) table.rows).filter _).map decode⟩
  simp only [Repository.findBy, hprepare]
  exact hselect

/-- A query counts the rows that meet its conditions. -/
theorem countBy (h : Ledger t r st table k) {key : String} {arguments : List Value}
    {conditions : List Slot} {form : Query.Form} {parameters : Parameters}
    (hprepare : r.prepareQuery key .countFiltered arguments =
      .ok (⟨r.metadata.table, r.metadata.outputs, r.metadata.identifier.column, conditions, form⟩,
        parameters)) :
    r.countBy key arguments st =
      .ok (table.rows.countP (Table.meetsAll table.columns conditions parameters)) := by
  simp only [Repository.countBy, hprepare]
  simp only [tally, Session.count, h.idle.read, Except.mapError, Query.Descriptor.filter]
  rw [Database.count_eq (f := ⟨r.metadata.table, conditions⟩) h.relation]

theorem count (h : Ledger t r st table k) : r.count st = .ok table.rows.length :=
  count_eq_length h.idle h.table?

/-! ## 4. Writing -/

theorem writable (h : Ledger t r st table k) :
    st.committed.writable r.metadata.table = .ok table := by
  simp only [Database.writable, h.table?]

/-- **A transaction of one statement that can be performed is done**, if it keeps the keys
recorded. -/
theorem done_statement (h : Ledger t r st table k) (operation : Operation) {change : Change}
    {parameters : Parameters} (result : Int64 → Store.Written → α) {written : Store.Written}
    (hperform : st.committed.perform r.session change parameters =
      .ok (written, st.committed.put table'))
    (hdef : table'.definition = table.definition) (hsound : table'.Sound)
    (hrecorded : table'.Recorded) (hlast : table'.lastKey.toInt = k') :
    Done t r st table' k' (result r.session.lastKey written)
      (r.transact st (r.attempt operation (statement r.session change parameters result))) := by
  have hstore : (r.transact st (r.attempt operation
      (statement r.session change parameters result))).store =
        { st with committed := st.committed.put table' } :=
    (transact_statement_ok h.idle hperform).2
  refine ⟨(transact_statement_ok h.idle hperform).1, ⟨_, _, rfl⟩, hstore, ?_⟩
  rw [hstore]
  exact ⟨h.entityType, h.resolved, h.kind, h.generated, ⟨h.idle.writer, h.idle.readable⟩,
    h.isolated.put hdef, hdef.trans h.definition, hsound, hrecorded, hlast⟩

/-- A row of a new entity that passes the checks is inserted at the end. -/
theorem insertRow (h : Ledger t r st table k) (hnew : r.metadata.isNew entity = true)
    (hroom : k + 1 < 2 ^ 63)
    (hchecked : table.checkRow (r.metadata.newRow table entity (.ofNat (k + 1))) = .ok ()) :
    st.committed.insertRow table (r.metadata.insertedValues entity)
        (r.metadata.insertedSlots entity) =
      .ok (table.append (r.metadata.newRow table entity (.ofNat (k + 1))), .ofNat (k + 1)) := by
  obtain ⟨hmem, hid⟩ := h.resolved.identifier_mem
  have hnot : r.metadata.identifier ∉ r.metadata.writtenAttributes !r.metadata.isNew entity := by
    simp [Metadata.writtenAttributes, hid, hnew]
  have hgiven : Database.givenKey table (Database.newValues table
      (r.metadata.insertedValues entity) (r.metadata.insertedSlots entity)) = .ok none := by
    rw [h.resolved.givenKey_newValues h.definition, if_pos h.kind, Metadata.insertedSlots,
      h.resolved.given_not_mem _ (Metadata.writtenAttributes_subset _) hmem hnot]
    rfl
  have hchoose := Table.chooseKey_recorded h.sound h.recorded h.isAutoincrement h.lastKey hroom
  -- No row has the chosen key yet, so that the row can only be refused by the checks.
  obtain ⟨hmissing, hrepeated⟩ := Database.checkRow_eq_ok.mp hchecked
  have hadd : Database.addRow table (r.metadata.newRow table entity (.ofNat (k + 1))) =
      .ok (table.append (r.metadata.newRow table entity (.ofNat (k + 1)))) :=
    Database.addRow_eq_ok.mpr ⟨hmissing, Table.row?_of_chooseKey h.sound hchoose, hrepeated,
      (Table.add_numbered h.recorded h.lastKey hroom rfl).symm⟩
  rw [h.isolated.insertRow, hgiven]
  simp only [Database.chosenKey, hchoose, Except.mapError]
  rw [← Metadata.newRow, hadd]

/-- **A new entity is saved under the next number**, in a row at the end. -/
theorem save_new (h : Ledger t r st table k) (entity : E) (hnew : r.metadata.isNew entity = true)
    (hroom : k + 1 < 2 ^ 63)
    (hchecked : table.checkRow (r.metadata.newRow table entity (.ofNat (k + 1))) = .ok ()) :
    Done t r st (table.append (r.metadata.newRow table entity (.ofNat (k + 1)))) (k + 1)
      (r.metadata.assignIdentifier entity (.ofNat (k + 1))) (r.save entity st) := by
  have hnames : st.committed.checkNames (r.metadata.insertion !r.metadata.isNew entity) =
      .ok table := by
    simp only [Metadata.insertion, Database.checkNames, h.writable,
      h.resolved.wrongColumn?_slots h.definition (Metadata.writtenAttributes_subset _)]
  have hinsert := h.insertRow hnew hroom hchecked
  have hperform := h.isolated.perform_done r.session hnames
    (Database.Isolated.apply_insert_ok hinsert) rfl
  have hrecorded : (table.append (r.metadata.newRow table entity (.ofNat (k + 1)))).Recorded := by
    rw [← Table.add_numbered h.recorded h.lastKey hroom rfl]
    exact h.recorded.add _
  have hdone := h.done_statement .persist (persisted r.metadata entity) hperform rfl
    (Database.sound_insertRow h.sound hinsert).1 hrecorded (Table.toInt_key hroom)
  have hsaved : persisted r.metadata entity r.session.lastKey ⟨1, some (.ofNat (k + 1))⟩ =
      (r.metadata.assignIdentifier entity (.ofNat (k + 1)), .persisted) :=
    congrArg (·, SaveOutcome.persisted) (if_pos hnew)
  have hwrite : r.saveWithOutcome entity st = r.write false entity st := by
    rw [saveWithOutcome, isKnown_of_absent hnew]
  have hwork : r.persistWork entity = r.attempt .persist (statement r.session
      (r.metadata.insertion !r.metadata.isNew entity) (r.metadata.insertedValues entity)
      (persisted r.metadata entity)) := persistWork_eq r entity
  rw [hsaved, ← hwork] at hdone
  rw [save, hwrite]
  exact (hdone.report _).map Prod.fst

/-- **An entity that has a row is saved there**: the row is given its values. -/
theorem save_known (h : Ledger t r st table k) (entity : E) (hrow : row ∈ table.rows)
    (hzero : row.key ≠ 0)
    (hkey : r.metadata.identifierValue entity = .integer row.key)
    (hvalued : r.metadata.valueAttributes ≠ [])
    (hchecked : table.checkRow (r.metadata.replacedRow table entity row) = .ok ()) :
    Done t r st (table.replace row.key (r.metadata.replacedRow table entity row).values) k entity
      (r.save entity st) := by
  have hnames : st.committed.checkNames (.update ⟨r.metadata.table, [r.metadata.identifier.slot]⟩
      (r.metadata.valueAttributes.map MappedAttribute.slot)) = .ok table := by
    simp only [Database.checkNames, h.writable,
      h.resolved.wrongColumn?_slots h.definition Metadata.valueAttributes_subset]
  have htargets := h.resolved.targets_eq h.kind h.definition h.sound hrow hkey
  have hshown := h.resolved.shownKey_otherValues h.definition (h.sound.fits row hrow)
    (r.metadata.attributeValues entity true)
  have hupdate : st.committed.updateRow (r.metadata.attributeValues entity true)
      (r.metadata.valueAttributes.map MappedAttribute.slot) table row =
        .ok (table.replace row.key (r.metadata.replacedRow table entity row).values) := by
    rw [h.isolated.updateRow _ hshown, ← Metadata.replacedRow, hchecked]
    rfl
  have happly : st.committed.apply table (.update ⟨r.metadata.table, [r.metadata.identifier.slot]⟩
      (r.metadata.valueAttributes.map MappedAttribute.slot))
        (r.metadata.attributeValues entity true) = .done (st.committed.put
          (table.replace row.key (r.metadata.replacedRow table entity row).values)) 1 none := by
    simp only [Database.apply, htargets, Database.changeRows, hupdate, Database.settle]
  have hperform := h.isolated.perform_done r.session hnames happly rfl
  have hdone := h.done_statement .merge (fun _ _ => (entity, SaveOutcome.merged))
    hperform rfl (Database.sound_updateRow h.sound (h.sound.fits row hrow) hupdate).1
    (h.recorded.replace _ _) h.lastKey
  have hknown : r.isKnown entity st = .ok true := by
    rw [isKnown_eq h.resolved h.kind h.idle h.table? h.definition h.sound hkey hzero]
    exact congrArg Except.ok (List.any_eq_true.mpr ⟨row, hrow, beq_self_eq_true _⟩)
  have hwrite : r.saveWithOutcome entity st = r.write true entity st := by
    rw [saveWithOutcome, hknown]
  have hreplacement : r.metadata.replacement? = some (.update
      ⟨r.metadata.table, [r.metadata.identifier.slot]⟩
      (r.metadata.valueAttributes.map MappedAttribute.slot)) := by
    simp [Metadata.replacement?, hvalued]
  rw [← mergeWork_of_some r entity hreplacement] at hdone
  rw [save, hwrite]
  exact (hdone.report _).map Prod.fst

/-- The rows of a filter are removed, and their numbers are not given out again. -/
theorem done_delete (h : Ledger t r st table k) (operation : Operation) (conditions : List Slot)
    (parameters : Parameters) :
    ∃ n, Done t r st (table.without (Table.meetsAll table.columns conditions parameters)) k n
      (r.transact st (r.attempt operation fun st =>
        r.session.execute st (.delete ⟨r.metadata.table, conditions⟩) parameters)) := by
  have hperform : st.committed.perform r.session (.delete ⟨r.metadata.table, conditions⟩)
      parameters = .ok (_, st.committed.put
        (table.without (Table.meetsAll table.columns conditions parameters))) :=
    h.isolated.perform_delete h.sound r.session (h.name ▸ Name.same_refl _)
  rw [execute_eq_statement]
  exact ⟨_, h.done_statement operation (fun _ written => written.changed) hperform rfl
    (h.sound.without _) (h.recorded.without _) h.lastKey⟩

/-- **All entities are removed.** -/
theorem deleteAll (h : Ledger t r st table k) :
    Done t r st { table with rows := [] } k () (r.deleteAll st) := by
  obtain ⟨n, hdone⟩ := h.done_delete .deleteAll [] []
  have hrows : table.without (Table.meetsAll table.columns [] []) = { table with rows := [] } :=
    congrArg (fun rows => ({ table with rows } : Table))
      (List.filter_eq_nil_iff.mpr fun _ _ => Bool.false_ne_true)
  rw [hrows] at hdone
  exact (hdone.report _).map fun _ => ()

/-- **The entity with a key is removed**, if it can be read. -/
theorem deleteById (h : Ledger t r st table k) (hrow : row ∈ table.rows)
    (hread : t.fromRow (Database.project table.columns r.metadata.outputs row) = .ok entity)
    (hkey : r.metadata.identifierValue entity = .integer row.key) :
    Done t r st (table.without (·.key == row.key)) k () (r.deleteById (.integer row.key) st) := by
  have hfilter : table.rows.filter (Table.meetsAll table.columns r.metadata.sought.conditions
      (Metadata.soughtValue (.integer row.key))) = [row] :=
    h.sound.filter_eq hrow fun other hother => by rw [h.meetsAll_sought hother, beq_iff_eq]
  have hfind : r.findById (.integer row.key) st = .ok (some entity) := by
    have hselect : st.committed.select r.metadata.lookup
        (Metadata.soughtValue (.integer row.key)) =
          .ok [Database.project table.columns r.metadata.outputs row] := by
      simp only [Database.select, Database.matching_eq (f := r.metadata.lookup.toFilter) h.relation]
      rw [show r.metadata.lookup.toFilter.conditions = r.metadata.sought.conditions from rfl,
        hfilter]
      rfl
    simp only [findById, Session.find, Session.queryRows, h.idle.read, hselect, Session.decode,
      h.entityType, hread]
    rfl
  obtain ⟨n, hdone⟩ := h.done_delete .remove r.metadata.sought.conditions
    (Metadata.soughtValue (.integer row.key))
  have hrows : table.without (Table.meetsAll table.columns r.metadata.sought.conditions
      (Metadata.soughtValue (.integer row.key))) = table.without (·.key == row.key) :=
    congrArg (fun rows => ({ table with rows } : Table))
      (List.filter_congr fun other hother => by rw [h.meetsAll_sought hother])
  rw [hrows] at hdone
  simp only [Repository.deleteById, hfind, hkey]
  exact (hdone.report _).map fun _ => ()

/-! ## 5. Opening -/

/-- A table without rows is the beginning of a ledger. -/
theorem of_empty (htype : r.entityType = t) (hm : r.metadata.Resolved t.schema)
    (hkind : r.metadata.identifier.kind = .integer)
    (hgenerated : r.metadata.identifier.generated = true) (hidle : st.Idle)
    (hisolated : st.committed.Isolated table)
    (hdef : table.definition = r.metadata.tableDefinition) (hrows : table.rows = [])
    (hlast : table.lastKey.toInt = k) : Ledger t r st table k where
  entityType := htype
  resolved := hm
  kind := hkind
  generated := hgenerated
  idle := hidle
  isolated := hisolated
  definition := hdef
  sound :=
    { oneKey := by
        rw [Table.columns, hdef]
        exact hm.oneKey
      sorted := hrows ▸ .nil
      fits := by simp [hrows] }
  recorded := by simp [Table.Recorded, hrows]
  lastKey := hlast

end Ledger

/-- On an idle store a repository creates its table, unless the name is taken. -/
theorem new_of_idle {s : Session} {m : Metadata E} (hresolve : Metadata.resolve t.schema = .ok m)
    (hmode : s.schemaMode = .create) (hidle : st.Idle)
    (hname : Database.isReserved m.table = false) :
    (Repository.new t s st).result = .ok ⟨s, t, m, .empty, .new⟩ ∧
      (Repository.new t s st).state = if st.committed.isTaken m.table then st
        else { st with committed := st.committed.withTable m.tableDefinition } := by
  have hrefusal : st.refusal? s = none := by
    simp [Store.refusal?, Store.barrier?, Store.other?, hidle.writer, hidle.readable]
  have hother : st.other? s = none := by simp [Store.other?, hidle.writer]
  have hown : st.own? s = none := by simp [Store.own?, hidle.writer]
  have halter : st.alter s (.createTable m.tableDefinition true) =
      (.ok (), if st.committed.isTaken m.table then st
        else { st with committed := st.committed.withTable m.tableDefinition }) := by
    rw [Store.alter_createTable st s m.reference_columns, hrefusal, hidle.seen s, hother]
    rw [show m.tableDefinition.name = m.table from rfl, hname]
    cases st.committed.isTaken m.table with
    | true => rfl
    | false => simp [Store.withTable, hown]
  unfold Repository.new
  rw [hresolve]
  simp only [Session.prepare, hmode, Session.alter, Session.lift, halter, Except.mapError]
  exact ⟨trivial, trivial⟩

end Repository

namespace Database

variable {db : Database} {t : Table}

/-- Where there are no guards and no references, a table is isolated if its name is its own. -/
theorem isolated_of_plain (hguards : db.guards = []) (hmem : t ∈ db.tables)
    (honly : ∀ other ∈ db.tables, Name.same other.name t.name = true → other = t)
    (hplain : ∀ x ∈ db.tables, ∀ c ∈ x.columns, c.reference = none) : db.Isolated t where
  mem := hmem
  only := honly
  guards := by simp [hguards]
  references := hplain t hmem
  referrers := fun other hother c hc r hr => by
    rw [hplain other hother c hc] at hr
    cases hr

end Database

end EntityStore

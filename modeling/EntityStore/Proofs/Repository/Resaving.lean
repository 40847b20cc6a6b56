import EntityStore.Proofs.Repository.InUse
import EntityStore.Proofs.Store.Isolation
import EntityStore.Proofs.Store.Keys
/-!
# Saving twice

An entity that was saved is settled in a row (`Metadata.Settled`): the row is under its identifier
and holds its values as the store keeps them.  Saving it again finds the row and gives it the values
that it has, so nothing changes, and there is nothing that could refuse the statement
(`Settled.perform`, `save_of_settled`).

One identifier stands in the way.  Zero counts as absent, but it is a key like any other, and the
store chooses it where keys may be used again and the largest one is minus one.  An entity that got
this key is taken for a new one when it is saved again, and added a second time.

Main statement: `merged_unless_zero`.
-/

namespace EntityStore

/-! ## 1. Tables -/

namespace Table

variable {t t' : Table} {row : Row}

theorem mem_replace (hrow : row ∈ t.rows) (values : List Value) :
    ⟨row.key, values⟩ ∈ (t.replace row.key values).rows :=
  List.mem_map.mpr ⟨row, hrow, by rw [beq_self_eq_true, if_pos rfl]⟩

theorem mem_of_mem_replace {key : Int64} {values : List Value} {other : Row}
    (hother : other ∈ (t.replace key values).rows) (hkey : other.key ≠ key) : other ∈ t.rows := by
  obtain ⟨x, hx, rfl⟩ := List.mem_map.mp hother
  split
  · rename_i hsame
    rw [if_pos hsame] at hkey
    exact absurd rfl hkey
  · exact hx

/-- What a row does not repeat in a table it does not repeat among some of the other rows. -/
theorem repeated?_of_subset (hdef : t'.definition = t.definition)
    (hrows : ∀ other ∈ t'.rows, other.key ≠ row.key → other ∈ t.rows)
    (h : t.repeated? row = none) : t'.repeated? row = none := by
  rw [repeated?, Option.map_eq_none_iff, List.find?_eq_none] at h ⊢
  rw [columns, hdef]
  intro x hx hrepeated
  obtain ⟨hdistinct, hoccurs⟩ := Bool.and_eq_true_iff.mp hrepeated
  obtain ⟨other, hother, hequal⟩ := List.any_eq_true.mp hoccurs
  have hkey : other.key ≠ row.key := by simpa using (Bool.and_eq_true_iff.mp hequal).1
  exact h x hx (Bool.and_eq_true_iff.mpr
    ⟨hdistinct, List.any_eq_true.mpr ⟨other, hrows other hother hkey, hequal⟩⟩)

/-- A row that is given the values that it has is left as it is. -/
theorem Sound.replace_self (h : t.Sound) (hrow : row ∈ t.rows) :
    t.replace row.key row.values = t := by
  have hrows : (t.rows.map fun other =>
      if other.key == row.key then Row.mk row.key row.values else other) = t.rows := by
    refine (List.map_congr_left fun other hother => ?_).trans (List.map_id _)
    split
    · rename_i hkey
      exact (h.eq_of_key hother hrow (eq_of_beq hkey)).symm
    · rfl
  exact congrArg (fun rows => ({ t with rows } : Table)) hrows

end Table

namespace Database

variable {db : Database} {t : Table}

/-- Putting a table again changes nothing. -/
theorem put_put (db : Database) (t : Table) : (db.put t).put t = db.put t := by
  have htables : ((db.put t).tables.map fun other =>
      if Name.same other.name t.name then t else other) = (db.put t).tables := by
    refine (List.map_congr_left fun other hother => ?_).trans (List.map_id _)
    obtain ⟨x, -, rfl⟩ := List.mem_map.mp hother
    by_cases hx : Name.same x.name t.name = true
    · rw [if_pos hx, if_pos (Name.same_refl _)]
      rfl
    · rw [if_neg hx, if_neg hx]
      rfl
  exact congrArg (fun tables => ({ db with tables } : Database)) htables

/-- A statement that leaves the database as it was can be performed: no orphan comes of it. -/
theorem perform_unchanged {s : Session} {change : Change} {parameters : Parameters} {changed : Nat}
    {key : Option Int64} (hcheck : db.check s.foreignKeys change = .ok t)
    (happly : db.apply t change parameters = .done db changed key) :
    db.perform s change parameters = .ok (⟨changed, key⟩, db) := by
  have hrun : db.runOn t s.foreignKeys change parameters = .done db changed key := by
    cases hf : s.foreignKeys <;> simp [runOn, happly, enforceReferences]
  have howed : Store.owedAfter s 0 db db = 0 := by simp [Store.owedAfter]
  simp [perform, hcheck, hrun, howed]

/-- An update of one row that is done has put the table with the row's other values. -/
theorem apply_update_done {filter : Filter} {slots : List Slot} {parameters : Parameters}
    {row : Row} {after : Database} {changed : Nat} {key : Option Int64}
    (hstrict : t.definition.Strict) (htargets : targets t filter parameters = [row])
    (h : db.apply t (.update filter slots) parameters = .done after changed key) :
    ∃ t', db.updateRow parameters slots t row = .ok t' ∧ db.put t' = after := by
  obtain ⟨t', hrows, hput, -⟩ := apply_update_ok h
  rw [htargets] at hrows
  cases hupdate : db.updateRow parameters slots t row with
  | ok t'' =>
    simp only [changeRows, hupdate] at hrows
    cases hrows
    exact ⟨t', rfl, hput⟩
  | error halt =>
    obtain ⟨fault, conflict, rfl⟩ := refused_of_updateRow hstrict hupdate
    simp only [changeRows, hupdate] at hrows
    cases hrows

end Database

/-! ## 2. Settled entities -/

namespace Metadata

variable {E : Type} {schema : EntitySchema E} {m : Metadata E} {db : Database} {t t' : Table}
  {row : Row} {entity saved : E}

/-- The row under the identifier of an entity is the only one that is replaced. -/
theorem Resolved.targets_eq (hm : m.Resolved schema) (hkind : m.identifier.kind = .integer)
    (hdef : t.definition = m.tableDefinition) (hsound : t.Sound) (hrow : row ∈ t.rows)
    (hidentified : m.identifierValue entity = .integer row.key) :
    Database.targets t ⟨m.table, [m.identifier.slot]⟩ (m.attributeValues entity true) = [row] := by
  have hcolumns : t.columns = m.tableDefinition.columns := congrArg TableDefinition.columns hdef
  refine hsound.filter_eq hrow fun other hother => ?_
  have hfits : other.Fits m.tableDefinition.columns := hcolumns ▸ hsound.fits other hother
  rw [hm.meetsAll_slot, hidentified, hcolumns,
    show (Value.integer row.key).bound = .integer row.key from rfl, hm.holds_key hkind hfits,
    beq_iff_eq]

/-- An entity is settled in a row of the table under its name: the row is under its identifier,
holds its values as the store keeps them, and passes the checks.  No guard watches the table. -/
structure Settled (m : Metadata E) (db : Database) (t : Table) (row : Row) (entity : E) :
    Prop where
  table : db.table? m.table = some t
  /-- No other table has the name. -/
  put : db.put t = db
  guards : ∀ g ∈ db.guards, Name.same g.table m.table = false
  definition : t.definition = m.tableDefinition
  sound : t.Sound
  mem : row ∈ t.rows
  identified : m.identifierValue entity = .integer row.key
  values : ∀ a ∈ m.valueAttributes,
    m.held row a = a.definition.affinity.store (a.read entity).bound
  checked : t.checkRow row = .ok ()

namespace Settled

theorem columns (h : m.Settled db t row entity) : t.columns = m.tableDefinition.columns :=
  congrArg TableDefinition.columns h.definition

theorem name (h : m.Settled db t row entity) : t.name = m.table :=
  congrArg TableDefinition.name h.definition

theorem fits (h : m.Settled db t row entity) {other : Row} (hother : other ∈ t.rows) :
    other.Fits m.tableDefinition.columns :=
  h.columns ▸ h.sound.fits other hother

/-- The values that a replacement gives to the row are those that it has. -/
theorem otherValues (h : m.Settled db t row entity) (hm : m.Resolved schema) :
    Database.otherValues t (m.attributeValues entity true)
      (m.valueAttributes.map MappedAttribute.slot) row = row.values := by
  have hlength : row.values.length = t.columns.length := (h.sound.fits row h.mem).length
  have hheld : ∀ a ∈ m.attributes, m.held ⟨row.key, Database.otherValues t
      (m.attributeValues entity true) (m.valueAttributes.map MappedAttribute.slot) row⟩ a =
        m.held row a := by
    intro a ha
    rw [hm.held_updated h.definition ha hlength]
    cases hid : a.identifier with
    | true =>
      have hnot : a ∉ m.valueAttributes := fun hvalue => by
        rw [(mem_valueAttributes.mp hvalue).2] at hid
        cases hid
      rw [hm.given_not_mem _ valueAttributes_subset ha hnot, Option.getD_none]
    | false =>
      have hvalue := mem_valueAttributes.mpr ⟨ha, hid⟩
      have hw : a ∈ m.writtenAttributes true := by simp [writtenAttributes, ha]
      rw [hm.given_written entity valueAttributes_subset hvalue hw, Option.getD_some,
        h.values a hvalue]
  refine hm.values_ext ?_ (h.fits h.mem).length hheld
  simp [Database.otherValues, hlength, ← h.columns]

/-- Replacing the values of the row leaves the table as it is. -/
theorem updateRow (h : m.Settled db t row entity) (hm : m.Resolved schema)
    (hkind : m.identifier.kind = .integer) :
    db.updateRow (m.attributeValues entity true) (m.valueAttributes.map MappedAttribute.slot) t
      row = .ok t := by
  have hshown : Database.shownKey t row row.values = .ok row.key := by
    rw [Database.shownKey, hm.givenKey h.definition row.key, if_pos hkind,
      hm.held_key hkind (h.fits h.mem)]
    rfl
  have hguards : ∀ g ∈ db.guards, Name.same g.table t.name = false := h.name ▸ h.guards
  rw [Database.updateRow_of_unguarded hguards _ (by rwa [h.otherValues hm]), h.otherValues hm,
    h.checked]
  exact congrArg Except.ok (h.sound.replace_self h.mem)

/-- **The statement that saves a settled entity again changes nothing.** -/
theorem perform (h : m.Settled db t row entity) (hm : m.Resolved schema)
    (hkind : m.identifier.kind = .integer) {change : Change}
    (hchange : m.replacement? = some change) (s : Session) :
    db.perform s change (m.attributeValues entity true) = .ok (⟨1, none⟩, db) := by
  obtain rfl := replacement?_eq_some hchange
  have hnames : db.checkNames (.update ⟨m.table, [m.identifier.slot]⟩
      (m.valueAttributes.map MappedAttribute.slot)) = .ok t := by
    simp only [Database.checkNames, Database.writable, h.table,
      hm.wrongColumn?_slots h.definition valueAttributes_subset]
  have hguards : ∀ g ∈ db.guards, Name.same g.table t.name = false := h.name ▸ h.guards
  have hreferences : ∀ c ∈ t.columns, c.reference = none := by
    rw [h.columns]
    exact m.reference_columns
  have htargets := hm.targets_eq hkind h.definition h.sound h.mem h.identified
  have happly : db.apply t (.update ⟨m.table, [m.identifier.slot]⟩
      (m.valueAttributes.map MappedAttribute.slot)) (m.attributeValues entity true) =
        .done db 1 none := by
    simp only [Database.apply, htargets, Database.changeRows, h.updateRow hm hkind,
      Database.settle, h.put]
  exact Database.perform_unchanged
    (Database.check_of_unguarded hguards hreferences s.foreignKeys hnames) happly

end Settled

/-! ## 3. How entities are settled -/

/-- A key is written where the identifier is read, and nowhere else. -/
structure WritesKeys (m : Metadata E) (assign : E → Int64 → E) : Prop where
  assigner : m.assigner = some assign
  identifier : ∀ entity key, m.identifierValue (assign entity key) = .integer key
  values : ∀ entity key, ∀ a ∈ m.valueAttributes, a.read (assign entity key) = a.read entity

theorem WritesKeys.assignIdentifier {assign : E → Int64 → E} (h : m.WritesKeys assign)
    (hkind : m.identifier.kind = .integer) (entity : E) (key : Int64) :
    m.assignIdentifier entity key = assign entity key := by
  simp [Metadata.assignIdentifier, assignIdentifier?, hkind, h.assigner]

/-- What comes back of an entity that was added has the key of its row: it came with it, or the key
was written into it. -/
theorem WritesKeys.identified {assign : E → Int64 → E} (h : m.WritesKeys assign)
    (hid : m.identifierValue entity = .null ∨ ∃ key, m.identifierValue entity = .integer key)
    {key : Int64} (hgiven : (m.identifierValue entity).isAbsentIdentifier = false →
      ∀ k, m.identifierValue entity = .integer k → key = k) :
    m.identifierValue (if (m.identifierValue entity).isAbsentIdentifier then assign entity key
      else entity) = .integer key := by
  split
  · exact h.identifier entity key
  · rename_i hpresent
    rcases hid with hid | ⟨k, hid⟩
    · rw [hid] at hpresent
      exact absurd rfl hpresent
    · rw [hid, hgiven (by simpa using hpresent) k hid]

/-- What comes back of an entity that was added has the values of the entity. -/
theorem WritesKeys.read_eq {assign : E → Int64 → E} (h : m.WritesKeys assign) (key : Int64)
    {a : MappedAttribute E} (ha : a ∈ m.valueAttributes) :
    a.read (if (m.identifierValue entity).isAbsentIdentifier then assign entity key else entity) =
      a.read entity := by
  split
  · exact h.values entity key a ha
  · rfl

/-- The store chooses the key of a row that comes without one. -/
theorem chooseKey_of_chosenKey {key : Int64} (h : db.chosenKey t none = .ok key) :
    t.chooseKey = .ok key := by
  unfold Database.chosenKey at h
  cases hchoose : t.chooseKey with
  | error fault =>
    rw [hchoose] at h
    cases h
  | ok k =>
    rw [hchoose] at h
    cases h
    rfl

/-- The key of an inserted entity is its identifier, or else the store has chosen it. -/
theorem key_of_insertRow (hm : m.Resolved schema) (hkind : m.identifier.kind = .integer)
    (hdef : t.definition = m.tableDefinition) {w : Bool} {key : Int64}
    (hinsert : db.insertRow t (m.attributeValues entity w)
      ((m.writtenAttributes w).map MappedAttribute.slot) = .ok (t', key)) :
    (w = true → ∀ k, m.identifierValue entity = .integer k → key = k) ∧
      (w = false → t.chooseKey = .ok key) := by
  obtain ⟨hmem, hid⟩ := hm.identifier_mem
  obtain ⟨key?, hgiven, hchosen, -⟩ := Database.insertRow_ok hinsert
  rw [hm.givenKey_newValues hdef, if_pos hkind] at hgiven
  refine ⟨?_, ?_⟩
  · rintro rfl k hidentifier
    have hw : m.identifier ∈ m.writtenAttributes true := by simp [writtenAttributes, hmem]
    have hkey : m.identifier.definition.isRowKey = true := by
      rw [hm.isRowKey_identifier, decide_eq_true hkind]
    rw [hm.given_written entity (writtenAttributes_subset _) hw hw,
      show m.identifier.read entity = .integer k from hidentifier,
      Database.affinity_of_isRowKey hkey] at hgiven
    cases hgiven
    exact (Except.ok.inj hchosen).symm
  · rintro rfl
    have hnot : m.identifier ∉ m.writtenAttributes false := by simp [writtenAttributes, hid]
    rw [hm.given_not_mem _ (writtenAttributes_subset _) hmem hnot] at hgiven
    cases hgiven
    exact chooseKey_of_chosenKey hchosen

/-- An inserted entity is settled in the new row, if it is given the row's key. -/
theorem settled_of_insertRow (hm : m.Resolved schema) (hdb : db.Sound)
    (hdedicated : db.Dedicated m.tableDefinition) (htable : db.table? m.table = some t) {w : Bool}
    {key : Int64} (hinsert : db.insertRow t (m.attributeValues entity w)
      ((m.writtenAttributes w).map MappedAttribute.slot) = .ok (t', key))
    (hidentified : m.identifierValue saved = .integer key)
    (hread : ∀ a ∈ m.valueAttributes, a.read saved = a.read entity) :
    ∃ row, row.key = key ∧ t.row? key = none ∧ t' = t.add row ∧
      m.Settled (db.put t') t' row saved := by
  have hdef : t.definition = m.tableDefinition := (hdedicated.table? htable).1
  obtain ⟨hsound, hdef'⟩ := Database.sound_insertRow (hdb.table? htable) hinsert
  obtain ⟨-, -, -, hadd⟩ := Database.insertRow_ok hinsert
  obtain ⟨hmissing, hnew, hrepeated, rfl⟩ := Database.addRow_eq_ok.mp hadd
  refine ⟨_, rfl, hnew, rfl, Database.table?_put htable rfl, Database.put_put _ _,
    hdedicated.guards, hdef, hsound, Table.mem_add.mpr (.inl rfl), hidentified, fun a ha => ?_,
    Database.checkRow_eq_ok.mpr ⟨hmissing, Table.repeated?_of_subset (t := t) rfl
      (fun other hother hkey => ?_) hrepeated⟩⟩
  · obtain ⟨hmem, hid⟩ := mem_valueAttributes.mp ha
    have hw : a ∈ m.writtenAttributes w := by simp [writtenAttributes, hmem, hid]
    rw [hm.held_inserted hdef hmem, isRowKey_valueAttribute ha,
      hm.given_written entity (writtenAttributes_subset w) hw hw, hread a ha]
    rfl
  · exact (Table.mem_add.mp hother).resolve_left fun hsame => hkey (congrArg Row.key hsame)

/-- An entity that replaced the values of the row under its identifier is settled there. -/
theorem settled_of_updateRow (hm : m.Resolved schema) (hdb : db.Sound)
    (hdedicated : db.Dedicated m.tableDefinition) (htable : db.table? m.table = some t)
    (hrow : row ∈ t.rows)
    (hidentified : m.identifierValue entity = .integer row.key)
    (hupdate : db.updateRow (m.attributeValues entity true)
      (m.valueAttributes.map MappedAttribute.slot) t row = .ok t') :
    ∃ row', m.Settled (db.put t') t' row' entity := by
  have ht := hdb.table? htable
  have hdef : t.definition = m.tableDefinition := (hdedicated.table? htable).1
  have hfits : row.Fits t.columns := ht.fits row hrow
  obtain ⟨hsound, hdef'⟩ := Database.sound_updateRow ht hfits hupdate
  obtain ⟨key, hshown, hdone⟩ := Database.updateRow_ok hupdate
  -- The identifier is not among the columns that are given values, so the key stays.
  have hkey : key = row.key := by
    rw [hm.shownKey_otherValues hdef hfits] at hshown
    exact (Except.ok.inj hshown).symm
  rcases hdone with ⟨-, hchecked, rfl⟩ | ⟨hne, -⟩
  · subst hkey
    obtain ⟨hmissing, hrepeated⟩ := Database.checkRow_eq_ok.mp hchecked
    have hkeeps : ∀ values, ∀ other ∈ (t.replace row.key values).rows, other.key ≠ row.key →
        other ∈ t.rows := fun _ _ => Table.mem_of_mem_replace
    refine ⟨_, Database.table?_put htable rfl, Database.put_put _ _, hdedicated.guards, hdef,
      hsound, Table.mem_replace hrow _, hidentified, fun a ha => ?_, Database.checkRow_eq_ok.mpr
        ⟨hmissing, Table.repeated?_of_subset (t := t) rfl (hkeeps _) hrepeated⟩⟩
    obtain ⟨hmem, -⟩ := mem_valueAttributes.mp ha
    have hw : a ∈ m.writtenAttributes true := by simp [writtenAttributes, hmem]
    rw [hm.held_updated hdef hmem hfits.length,
      hm.given_written entity valueAttributes_subset ha hw, Option.getD_some]
  · exact absurd hkey hne

end Metadata

/-! ## 4. Saves -/

namespace Repository

variable {E : Type} {t : EntityType E} {r : Repository E} {st : Store} {table : Table} {row : Row}
  {assign : E → Int64 → E} {entity saved : E} {outcome : SaveOutcome}

/-- What the first phase of a save finds under an integer that is not absent. -/
theorem isKnown_eq (hm : r.metadata.Resolved t.schema)
    (hkind : r.metadata.identifier.kind = .integer) (hidle : st.Idle)
    (htable : st.committed.table? r.metadata.table = some table)
    (hdef : table.definition = r.metadata.tableDefinition) (hsound : table.Sound) {key : Int64}
    (hkey : r.metadata.identifierValue entity = .integer key) (hzero : key ≠ 0) :
    r.isKnown entity st = .ok (table.rows.any (·.key == key)) := by
  have hcolumns : table.columns = r.metadata.tableDefinition.columns :=
    congrArg TableDefinition.columns hdef
  have hany : table.rows.any (Table.meetsAll table.columns r.metadata.sought.conditions
      (Metadata.soughtValue (.integer key))) = table.rows.any (·.key == key) := by
    rw [Bool.eq_iff_iff, List.any_eq_true, List.any_eq_true]
    refine exists_congr fun other => and_congr_right fun hother => ?_
    rw [r.metadata.meetsAll_sought, hcolumns]
    exact Bool.eq_iff_iff.mp (hm.holds_key hkind (hcolumns ▸ hsound.fits other hother) key)
  have habsent : (Value.integer key).isAbsentIdentifier = false := by
    simpa [Value.isAbsentIdentifier] using hzero
  have hrelation : st.committed.relation? r.metadata.sought.table =
      .ok (table.columns, table.rows) :=
    Database.relation?_eq htable
  simp only [isKnown, hkey, habsent, Session.contains, hidle.read,
    Database.contains_eq hrelation, hany, Except.mapError, Bool.false_eq_true, if_false]

/-- A known entity without other attributes is merged, and nothing changes. -/
theorem save_of_valueless (hidle : st.Idle) (hknown : r.isKnown entity st = .ok true)
    (hnone : r.metadata.replacement? = none) :
    (r.saveWithOutcome entity st).result = .ok (entity, .merged) ∧
      (r.saveWithOutcome entity st).store = st := by
  simp only [saveWithOutcome, hknown, write, result_report, store_report, if_true]
  rw [mergeWork_of_none r entity hnone]
  exact r.transact_pure hidle .merge (entity, SaveOutcome.merged)

/-- **A settled entity is merged, and nothing changes.** -/
theorem save_of_settled (hm : r.metadata.Resolved t.schema)
    (hkind : r.metadata.identifier.kind = .integer) (hidle : st.Idle)
    (hsettled : r.metadata.Settled st.committed table row entity)
    (hzero : row.key ≠ 0) :
    (r.saveWithOutcome entity st).result = .ok (entity, .merged) ∧
      (r.saveWithOutcome entity st).store = st := by
  have hknown : r.isKnown entity st = .ok true := by
    rw [isKnown_eq hm hkind hidle hsettled.table hsettled.definition hsettled.sound
      hsettled.identified hzero]
    exact congrArg Except.ok (List.any_eq_true.mpr ⟨row, hsettled.mem, beq_self_eq_true _⟩)
  cases hreplacement : r.metadata.replacement? with
  | none => exact save_of_valueless hidle hknown hreplacement
  | some change =>
    simp only [saveWithOutcome, hknown, write, result_report, store_report, if_true]
    rw [mergeWork_of_some r entity hreplacement]
    exact transact_statement_ok hidle (hsettled.perform hm hkind hreplacement r.session)

/-- What a new row is to an entity that was added, and to the table that it was added to. -/
structure AddedTo (r : Repository E) (entity saved : E) (table : Table) (row : Row) : Prop where
  fresh : table.row? row.key = none
  /-- The key of an entity that comes without one is chosen by the store. -/
  chosen : (r.metadata.identifierValue entity).isAbsentIdentifier = true →
    table.chooseKey = .ok row.key
  kept : (r.metadata.identifierValue entity).isAbsentIdentifier = false → saved = entity
  identified : r.metadata.identifierValue saved = .integer row.key

/-- An entity that is added is settled in a new row. -/
theorem Kept.added (h : Kept t r st) (hkind : r.metadata.identifier.kind = .integer)
    (hassign : r.metadata.WritesKeys assign)
    (hid : r.metadata.identifierValue entity = .null ∨
      ∃ key, r.metadata.identifierValue entity = .integer key)
    (hsaved : (r.write false entity st).result = .ok (saved, outcome)) :
    outcome = .persisted ∧ st.Idle ∧ ∃ table row,
      st.committed.table? r.metadata.table = some table ∧ AddedTo r entity saved table row ∧
        (r.write false entity st).store =
          { st with committed := st.committed.put (table.add row) } ∧
        r.metadata.Settled (st.committed.put (table.add row)) (table.add row) row saved := by
  obtain ⟨houtcome, hidle, written, db, hperform, hsaved', hstore⟩ :=
    h.opened.write_unknown_ok hsaved
  obtain ⟨table, htable, happly⟩ := Database.perform_ok hperform
  have htable : st.committed.table? r.metadata.table = some table := htable
  obtain ⟨table', key, hinsert, rfl, hkey⟩ :=
    Database.apply_insert_done (h.strict htable) happly
  obtain ⟨hgiven, hchosen⟩ :=
    Metadata.key_of_insertRow h.opened.metadata hkind (h.definition htable) hinsert
  rw [persisted, hkey, Option.getD_some, hassign.assignIdentifier hkind] at hsaved'
  have hidentified : r.metadata.identifierValue saved = .integer key := by
    rw [hsaved']
    exact hassign.identified hid fun hpresent => hgiven (by simp [hpresent])
  have hread : ∀ a ∈ r.metadata.valueAttributes, a.read saved = a.read entity := fun a ha => by
    rw [hsaved', hassign.read_eq key ha]
  obtain ⟨row, rfl, hfresh, rfl, hsettled⟩ := Metadata.settled_of_insertRow h.opened.metadata
    h.sound.committed h.dedicated.committed htable hinsert hidentified hread
  refine ⟨houtcome, hidle, table, row, htable,
    ⟨hfresh, fun habsent => hchosen (by simp [habsent]), fun hpresent => ?_, hidentified⟩,
    hstore, hsettled⟩
  rw [hsaved', hpresent, if_neg Bool.false_ne_true]

/-- An entity that is merged is settled in the row under its identifier, unless it has no values to
replace. -/
theorem Kept.merged (h : Kept t r st) (hkind : r.metadata.identifier.kind = .integer) {key : Int64}
    (hkey : r.metadata.identifierValue entity = .integer key) (hzero : key ≠ 0)
    (hknown : r.isKnown entity st = .ok true)
    (hsaved : (r.write true entity st).result = .ok (saved, outcome)) :
    saved = entity ∧ outcome = .merged ∧ st.Idle ∧
      (r.metadata.replacement? = none ∧ (r.write true entity st).store = st ∨
        ∃ table row,
          (r.write true entity st).store = { st with committed := st.committed.put table } ∧
          r.metadata.Settled (st.committed.put table) table row entity) := by
  obtain ⟨rfl, rfl, hidle, hdone⟩ := h.opened.write_known_ok hsaved
  refine ⟨rfl, rfl, hidle, ?_⟩
  rcases hdone with ⟨hnone, hstore⟩ | ⟨change, written, db, hreplacement, hperform, hstore⟩
  · exact .inl ⟨hnone, hstore⟩
  · obtain rfl := Metadata.replacement?_eq_some hreplacement
    obtain ⟨table, htable, happly⟩ := Database.perform_ok hperform
    have htable : st.committed.table? r.metadata.table = some table := htable
    have hsound : table.Sound := h.sound_table htable
    rw [isKnown_eq h.opened.metadata hkind hidle htable (h.definition htable) hsound hkey
      hzero] at hknown
    obtain ⟨row, hrow, hrowkey⟩ := List.any_eq_true.mp (Except.ok.inj hknown)
    obtain rfl : row.key = key := eq_of_beq hrowkey
    have htargets :=
      h.opened.metadata.targets_eq hkind (h.definition htable) hsound hrow hkey
    obtain ⟨table', hupdate, rfl⟩ :=
      Database.apply_update_done (h.strict htable) htargets happly
    obtain ⟨row', hsettled⟩ := Metadata.settled_of_updateRow h.opened.metadata
      h.sound.committed h.dedicated.committed htable hrow hkey hupdate
    exact .inr ⟨table', row', hstore, hsettled⟩

/-! ## 5. Saving twice -/

theorem repository_saveWithOutcome (r : Repository E) (entity : E) (st : Store) :
    ∃ x key, (r.saveWithOutcome entity st).repository = r.leave x key := by
  unfold saveWithOutcome
  split
  · exact ⟨r.executor, r.session.lastKey, rfl⟩
  · exact ⟨_, _, rfl⟩

/-- A save that succeeds knew whether there is a row under the identifier. -/
theorem saveWithOutcome_eq_write
    (hsaved : (r.saveWithOutcome entity st).result = .ok (saved, outcome)) :
    ∃ known, r.isKnown entity st = .ok known ∧
      r.saveWithOutcome entity st = r.write known entity st := by
  unfold saveWithOutcome at hsaved ⊢
  cases hknown : r.isKnown entity st with
  | error fault =>
    rw [hknown] at hsaved
    cases hsaved
  | ok known => exact ⟨known, rfl, rfl⟩

/-- An entity without an identifier is not known. -/
theorem isKnown_of_absent
    (habsent : (r.metadata.identifierValue entity).isAbsentIdentifier = true) :
    r.isKnown entity st = .ok false := by
  simp only [isKnown, habsent, if_true]

/-- An entity that is known came with a key other than zero. -/
theorem exists_key_of_known
    (hid : r.metadata.identifierValue entity = .null ∨
      ∃ key, r.metadata.identifierValue entity = .integer key)
    (hknown : r.isKnown entity st = .ok true) :
    ∃ key, r.metadata.identifierValue entity = .integer key ∧ key ≠ 0 := by
  have hpresent : (r.metadata.identifierValue entity).isAbsentIdentifier = false :=
    Bool.eq_false_iff.mpr fun habsent => by
      rw [isKnown_of_absent habsent] at hknown
      cases hknown
  rcases hid with hid | ⟨key, hkey⟩
  · rw [hid] at hpresent
    cases hpresent
  · exact ⟨key, hkey, by simpa [hkey, Value.isAbsentIdentifier] using hpresent⟩

theorem count_eq_length (hidle : st.Idle)
    (htable : st.committed.table? r.metadata.table = some table) :
    r.count st = .ok table.rows.length := by
  have hrelation : st.committed.relation? r.metadata.table = .ok (table.columns, table.rows) :=
    Database.relation?_eq htable
  have hall : table.rows.countP (Table.meetsAll table.columns [] []) = table.rows.length :=
    List.countP_eq_length.mpr fun _ _ => rfl
  simp only [count, tally, Session.count, hidle.read, Except.mapError]
  rw [show (Query.Descriptor.unfiltered r.metadata .count).filter = ⟨r.metadata.table, []⟩ from rfl,
    Database.count_eq (f := ⟨r.metadata.table, []⟩) hrelation, hall]

/-- **An entity with a key other than zero is merged when it is saved again**, and the store is left
as it was. -/
theorem Kept.merged_again (h : Kept t r st) (hkind : r.metadata.identifier.kind = .integer)
    (hassign : r.metadata.WritesKeys assign)
    (hid : r.metadata.identifierValue entity = .null ∨
      ∃ key, r.metadata.identifierValue entity = .integer key)
    (hsaved : (r.saveWithOutcome entity st).result = .ok (saved, outcome))
    (hzero : r.metadata.identifierValue saved ≠ .integer 0) (x : Executor) (key : Int64) :
    ((r.leave x key).saveWithOutcome saved (r.saveWithOutcome entity st).store).result =
        .ok (saved, .merged) ∧
      ((r.leave x key).saveWithOutcome saved (r.saveWithOutcome entity st).store).store =
        (r.saveWithOutcome entity st).store := by
  obtain ⟨known, hknown, hwrite⟩ := saveWithOutcome_eq_write hsaved
  rw [hwrite] at hsaved ⊢
  cases known with
  | false =>
    obtain ⟨-, hidle, table, row, -, hadded, hstore, hsettled⟩ :=
      h.added hkind hassign hid hsaved
    rw [hstore]
    refine save_of_settled (r := r.leave x key) h.opened.metadata hkind
      ⟨hidle.writer, hidle.readable⟩ hsettled fun hkey => hzero ?_
    rw [hadded.identified, hkey]
  | true =>
    obtain ⟨known, hknownKey, hne⟩ := exists_key_of_known hid hknown
    obtain ⟨rfl, -, hidle, ⟨hnone, hstore⟩ | ⟨table, row, hstore, hsettled⟩⟩ :=
      h.merged hkind hknownKey hne hknown hsaved
    · -- There are no values to replace, so the second save finds what the first one found.
      have hagain : (r.leave x key).isKnown saved st = .ok true := hknown
      rw [hstore]
      exact save_of_valueless hidle hagain hnone
    · rw [hstore]
      refine save_of_settled (r := r.leave x key) h.opened.metadata hkind
        ⟨hidle.writer, hidle.readable⟩ hsettled fun hrow => hzero ?_
      rw [hsettled.identified, hrow]

/-- A key that the store chose without guessing is the largest. -/
theorem AddedTo.largestKey? (h : AddedTo r entity saved table row) (hsound : table.Sound)
    (hmax : table.largestKey? ≠ some Table.maxKey) (hafter : (table.add row).Sound)
    (habsent : (r.metadata.identifierValue entity).isAbsentIdentifier = true) :
    (table.add row).largestKey? = some row.key := by
  refine hafter.largestKey?_eq (Table.mem_add.mpr (.inl rfl)) fun other hother => ?_
  rcases Table.mem_add.mp hother with rfl | hother
  · exact Int.le_refl _
  · exact Int.le_of_lt (Table.lt_of_chooseKey hsound hmax (h.chosen habsent) hother)

/-- **An entity gets the key zero** only where it comes without one, keys are not generated, and the
largest one is minus one. -/
theorem Kept.saved_zero (h : Kept t r st) (hkind : r.metadata.identifier.kind = .integer)
    (hassign : r.metadata.WritesKeys assign)
    (hid : r.metadata.identifierValue entity = .null ∨
      ∃ key, r.metadata.identifierValue entity = .integer key)
    (hsaved : (r.saveWithOutcome entity st).result = .ok (saved, outcome)) :
    r.metadata.identifierValue saved = .integer 0 ↔
      (r.metadata.identifierValue entity).isAbsentIdentifier = true ∧
        r.metadata.identifier.generated = false ∧
        ∃ table, st.committed.table? r.metadata.table = some table ∧
          table.largestKey? = some (-1) := by
  obtain ⟨known, hknown, hwrite⟩ := saveWithOutcome_eq_write hsaved
  rw [hwrite] at hsaved
  constructor
  · intro hzero
    cases known with
    | true =>
      -- A known entity is returned as it came, with a key other than zero.
      obtain ⟨key, hkey, hne⟩ := exists_key_of_known hid hknown
      obtain ⟨rfl, -⟩ := h.merged hkind hkey hne hknown hsaved
      rw [hkey] at hzero
      exact absurd (Value.integer.inj hzero) hne
    | false =>
      obtain ⟨-, -, table, row, htable, hadded, -⟩ := h.added hkind hassign hid hsaved
      have hkey : row.key = 0 := Value.integer.inj (hadded.identified.symm.trans hzero)
      have habsent : (r.metadata.identifierValue entity).isAbsentIdentifier = true := by
        by_contra hpresent
        rw [hadded.kept (by simpa using hpresent)] at hzero
        exact hpresent (hzero ▸ rfl)
      have hchosen := hadded.chosen habsent
      rw [hkey, Table.chooseKey_eq_zero (h.lastKey_nonneg htable),
        h.isAutoincrement hkind htable] at hchosen
      exact ⟨habsent, hchosen.1, table, htable, hchosen.2⟩
  · rintro ⟨habsent, hgenerated, table, htable, hlargest⟩
    rw [isKnown_of_absent habsent] at hknown
    cases hknown
    obtain ⟨-, -, table', row, htable', hadded, -⟩ := h.added hkind hassign hid hsaved
    obtain rfl : table = table' := Option.some.inj (htable.symm.trans htable')
    have hauto : table.isAutoincrement = false :=
      (h.isAutoincrement hkind htable).trans hgenerated
    have hchosen := hadded.chosen habsent
    rw [(Table.chooseKey_eq_zero (h.lastKey_nonneg htable)).mpr ⟨hauto, hlargest⟩] at hchosen
    rw [hadded.identified, ← Except.ok.inj hchosen]

/-- Where an entity gets the key zero, it is added, and zero is the largest key then. -/
theorem Kept.largestKey?_of_zero (h : Kept t r st) (hkind : r.metadata.identifier.kind = .integer)
    (hassign : r.metadata.WritesKeys assign)
    (hid : r.metadata.identifierValue entity = .null ∨
      ∃ key, r.metadata.identifierValue entity = .integer key)
    (hsaved : (r.saveWithOutcome entity st).result = .ok (saved, outcome))
    (hzero : r.metadata.identifierValue saved = .integer 0) :
    outcome = .persisted ∧ ∃ table,
      (r.saveWithOutcome entity st).store.committed.table? r.metadata.table = some table ∧
        table.largestKey? = some 0 := by
  obtain ⟨habsent, -, table₀, htable₀, hlargest⟩ :=
    (h.saved_zero hkind hassign hid hsaved).mp hzero
  obtain ⟨known, hknown, hwrite⟩ := saveWithOutcome_eq_write hsaved
  rw [isKnown_of_absent habsent] at hknown
  cases hknown
  rw [hwrite] at hsaved ⊢
  obtain ⟨houtcome, -, table, row, htable, hadded, hstore, hsettled⟩ :=
    h.added hkind hassign hid hsaved
  obtain rfl : table₀ = table := Option.some.inj (htable₀.symm.trans htable)
  have hmax : table₀.largestKey? ≠ some Table.maxKey := by
    rw [hlargest]
    decide
  refine ⟨houtcome, table₀.add row, ?_, ?_⟩
  · rw [hstore]
    exact hsettled.table
  · rw [hadded.largestKey? (h.sound_table htable) hmax hsettled.sound habsent,
      Value.integer.inj (hadded.identified.symm.trans hzero)]

/-- **An entity with the key zero is added under the key one**, where zero is the largest key. -/
theorem Kept.added_after_zero (h : Kept t r st) (hkind : r.metadata.identifier.kind = .integer)
    (hassign : r.metadata.WritesKeys assign) (hgenerated : r.metadata.identifier.generated = false)
    (htable : st.committed.table? r.metadata.table = some table)
    (hlargest : table.largestKey? = some 0)
    (hzero : r.metadata.identifierValue entity = .integer 0)
    (hsaved : (r.saveWithOutcome entity st).result = .ok (saved, outcome)) :
    outcome = .persisted ∧ r.metadata.identifierValue saved = .integer 1 ∧
      r.count st = .ok table.rows.length ∧
      (r.saveWithOutcome entity st).repository.count (r.saveWithOutcome entity st).store =
        .ok (table.rows.length + 1) := by
  have habsent : (r.metadata.identifierValue entity).isAbsentIdentifier = true := hzero ▸ rfl
  obtain ⟨x, key, hrepository⟩ := repository_saveWithOutcome r entity st
  obtain ⟨known, hknown, hwrite⟩ := saveWithOutcome_eq_write hsaved
  rw [isKnown_of_absent habsent] at hknown
  cases hknown
  rw [hwrite] at hsaved
  obtain ⟨houtcome, hidle, table', row, htable', hadded, hstore, hsettled⟩ :=
    h.added hkind hassign (.inr ⟨0, hzero⟩) hsaved
  obtain rfl : table = table' := Option.some.inj (htable.symm.trans htable')
  have hauto : table.isAutoincrement = false := (h.isAutoincrement hkind htable).trans hgenerated
  have hkey : row.key = 1 := by
    have hchosen := hadded.chosen habsent
    rw [Table.chooseKey_of_zero hauto hlargest] at hchosen
    exact (Except.ok.inj hchosen).symm
  refine ⟨houtcome, hkey ▸ hadded.identified, count_eq_length hidle htable, ?_⟩
  have hcount : (r.leave x key).count { st with committed := st.committed.put (table.add row) } =
      .ok (table.add row).rows.length :=
    count_eq_length ⟨hidle.writer, hidle.readable⟩ hsettled.table
  rw [hrepository, hwrite, hstore, hcount]
  exact congrArg Except.ok (Table.place_perm row table.rows).length_eq

/-- **An entity that was saved is merged when it is saved again, unless its key is zero.**  Let a
repository be in use for a type of entities whose identifiers are integers or `null`, and let keys
be written into entities where the identifier is read.  Let an entity be saved, and let what comes
back be saved again at once.

* If its key is not zero it is merged, and the store is left as it was: `count` and `findAll` answer
  as before.
* Its key is zero exactly if it came without one, keys are not generated, and the largest key in the
  table was minus one.
* In that case it was added, and it is not merged now: if the second save succeeds, it has added the
  entity once more, under the key one. -/
theorem merged_unless_zero (h : InUse t r st) (hkind : r.metadata.identifier.kind = .integer)
    (hassign : r.metadata.WritesKeys assign)
    (hid : r.metadata.identifierValue entity = .null ∨
      ∃ key, r.metadata.identifierValue entity = .integer key)
    (hsaved : (r.saveWithOutcome entity st).result = .ok (saved, outcome)) :
    let first := r.saveWithOutcome entity st
    let again := first.repository.saveWithOutcome saved first.store
    (r.metadata.identifierValue saved ≠ .integer 0 →
        again.result = .ok (saved, .merged) ∧ again.store = first.store ∧
          again.repository.count again.store = first.repository.count first.store ∧
          again.repository.findAll again.store = first.repository.findAll first.store) ∧
      (r.metadata.identifierValue saved = .integer 0 ↔
        (r.metadata.identifierValue entity).isAbsentIdentifier = true ∧
          r.metadata.identifier.generated = false ∧
          ∃ table, st.committed.table? r.metadata.table = some table ∧
            table.largestKey? = some (-1)) ∧
      (r.metadata.identifierValue saved = .integer 0 → outcome = .persisted ∧
        ∀ last outcome', again.result = .ok (last, outcome') →
          outcome' = .persisted ∧ r.metadata.identifierValue last = .integer 1 ∧
            ∃ n, first.repository.count first.store = .ok n ∧
              again.repository.count again.store = .ok (n + 1)) := by
  intro first again
  have hkept := h.kept
  have hzero := hkept.saved_zero hkind hassign hid hsaved
  have hfirst : Kept t first.repository first.store := hkept.write (.saveWithOutcome entity)
  obtain ⟨x, key, hrepository⟩ := repository_saveWithOutcome r entity st
  have hmetadata : first.repository.metadata = r.metadata := by
    rw [show first.repository = r.leave x key from hrepository, metadata_leave]
  refine ⟨fun hne => ?_, hzero, fun heq => ?_⟩
  · obtain ⟨hresult, hstore⟩ := hkept.merged_again hkind hassign hid hsaved hne x key
    rw [← hrepository] at hresult hstore
    obtain ⟨y, key', hagain⟩ := repository_saveWithOutcome first.repository saved first.store
    have hstore : again.store = first.store := hstore
    have hagain : again.repository = first.repository.leave y key' := hagain
    -- What is read depends on the store and on the parts of the repository that a save keeps.
    refine ⟨hresult, hstore, ?_, ?_⟩
    · rw [hstore, hagain]
      rfl
    · rw [hstore, hagain]
      rfl
  · obtain ⟨-, hgenerated, -⟩ := hzero.mp heq
    obtain ⟨houtcome, table, htable, hlargest⟩ :=
      hkept.largestKey?_of_zero hkind hassign hid hsaved heq
    refine ⟨houtcome, fun last outcome' hagain => ?_⟩
    rw [← hmetadata] at hkind hassign hgenerated heq htable ⊢
    obtain ⟨houtcome', hlast, hcount, hcount'⟩ :=
      hfirst.added_after_zero hkind hassign hgenerated htable hlargest heq hagain
    exact ⟨houtcome', hlast, _, hcount, hcount'⟩

end Repository

/-! ## 6. Notes

Notes are entities whose keys may be used again.  The repository below has saved a note under the
key minus one, so the store chooses the key zero for the next note that comes without one. -/

/-- A note. -/
structure Note where
  id : Option Int64
  label : String
  deriving DecidableEq, Repr

namespace Note

/-- The key of a note as a value. -/
def key (note : Note) : Value :=
  match note.id with
  | some key => .integer key
  | none => .null

/-- The schema of notes. -/
def schema : EntitySchema Note where
  name := "Note"
  attributes := [.id "id" .integer, .new "label" .text]
  accessors := [("id", key), ("label", fun note => .text note.label)]
  assigner := some fun note key => { note with id := some key }

/-- Reads a note off a row. -/
def fromRow (row : ResultRow) : Except StoreFault Note := do
  let id ← row.getAs "id" fun
    | .null => some none
    | .integer key => some (some key)
    | _ => none
  let label ← row.getAs "label" fun
    | .text s => some s
    | _ => none
  return ⟨id, label⟩

/-- The type of notes. -/
def entityType : EntityType Note :=
  ⟨schema, fromRow⟩

/-- The attributes with their columns and accessors. -/
def metadata : Metadata Note where
  entity := "Note"
  table := "note"
  attributes := [⟨.id "id" .integer, "id", key⟩,
    ⟨.new "label" .text, "label", fun note => .text note.label⟩]
  identifier := ⟨.id "id" .integer, "id", key⟩
  assigner := schema.assigner

/-- A repository of notes. -/
def repository : Repository Note :=
  ⟨Tags.session, entityType, metadata, .empty, .new⟩

/-- What comes out of saving a note under the key minus one. -/
def first : Answer Note (Note × SaveOutcome) :=
  repository.saveWithOutcome ⟨some (-1), "a"⟩
    (Repository.new entityType Tags.session .empty).state

/-- A note is given its key where the key is read. -/
theorem writesKeys : metadata.WritesKeys fun note key => { note with id := some key } where
  assigner := rfl
  identifier := fun _ _ => rfl
  values := by
    intro note key a ha
    rw [List.mem_singleton.mp (show a ∈ [_] from ha)]

theorem key_eq (note : Note) : note.key = .null ∨ ∃ key, note.key = .integer key := by
  rcases note with ⟨- | key, label⟩
  · exact .inl rfl
  · exact .inr ⟨key, rfl⟩

/-- The repository is in use after the note was saved. -/
theorem inUse_first : Repository.InUse entityType first.repository first.store := by
  have hvacant : Store.empty.Everywhere (Database.Vacant (Name.storage entityType.schema.name)) :=
    ⟨⟨nofun, nofun⟩, nofun⟩
  exact (Repository.InUse.opened rfl (.drawing []) hvacant
    (show (Repository.new entityType Tags.session .empty).result = .ok repository from rfl)).write
      (.saveWithOutcome ⟨some (-1), "a"⟩)

/-- What comes out of saving a note with a key of its own after that. -/
def kept : Answer Note (Note × SaveOutcome) :=
  first.repository.saveWithOutcome ⟨some 7, "b"⟩ first.store

/-- What comes out of saving a note without a key. -/
def zero : Answer Note (Note × SaveOutcome) :=
  first.repository.saveWithOutcome ⟨none, "b"⟩ first.store

/-- What comes out of saving the same note again, with the key that it has got. -/
def again : Answer Note (Note × SaveOutcome) :=
  zero.repository.saveWithOutcome ⟨some 0, "b"⟩ zero.store

end Note

namespace Repository

/-- A note that came with its key is merged when it is saved again.  One that came without a key has
got the key zero, and is added again under the key one. -/
theorem merged_unless_zero_notes :
    Note.kept.result = .ok (⟨some 7, "b"⟩, .persisted) ∧
      (Note.kept.repository.saveWithOutcome ⟨some 7, "b"⟩ Note.kept.store).result =
        .ok (⟨some 7, "b"⟩, .merged) ∧
      (Note.kept.repository.saveWithOutcome ⟨some 7, "b"⟩ Note.kept.store).store =
        Note.kept.store ∧
      Note.zero.result = .ok (⟨some 0, "b"⟩, .persisted) ∧
      Note.again.result = .ok (⟨some 1, "b"⟩, .persisted) ∧
      ∃ n, Note.zero.repository.count Note.zero.store = .ok n ∧
        Note.again.repository.count Note.again.store = .ok (n + 1) := by
  have hkept : Note.kept.result = .ok (⟨some 7, "b"⟩, .persisted) := rfl
  have hzero : Note.zero.result = .ok (⟨some 0, "b"⟩, .persisted) := rfl
  have hagain : Note.again.result = .ok (⟨some 1, "b"⟩, .persisted) := rfl
  have hne : Note.metadata.identifierValue ⟨some 7, "b"⟩ ≠ .integer 0 := by decide
  obtain ⟨hmerged, -, -⟩ :=
    merged_unless_zero Note.inUse_first rfl Note.writesKeys (Note.key_eq _) hkept
  obtain ⟨-, -, hadded⟩ :=
    merged_unless_zero Note.inUse_first rfl Note.writesKeys (Note.key_eq _) hzero
  obtain ⟨hresult, hstore, -⟩ := hmerged hne
  obtain ⟨-, hcount⟩ := hadded rfl
  exact ⟨hkept, hresult, hstore, hzero, hagain, (hcount _ _ hagain).2.2⟩

/-- A note that got the key zero is not merged when it is saved again: it is in the table twice. -/
theorem added_twice :
    InUse Note.entityType Note.first.repository Note.first.store ∧
      Note.metadata.WritesKeys (fun note key => { note with id := some key }) ∧
      Note.zero.result = .ok (⟨some 0, "b"⟩, .persisted) ∧
      Note.zero.repository.count Note.zero.store = .ok 2 ∧
      Note.again.result = .ok (⟨some 1, "b"⟩, .persisted) ∧
      Note.again.repository.count Note.again.store = .ok 3 :=
  ⟨Note.inUse_first, Note.writesKeys, rfl, rfl, rfl, rfl⟩

end Repository

end EntityStore

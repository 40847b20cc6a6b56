import EntityStore.Demo
import EntityStore.Proofs.Repository.StoredRows
import EntityStore.Proofs.Store.Keys
/-!
# Generated keys are never used again

A table whose keys are generated remembers the largest key that was ever inserted.  No row of it has
a larger key (`Table.Recorded`): insertions raise what is remembered, the updates that repositories
send leave keys alone, and removals only take rows away.  What is remembered never falls, and what
is rolled back was never committed.  So a key that the store chooses is larger than every key that
was in the table after any earlier operation (`generated_keys_grow`).

An update that gives a row a larger key would not be remembered.  No repository of the type sends
one, since identifiers are not among the values that it updates (`Resolved.shownKey_otherValues`).
-/

namespace EntityStore

variable {E : Type} {type : EntityType E} {schema : EntitySchema E} {m : Metadata E}
  {db after : Database} {t t' : Table} {entity : E} {parameters : Parameters}

/-! ## 1. Recorded keys -/

/-- No row has a larger key than the one that the table remembers. -/
def Table.Recorded (t : Table) : Prop :=
  ∀ row ∈ t.rows, row.key.toInt ≤ t.lastKey.toInt

namespace Table

theorem Recorded.record (h : t.Recorded) (key : Int64) : (t.record key).Recorded :=
  fun row hrow => Int.le_trans (h row hrow) (later_record t key).lastKey

theorem Recorded.add (h : t.Recorded) (row : Row) : (t.add row).Recorded := by
  intro other hother
  have hlast : (t.add row).lastKey = if t.lastKey ≤ row.key then row.key else t.lastKey := rfl
  rw [hlast]
  rcases mem_add.mp hother with rfl | hother
  · split
    · exact Int.le_refl _
    · rename_i hlt
      rw [Int64.le_iff_toInt_le] at hlt
      omega
  · have hle := h other hother
    split
    · rename_i hraised
      rw [Int64.le_iff_toInt_le] at hraised
      omega
    · exact hle

theorem Recorded.without (h : t.Recorded) (p : Row → Bool) : (t.without p).Recorded :=
  fun row hrow => h row (List.mem_filter.mp hrow).1

/-- Other values in a row do not change its key. -/
theorem Recorded.replace (h : t.Recorded) (key : Int64) (values : List Value) :
    (t.replace key values).Recorded := by
  intro row hrow
  obtain ⟨other, hother, rfl⟩ := List.mem_map.mp hrow
  split
  · rename_i hkey
    rw [← show other.key = key from eq_of_beq hkey]
    exact h other hother
  · exact h other hother

end Table

namespace Database

variable {name : String}

/-- No table of a name has rows. -/
def Rowless (name : String) (db : Database) : Prop :=
  ∀ t ∈ db.tables, Name.same t.name name = true → t.rows = []

theorem Vacant.rowless (h : db.Vacant name) : db.Rowless name := by
  intro t ht hsame
  rw [h.tables t ht] at hsame
  cases hsame

/-- A new table has no rows. -/
theorem Rowless.createTable (h : db.Rowless name) {definition : TableDefinition}
    {unlessTaken : Bool} (hdone : db.alter (.createTable definition unlessTaken) = .ok after) :
    after.Rowless name := by
  rcases createTable_ok hdone with rfl | rfl
  · exact h
  · intro t ht hsame
    rcases List.mem_append.mp ht with ht | ht
    · exact h t ht hsame
    · rw [List.mem_singleton.mp ht]
      rfl

theorem Rowless.table? (h : db.Rowless name) (ht : db.table? name = some t) : t.rows = [] :=
  h t (List.mem_of_find?_eq_some ht)
    (List.find?_some (p := fun x : Table => Name.same x.name name) ht)

end Database

namespace Metadata

/-- An update of values leaves the key of a row as it is. -/
theorem Resolved.recorded_updateRow (hm : m.Resolved schema)
    (hdef : t.definition = m.tableDefinition) (h : t.Recorded) {row : Row}
    (hfits : row.Fits t.columns)
    (hupdate : db.updateRow parameters (m.valueAttributes.map MappedAttribute.slot) t row =
      .ok t') : t'.definition = t.definition ∧ t'.Recorded := by
  obtain ⟨key, hshown, hdone⟩ := Database.updateRow_ok hupdate
  rw [hm.shownKey_otherValues hdef hfits] at hshown
  obtain rfl : row.key = key := Except.ok.inj hshown
  rcases hdone with ⟨-, -, rfl⟩ | ⟨hne, -⟩
  · exact ⟨rfl, h.replace _ _⟩
  · exact absurd rfl hne

theorem Resolved.recorded_changeRows (hm : m.Resolved schema)
    (hdef : t.definition = m.tableDefinition) (h : t.Recorded) {rows : List Row}
    (hfits : ∀ row ∈ rows, row.Fits t.columns) :
    (Database.changeRows (db.updateRow parameters (m.valueAttributes.map MappedAttribute.slot))
      rows t).1.Recorded := by
  have hkept : (Database.changeRows
      (db.updateRow parameters (m.valueAttributes.map MappedAttribute.slot)) rows t).1.definition =
        t.definition ∧ _ :=
    Database.changeRows_invariant (P := fun x => x.definition = t.definition ∧ x.Recorded)
      Database.keepsPassed_updateRow (fun x row x' hrow hx hdone => by
        have hrowfits : row.Fits x.columns := by
          have := hfits row hrow
          rwa [Table.columns, ← hx.1] at this
        obtain ⟨hsame, hrecorded⟩ :=
          hm.recorded_updateRow (hx.1.trans hdef) hx.2 hrowfits hdone
        exact ⟨hsame.trans hx.1, hrecorded⟩) ⟨rfl, h⟩
  exact hkept.2

/-- **The statements on a type of entities keep its keys recorded.** -/
theorem Resolved.recorded_apply (hm : m.Resolved schema) (ht : t.Sound) {change : Change}
    (hsends : m.Sends change) {changed : Nat} {key : Option Int64}
    (happly : db.apply t change parameters = .done after changed key) :
    ∃ t', after = db.put t' ∧ t'.definition = t.definition ∧
      (t.definition = m.tableDefinition → t.Recorded → t'.Recorded) := by
  rcases hsends with ⟨withIdentifier, rfl⟩ | hreplacement | ⟨filter, rfl⟩
  · rcases Database.apply_insert_cases happly with ⟨t', k, hinsert, hput, -⟩ | ⟨k, -, hput, -⟩
    · obtain ⟨-, -, -, hadd⟩ := Database.insertRow_ok hinsert
      obtain ⟨-, -, -, rfl⟩ := Database.addRow_eq_ok.mp hadd
      exact ⟨_, hput.symm, rfl, fun _ h => h.add _⟩
    · exact ⟨_, hput.symm, rfl, fun _ h => h.record k⟩
  · obtain rfl := replacement?_eq_some hreplacement
    obtain ⟨t', hrows, hput, hsame⟩ := Database.apply_update_ok happly
    refine ⟨t', hput.symm, hsame, ?_⟩
    intro hdef h
    rw [show t' = (Database.changeRows _ _ t).1 from (congrArg Prod.fst hrows).symm]
    exact hm.recorded_changeRows hdef h fun row hrow => ht.fits row (List.mem_filter.mp hrow).1
  · obtain ⟨-, hput⟩ := Database.apply_delete_done ht happly
    exact ⟨_, hput, rfl, fun _ h => h.without _⟩

end Metadata

/-! ## 2. Entities that leave their key to the store -/

/-- A value that is absent only when it is passed to the store is passed as `null`. -/
theorem Value.bound_eq_null {value : Value} (h : value.bound.isAbsentIdentifier = true)
    (hpresent : value.isAbsentIdentifier = false) : value.bound = .null := by
  cases value with
  | null => rfl
  | integer n => exact absurd (h.symm.trans hpresent) nofun
  | text s => exact absurd (h.symm.trans hpresent) nofun
  | blob bytes => cases h
  | real x =>
    cases hnan : x.isNaN with
    | true => simp [Value.bound, hnan]
    | false => simp [Value.bound, hnan, Value.isAbsentIdentifier] at h

/-- The store chooses the key of an entity without an identifier, and of one whose identifier is
written as `null`. -/
theorem Metadata.chooseKey_of_insertRow (hm : m.Resolved schema)
    (hkind : m.identifier.kind = .integer) (hdef : t.definition = m.tableDefinition)
    (hleft : (m.identifierValue entity).bound.isAbsentIdentifier = true) {key : Int64}
    (hinsert : db.insertRow t
      (m.attributeValues entity !(m.identifierValue entity).isAbsentIdentifier)
      ((m.writtenAttributes !(m.identifierValue entity).isAbsentIdentifier).map
        MappedAttribute.slot) = .ok (t', key)) : t.chooseKey = .ok key := by
  cases habsent : (m.identifierValue entity).isAbsentIdentifier with
  | true =>
    rw [habsent] at hinsert
    exact (key_of_insertRow hm hkind hdef hinsert).2 rfl
  | false =>
    rw [habsent] at hinsert
    obtain ⟨key?, hgiven, hchosen, -⟩ := Database.insertRow_ok hinsert
    have hw : m.identifier ∈ m.writtenAttributes !false := by
      simp [writtenAttributes, hm.identifier_mem.1]
    have hkey : m.identifier.definition.isRowKey = true := by
      rw [hm.isRowKey_identifier, decide_eq_true hkind]
    have hnull : (m.identifier.read entity).bound = .null := Value.bound_eq_null hleft habsent
    rw [hm.givenKey_newValues hdef, if_pos hkind,
      hm.given_written entity (writtenAttributes_subset _) hw hw, hnull,
      Database.affinity_of_isRowKey hkey] at hgiven
    cases hgiven
    exact chooseKey_of_chosenKey hchosen

/-! ## 3. Numbered stores -/

namespace Repository

variable {r r₀ : Repository E} {st st' : Store} {saved : E} {outcome : SaveOutcome}

/-- The table of a type of entities as the repositories of the type leave it: its name is kept for
it, and keys are recorded. -/
structure Numbered (m : Metadata E) (st : Store) : Prop where
  sound : st.Sound
  dedicated : st.Everywhere (Database.Dedicated m.tableDefinition)
  recorded : ∀ t, st.committed.table? m.table = some t → t.Recorded

/-- The store after complete operations of repositories of a type, each of any repository. -/
inductive Evolves (type : EntityType E) (st : Store) : Store → Prop
  | refl : Evolves type st st
  | request {r : Repository E} {st' : Store} (q : Request E) :
      Reachable type r → Evolves type st st' → Evolves type st (q.run r st').store

theorem Numbered.strictIn (h : Numbered m st) : m.StrictIn st.committed := by
  intro t ht
  rw [(h.dedicated.committed.table? ht).1]
  exact m.strict_tableDefinition

theorem Numbered.request (h : Numbered m st) (hr : Opened type r) (hm : r.metadata = m)
    (q : Request E) : Numbered m (q.run r st).store := by
  subst hm
  refine ⟨hr.sound_request h.sound q,
    hr.everywhere_request (Database.lasting_dedicated _) h.dedicated q, ?_⟩
  rcases hr.store_request q st with hstore | ⟨-, change, parameters, written, db, hsends,
    hperform, hstore⟩
  · rw [hstore]
    exact h.recorded
  · rw [hstore]
    obtain ⟨t, htable, happly⟩ := Database.perform_ok hperform
    obtain ⟨t', rfl, hsame, hrecorded⟩ :=
      hr.metadata.recorded_apply (h.sound.committed.table? htable) hsends happly
    intro x hx
    rcases Database.table?_put_cases htable (congrArg TableDefinition.name hsame)
      r.metadata.table with ⟨hfound, hput⟩ | hother
    · cases hput.symm.trans hx
      exact hrecorded (h.dedicated.committed.table? hfound).1 (h.recorded t hfound)
    · exact h.recorded x (hother.symm.trans hx)

theorem Evolves.numbered (h : Evolves type st st') (hm : m.Resolved type.schema)
    (hst : Numbered m st) : Numbered m st' := by
  induction h with
  | refl => exact hst
  | request q hr _ ih => exact ih.request hr.opened (hr.opened.metadata.unique hm) q

theorem Evolves.later (h : Evolves type st st') : st.committed.Later st'.committed := by
  induction h with
  | refl => exact .refl _
  | request q hr _ ih => exact ih.trans (hr.opened.later_request q _)

/-- What a table remembers is at least as large as all keys that were ever in it. -/
theorem Evolves.le_lastKey (h : Evolves type st st') (hst : Numbered m st)
    (ht : st.committed.table? m.table = some t) (ht' : st'.committed.table? m.table = some t')
    {row : Row} (hrow : row ∈ t.rows) : row.key.toInt ≤ t'.lastKey.toInt := by
  obtain ⟨_, hfound, hgrown⟩ := h.later.table? ht
  cases hfound.symm.trans ht'
  exact Int.le_trans (hst.recorded t ht row hrow) hgrown.lastKey

/-- An integer identifier is read from the key of the row. -/
theorem Numbered.held_key (h : Numbered m st) (hm : m.Resolved schema)
    (hkind : m.identifier.kind = .integer) (ht : st.committed.table? m.table = some t) {row : Row}
    (hrow : row ∈ t.rows) : m.held row m.identifier = .integer row.key := by
  have hfits := (h.sound.committed.table? ht).fits row hrow
  rw [Table.columns, (h.dedicated.committed.table? ht).1] at hfits
  exact hm.held_key hkind hfits

/-- A repository that creates its table under a vacant name leaves a numbered store behind. -/
theorem numbered_new {s : Session} (hmode : s.schemaMode = .create) (hst : st.Reachable)
    (hvacant : st.Everywhere (Database.Vacant (Name.storage type.schema.name)))
    (hnew : (Repository.new type s st).result = .ok r) :
    Numbered r.metadata (Repository.new type s st).state := by
  have hkept := kept_new hmode hst hvacant hnew
  have hname : r.metadata.table = Name.storage type.schema.name := hkept.opened.metadata.table
  refine ⟨Store.sound_iff.mpr hkept.sound, hkept.dedicated, ?_⟩
  have hstate : (Repository.new type s st).state =
      (st.alter s (.createTable r.metadata.tableDefinition true)).2 :=
    (congrArg Prod.snd (alter_of_new hmode hnew)).symm
  have hrowless : (Repository.new type s st).state.Everywhere
      (Database.Rowless r.metadata.table) := by
    rw [← hname] at hvacant
    have hbefore : st.Everywhere (Database.Rowless r.metadata.table) :=
      ⟨hvacant.committed.rowless, fun w hw => (hvacant.writer w hw).rowless⟩
    rw [hstate]
    exact hbefore.alter s fun _ _ hdb hdone => hdb.createTable hdone
  intro t ht row hrow
  rw [hrowless.committed.table? ht] at hrow
  cases hrow

/-- A save of an entity that leaves its key to the store does not find it. -/
theorem saveWithOutcome_of_left (hr : Opened type r) (hst : st.Sound)
    (hleft : (r.metadata.identifierValue entity).bound.isAbsentIdentifier = true)
    (hsaved : (r.saveWithOutcome entity st).result = .ok (saved, outcome)) :
    r.saveWithOutcome entity st = r.write false entity st := by
  obtain ⟨known, hknown, heq⟩ := saveWithOutcome_eq_write hsaved
  cases known with
  | false => exact heq
  | true =>
    rw [heq] at hsaved
    obtain ⟨-, -, hidle, -⟩ := hr.write_known_ok hsaved
    cases habsent : (r.metadata.identifierValue entity).isAbsentIdentifier with
    | true =>
      rw [isKnown_of_absent habsent] at hknown
      cases hknown
    | false =>
      have hnull := Value.bound_eq_null hleft habsent
      exact absurd hnull ((hasRow_of_isKnown hidle hknown).bound_ne_null hst.committed)

/-! ## 4. Keys that grow -/

/-- **A key that the store chooses is larger than all that were ever used.**  Let a repository with
generated integer identifiers create its table, under a name that no table and no guard had, and let
repositories of the type complete any operations on the store.  If then an entity that leaves its
key to the store is saved with success, it was added in a new row; the key of the row, which is what
comes back in the entity, is positive and larger than every identifier that was in the table after
any of the operations. -/
theorem generated_keys_grow {s : Session} (hmode : s.schemaMode = .create) (hst : st.Reachable)
    (hvacant : st.Everywhere (Database.Vacant (Name.storage type.schema.name)))
    (hnew : (Repository.new type s st).result = .ok r₀)
    (hkind : r₀.metadata.identifier.kind = .integer)
    (hgenerated : r₀.metadata.identifier.generated = true) {earlier later : Store}
    (hearlier : Evolves type (Repository.new type s st).state earlier)
    (hlater : Evolves type earlier later) (hr : Reachable type r)
    (hleft : (r.metadata.identifierValue entity).bound.isAbsentIdentifier = true)
    (hsaved : (r.saveWithOutcome entity later).result = .ok (saved, outcome)) :
    let m := r₀.metadata
    outcome = .persisted ∧ ∃ table row,
      later.committed.table? m.table = some table ∧ table.row? row.key = none ∧
        (r.saveWithOutcome entity later).store =
          { later with committed := later.committed.put (table.add row) } ∧
        m.held row m.identifier = .integer row.key ∧
        ((m.identifierValue entity).isAbsentIdentifier = true →
          saved = m.assignIdentifier entity row.key) ∧
        1 ≤ row.key ∧
        ∀ before, earlier.committed.table? m.table = some before → ∀ other ∈ before.rows,
          ∃ key, m.held other m.identifier = .integer key ∧ key < row.key := by
  intro m
  have hm : m.Resolved type.schema := (opened_new hnew).metadata
  have hsame : r.metadata = m := hr.opened.metadata.unique hm
  have hearly : Numbered m earlier := hearlier.numbered hm (numbered_new hmode hst hvacant hnew)
  have hlate : Numbered m later := hlater.numbered hm hearly
  have hwrite := saveWithOutcome_of_left hr.opened hlate.sound hleft hsaved
  rw [hwrite] at hsaved ⊢
  obtain ⟨houtcome, table, row, htable, hinsert, hfresh, hstore, hsaved'⟩ :=
    hr.opened.row_of_write (hsame ▸ hlate.strictIn) hsaved
  rw [hsame] at htable hinsert hleft hsaved'
  obtain ⟨hdef, hlast⟩ := hlate.dedicated.committed.table? htable
  have hchosen := Metadata.chooseKey_of_insertRow hm hkind hdef hleft hinsert
  have hauto : table.isAutoincrement = true := by
    rw [hm.isAutoincrement hdef, hgenerated, decide_eq_true hkind]
    rfl
  have hlt := Table.lastKey_lt_of_chooseKey hauto hchosen
  refine ⟨houtcome, table, row, htable, hfresh, hstore, ?_, ?_, ?_, ?_⟩
  · have hafter : Numbered m (r.saveWithOutcome entity later).store :=
      hlate.request hr.opened hsame (.basic (.save entity))
    rw [hwrite, hstore] at hafter
    exact hafter.held_key hm hkind (Database.table?_put htable rfl) (Table.mem_add.mpr (.inl rfl))
  · intro habsent
    rw [hsaved', if_pos habsent]
  · have hone : (1 : Int64).toInt = 1 := by decide
    rw [Int64.le_iff_toInt_le, hone]
    omega
  · intro before hbefore other hother
    refine ⟨other.key, hearly.held_key hm hkind hbefore hother, ?_⟩
    have hremembered := hlater.le_lastKey hearly hbefore htable hother
    rw [Int64.lt_iff_toInt_lt]
    omega

end Repository

/-! ## 5. Items -/

namespace Items

/-- The attributes of items with their columns and accessors. -/
def metadata : Metadata Demo.Item where
  entity := "Item"
  table := "item"
  attributes := [⟨(Attribute.id "id" .integer).asGenerated, "id",
      fun item => Demo.keyValue item.id⟩,
    ⟨(Attribute.new "name" .text).asNotNull, "name", fun item => .text item.name⟩]
  identifier := ⟨(Attribute.id "id" .integer).asGenerated, "id",
    fun item => Demo.keyValue item.id⟩
  assigner := some fun item key => { item with id := some key }

/-- A repository of items. -/
def repository : Repository Demo.Item :=
  ⟨Tags.session, Demo.items, metadata, .empty, .new⟩

/-- What the repository leaves behind that creates the table. -/
def opened : Store :=
  (Repository.new Demo.items Tags.session .empty).state

/-- The store after an item was saved under the key five. -/
def filled : Store :=
  ((Request.basic (.save ⟨some 5, "a"⟩)).run repository opened).store

/-- The store after it was removed again. -/
def emptied : Store :=
  ((Request.basic .deleteAll).run repository filled).store

end Items

namespace Repository

/-- The key five is used, and its row is removed: the next key is larger all the same. -/
theorem generated_keys_grow_items :
    (Items.repository.saveWithOutcome ⟨none, "b"⟩ Items.emptied).result =
        .ok (⟨some 6, "b"⟩, .persisted) ∧
      ∃ table row, Items.emptied.committed.table? "item" = some table ∧ table.rows = [] ∧
        (Items.repository.saveWithOutcome ⟨none, "b"⟩ Items.emptied).store =
          { Items.emptied with committed := Items.emptied.committed.put (table.add row) } ∧
        5 < row.key := by
  have hnew : (Repository.new Demo.items Tags.session .empty).result = .ok Items.repository := rfl
  have hvacant : Store.empty.Everywhere
      (Database.Vacant (Name.storage Demo.items.schema.name)) :=
    ⟨⟨nofun, nofun⟩, nofun⟩
  have hearlier : Evolves Demo.items Items.opened Items.filled := .request _ (.new hnew) .refl
  have hlater : Evolves Demo.items Items.filled Items.emptied := .request _ (.new hnew) .refl
  have hsaved : (Items.repository.saveWithOutcome ⟨none, "b"⟩ Items.emptied).result =
      .ok (⟨some 6, "b"⟩, .persisted) := rfl
  obtain ⟨-, table, row, htable, -, hstore, -, -, -, hgrown⟩ :=
    generated_keys_grow rfl (.drawing []) hvacant hnew rfl rfl hearlier hlater (.new hnew) rfl
      hsaved
  have hnone : Items.emptied.committed.table? "item" =
      some ⟨Items.metadata.tableDefinition, [], 5, []⟩ := rfl
  have hfive : Items.filled.committed.table? "item" =
      some ⟨Items.metadata.tableDefinition, [⟨5, [.integer 5, .text "a"]⟩], 5, []⟩ := rfl
  obtain ⟨key, hkey, hlt⟩ := hgrown _ hfive _ List.mem_cons_self
  cases hkey
  cases hnone.symm.trans htable
  exact ⟨hsaved, _, row, hnone, rfl, hstore, hlt⟩

end Repository

end EntityStore

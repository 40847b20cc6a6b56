import EntityStore.Proofs.Repository.Represents
/-!
# Saving into a table

The two statements of a save on an isolated table that represents a map: the insertion of an entity
whose identifier is absent or unknown (`Represents.insertRow`), and the replacement of the values of
the one row under the identifier (`Represents.updateRow`).  Each either gives a table that
represents the map after the save, or fails for one of the reasons for which a save may fail.
-/

namespace EntityStore.Metadata

variable {E : Type} {schema : EntitySchema E} {type : EntityType E} {m : Metadata E}
  {carries : MappedAttribute E → Value → Prop} {db : Database} {t : Table} {M : EntityMap}
  {entity : E} {row : Row} {a : MappedAttribute E}

/-! ## 1. What is written -/

/-- The values with which a new entity is inserted. -/
def insertedValues (m : Metadata E) (entity : E) : Parameters :=
  m.attributeValues entity !m.isNew entity

/-- The columns that are given values when a new entity is inserted. -/
def insertedSlots (m : Metadata E) (entity : E) : List Slot :=
  (m.writtenAttributes !m.isNew entity).map MappedAttribute.slot

/-- The row of a new entity under a key. -/
def newRow (m : Metadata E) (t : Table) (entity : E) (key : Int64) : Row :=
  ⟨key, Database.showKey t.columns key
    (Database.newValues t (m.insertedValues entity) (m.insertedSlots entity))⟩

/-- The row under an identifier, with the other values of an entity. -/
def replacedRow (m : Metadata E) (t : Table) (entity : E) (row : Row) : Row :=
  ⟨row.key, Database.otherValues t (m.attributeValues entity true)
    (m.valueAttributes.map MappedAttribute.slot) row⟩

/-- A written attribute is given the entity's value, which the store keeps. -/
theorem Resolved.given_kept (hm : m.Resolved schema) {w : Bool} {written : List (MappedAttribute E)}
    (hsub : written ⊆ m.attributes) (ha : a ∈ written) (hw : a ∈ m.writtenAttributes w)
    (hkeeps : a.Keeps (a.read entity)) :
    Database.given? (m.attributeValues entity w) (written.map MappedAttribute.slot) a.definition =
      some (a.read entity) := by
  rw [hm.given_written entity hsub ha hw, hkeeps.bound, hkeeps.stored]

/-- What an insertion gives to the column of the identifier. -/
theorem Resolved.given_identifier (hm : m.Resolved schema) (hf : m.Faithful type carries)
    (hs : m.Storable carries entity) :
    (Database.given? (m.insertedValues entity) (m.insertedSlots entity)
      m.identifier.definition).getD .null =
      if m.isNew entity then .null else m.identifierValue entity := by
  obtain ⟨hmem, hid⟩ := hm.identifier_mem
  unfold insertedValues insertedSlots
  cases hnew : m.isNew entity with
  | true =>
    have hnot : m.identifier ∉ m.writtenAttributes !true := by simp [writtenAttributes, hid]
    rw [hm.given_not_mem _ (writtenAttributes_subset _) hmem hnot]
    rfl
  | false =>
    have hw : m.identifier ∈ m.writtenAttributes !false := by simp [writtenAttributes, hmem]
    rw [hm.given_kept (writtenAttributes_subset _) hw hw
      (hf.keeps _ hmem _ (hs.identifier hnew))]
    rfl

/-- What an insertion may come to: a table that represents the map with the entity, or a refusal. -/
def InsertsOrRefuses (m : Metadata E) (carries : MappedAttribute E → Value → Prop) (t : Table)
    (M : EntityMap) (entity : E) (inserted : Except Halt (Table × Int64)) : Prop :=
  (∃ t' key M', inserted = .ok (t', key) ∧ t'.definition = t.definition ∧
      m.Represents carries t' M' ∧
      MapStep m M (.save entity) (.ok (.saved
        (if m.isNew entity then m.assignIdentifier entity key else entity) .persisted)) M') ∨
    (∃ halt, inserted = .error halt) ∧ m.Refusal M entity

namespace Represents

/-- The row of a new entity holds the entity's values. -/
theorem held_newRow (h : m.Represents carries t M) (hm : m.Resolved schema)
    (hf : m.Faithful type carries) (hs : m.Storable carries entity) (key : Int64)
    (ha : a ∈ m.valueAttributes) : m.held (m.newRow t entity key) a = a.read entity := by
  obtain ⟨hmem, hid⟩ := mem_valueAttributes.mp ha
  have hw : a ∈ m.writtenAttributes !m.isNew entity := by simp [writtenAttributes, hmem, hid]
  rw [newRow, hm.held_inserted h.definition hmem, isRowKey_valueAttribute ha, insertedValues,
    insertedSlots, hm.given_kept (writtenAttributes_subset _) hw hw
      (hf.keeps _ hmem _ (hs.values a ha))]
  rfl

/-- Its identifier is its key, or else that of the entity if there is one. -/
theorem held_newRow_identifier (h : m.Represents carries t M) (hm : m.Resolved schema)
    (hf : m.Faithful type carries) (hs : m.Storable carries entity) (key : Int64) :
    m.held (m.newRow t entity key) m.identifier =
      if m.identifier.kind = .integer then .integer key
      else if m.isNew entity then .null else m.identifierValue entity := by
  rw [newRow, hm.held_inserted h.definition hm.identifier_mem.1, hm.isRowKey_identifier,
    hm.given_identifier hf hs]
  simp only [decide_eq_true_eq]

theorem fits_newRow (h : m.Represents carries t M) (entity : E) (key : Int64) :
    (m.newRow t entity key).Fits m.tableDefinition.columns := by
  rw [← h.columns]
  exact Database.fits_showKey key (by simp [Database.newValues])

/-! ## 2. Keys -/

/-- An insertion stands for the key that the identifier is, if there is one. -/
theorem givenKey_new (h : m.Represents carries t M) (hm : m.Resolved schema)
    (hf : m.Faithful type carries) (hs : m.Storable carries entity) :
    Database.givenKey t
        (Database.newValues t (m.insertedValues entity) (m.insertedSlots entity)) =
      if m.identifier.kind = .integer then
        Database.keyOf (if m.isNew entity then .null else m.identifierValue entity)
      else .ok none := by
  rw [hm.givenKey_newValues h.definition, hm.given_identifier hf hs]

/-- A table of entities uses keys again unless its identifiers are integers. -/
theorem isAutoincrement (h : m.Represents carries t M) (hm : m.Resolved schema)
    (hkind : m.identifier.kind ≠ .integer) : t.isAutoincrement = false := by
  rw [hm.isAutoincrement h.definition, decide_eq_false hkind, Bool.and_false]

/-- Where identifiers are integers the map has an entry under every key. -/
theorem mem_identifiers (h : m.Represents carries t M) (hm : m.Resolved schema)
    (hkind : m.identifier.kind = .integer) {row : Row} (hrow : row ∈ t.rows) :
    .integer row.key ∈ M.entries.map (·.identifier) :=
  List.mem_map.mpr ⟨m.rowEntry row, h.mem_entries.mpr ⟨row, hrow, rfl⟩,
    hm.held_key hkind (h.fits hrow)⟩

/-- A table with the largest key and one that can be guessed represents two entries. -/
theorem two_le_length (h : m.Represents carries t M) {last guessed : Row} {d : Draw}
    (hlast : last ∈ t.rows) (hmax : last.key = Table.maxKey) (hguessed : guessed ∈ t.rows)
    (hkey : guessed.key = d.key) : 2 ≤ M.entries.length := by
  have hne : last ≠ guessed := by
    rintro rfl
    have htop : Table.maxKey.toInt = 2 ^ 63 - 1 := Int64.toInt_maxValue
    have hdraw := Table.toInt_drawKey d
    rw [← hkey, hmax, htop] at hdraw
    have hlt := d.isLt
    omega
  rw [h.entries.length_eq, List.length_map]
  rcases hrows : t.rows with - | ⟨only, - | ⟨other, rest⟩⟩
  · rw [hrows] at hlast
    cases hlast
  · rw [hrows, List.mem_singleton] at hlast hguessed
    exact absurd (hlast.trans hguessed.symm) hne
  · simp

/-- The store runs out of keys only when all that it may choose are used. -/
theorem exhausted (h : m.Represents carries t M) (hm : m.Resolved schema) {fault : StoreFault}
    (hfull : t.chooseKey = .error fault) : m.Exhausted M := by
  have hauto := hm.isAutoincrement h.definition
  unfold Exhausted
  by_cases hkind : m.identifier.kind = .integer
  · rw [decide_eq_true hkind, Bool.and_true] at hauto
    rw [if_pos hkind, ← hauto]
    rcases Table.chooseKey_error h.sound hfull with
      ⟨hgenerated, hlast | ⟨row, hrow, hkey⟩⟩ | ⟨hchosen, ⟨row, hrow, hkey⟩, htaken⟩
    · rw [if_pos hgenerated]
      exact (h.used hkind).2 hlast
    · rw [if_pos hgenerated]
      exact hkey ▸ (h.used hkind).1 row hrow
    · rw [if_neg (Bool.eq_false_iff.mp hchosen)]
      refine ⟨hkey ▸ h.mem_identifiers hm hkind hrow, t.drawn, t.length_drawn, fun d hd => ?_⟩
      obtain ⟨other, hother, hguess⟩ := htaken d hd
      exact hguess ▸ h.mem_identifiers hm hkind hother
  · rw [if_neg hkind]
    rw [decide_eq_false hkind, Bool.and_false] at hauto
    rcases Table.chooseKey_error h.sound hfull with ⟨hgenerated, -⟩ |
      ⟨-, ⟨row, hrow, hkey⟩, htaken⟩
    · rw [hauto] at hgenerated
      cases hgenerated
    · have hdrawn : 0 < t.drawn.length := by
        rw [t.length_drawn]
        decide
      obtain ⟨d, hd⟩ := List.exists_mem_of_length_pos hdrawn
      obtain ⟨other, hother, hguess⟩ := htaken d hd
      have hmax : Table.maxKey.toInt = 2 ^ 63 - 1 := Int64.toInt_maxValue
      have hle := h.numbered hkind row hrow
      rw [hkey, hmax] at hle
      exact ⟨by omega, h.two_le_length hrow hkey hother hguess⟩

/-! ## 3. Insertion -/

/-- The identifier of the row of a new entity is in order: entities carry it, it is not `null`, and
no row has it. -/
theorem newRow_identifier (h : m.Represents carries t M) (hm : m.Resolved schema)
    (hf : m.Faithful type carries) (hs : m.Storable carries entity) {key : Int64}
    (hnew : t.row? key = none)
    (hidentified : m.identifier.kind = .integer ∨ m.isNew entity = false)
    (hunknown : m.isNew entity = false →
      ∀ other ∈ t.rows, m.isAt (m.identifierValue entity) (m.rowEntry other) = false) :
    carries m.identifier (m.held (m.newRow t entity key) m.identifier) ∧
      m.held (m.newRow t entity key) m.identifier ≠ .null ∧
      ∀ other ∈ t.rows, (m.held other m.identifier).equals
        (m.held (m.newRow t entity key) m.identifier) = false := by
  rw [h.held_newRow_identifier hm hf hs]
  by_cases hkind : m.identifier.kind = .integer
  · rw [if_pos hkind]
    refine ⟨hf.keys hkind key, by simp, fun other hother => ?_⟩
    rw [hm.held_key hkind (h.fits hother), Bool.eq_false_iff, ne_eq, Value.equals_integer]
    exact Table.row?_eq_none.mp hnew other hother
  · have hold : m.isNew entity = false := hidentified.resolve_left hkind
    have hcarried := hs.identifier hold
    rw [if_neg hkind, hold, if_neg Bool.false_ne_true]
    refine ⟨hcarried, fun hnull => ?_, fun other hother => ?_⟩
    · rw [isNew, hnull] at hold
      cases hold
    · have hkeeps := hf.keeps _ hm.identifier_mem.1 _ hcarried
      have hat := hunknown hold other hother
      rw [isAt, hkeeps.bound, hkeeps.matches, hm.isRowKey_identifier, decide_eq_false hkind] at hat
      exact hat

/-- What a row holds that has an identifier which entities carry and the values of an entity. -/
theorem carried_of_values (hm : m.Resolved schema) (hs : m.Storable carries entity)
    (hidentifier : carries m.identifier (m.held row m.identifier))
    (hvalues : ∀ a ∈ m.valueAttributes, m.held row a = a.read entity) :
    ∀ a ∈ m.attributes, carries a (m.held row a) := by
  intro a ha
  cases hid : a.identifier with
  | true => exact hm.eq_identifier ha hid ▸ hidentifier
  | false =>
    have hvalue := mem_valueAttributes.mpr ⟨ha, hid⟩
    exact hvalues a hvalue ▸ hs.values a hvalue

/-- The entity in a new row is added to the map, under the row's key or its own identifier. -/
theorem step_newRow (h : m.Represents carries t M) (hm : m.Resolved schema)
    (hf : m.Faithful type carries) (hs : m.Storable carries entity) {key : Int64}
    (hnew : t.row? key = none)
    (hidentified : m.identifier.kind = .integer ∨ m.isNew entity = false)
    (hkey : m.identifier.kind = .integer → m.isNew entity = false →
      m.identifierValue entity = .integer key)
    (hunknown : m.isNew entity = false →
      ∀ other ∈ t.rows, m.isAt (m.identifierValue entity) (m.rowEntry other) = false)
    (hclash : ¬ m.Clashes (m.others M.entries entity) entity) :
    MapStep m M (.save entity) (.ok (.saved
        (if m.isNew entity then m.assignIdentifier entity key else entity) .persisted))
      ⟨m.rowEntry (m.newRow t entity key) :: M.entries,
        m.held (m.newRow t entity key) m.identifier :: M.added⟩ := by
  have hentry : m.rowEntry (m.newRow t entity key) =
      m.entry (m.held (m.newRow t entity key) m.identifier) entity := by
    rw [rowEntry, entry, List.map_congr_left fun a ha => h.held_newRow hm hf hs key ha]
  rw [hentry, h.held_newRow_identifier hm hf hs]
  cases hold : m.isNew entity with
  | true =>
    have hkind : m.identifier.kind = .integer := hidentified.resolve_right (by simp [hold])
    rw [if_pos hkind]
    refine .generated hold hkind (fun entry hmem => Bool.eq_false_iff.mpr fun hat => ?_) hclash
    obtain ⟨other, hother, rfl⟩ := h.mem_entries.mp hmem
    exact Table.row?_eq_none.mp hnew other hother ((h.isAt_key hm hf hkind hother key).mp hat)
  | false =>
    have hown : (if m.identifier.kind = .integer then Value.integer key
        else if false then .null else m.identifierValue entity) = m.identifierValue entity := by
      split
      · exact (hkey ‹_› hold).symm
      · rfl
    rw [hown]
    refine .persisted hold (fun entry hmem => ?_) hclash fun hkind => ⟨key, hkey hkind hold⟩
    obtain ⟨other, hother, rfl⟩ := h.mem_entries.mp hmem
    exact hunknown hold other hother

/-- **A new row under a key that no row has** is added, unless the entity clashes. -/
theorem insertsOrRefuses (h : m.Represents carries t M) (hm : m.Resolved schema)
    (hf : m.Faithful type carries) (hs : m.Storable carries entity) {key : Int64}
    (hnew : t.row? key = none)
    (hnumbered : m.identifier.kind ≠ .integer → key.toInt ≤ M.added.length + 1)
    (hidentified : m.identifier.kind = .integer ∨ m.isNew entity = false)
    (hkey : m.identifier.kind = .integer → m.isNew entity = false →
      m.identifierValue entity = .integer key)
    (hunknown : m.isNew entity = false →
      ∀ other ∈ t.rows, m.isAt (m.identifierValue entity) (m.rowEntry other) = false) :
    m.InsertsOrRefuses carries t M entity
      (match Database.addRow t (m.newRow t entity key) with
      | .error halt => .error halt
      | .ok t' => .ok (t', key)) := by
  obtain ⟨hcarried, hnotNull, hdistinct⟩ :=
    h.newRow_identifier hm hf hs hnew hidentified hunknown
  have hvalues := fun a (ha : a ∈ m.valueAttributes) => h.held_newRow hm hf hs key ha
  have hfits := h.fits_newRow entity key
  have hothers : ∀ other ∈ t.rows, other.key ≠ key ↔ (m.isNew entity = true ∨
      m.isAt (m.identifierValue entity) (m.rowEntry other) = false) := by
    intro other hother
    refine iff_of_true (Table.row?_eq_none.mp hnew other hother) ?_
    cases hold : m.isNew entity with
    | true => exact .inl rfl
    | false => exact .inr (hunknown hold other hother)
  have hchecks := h.checks_iff hm hfits hvalues hnotNull
    (fun other hother _ => hdistinct other hother) hothers
  cases hadd : Database.addRow t (m.newRow t entity key) with
  | error halt =>
    refine .inr ⟨⟨halt, rfl⟩, .clash ?_⟩
    by_contra hclash
    obtain ⟨hmissing, hrepeated⟩ := hchecks.mpr hclash
    have hok := Database.addRow_eq_ok.mpr
      ⟨h.columns ▸ hmissing, hnew, hrepeated, rfl⟩
    rw [hadd] at hok
    cases hok
  | ok t' =>
    obtain ⟨hmissing, -, hrepeated, rfl⟩ := Database.addRow_eq_ok.mp hadd
    have hclash := hchecks.mp ⟨hmissing, hrepeated⟩
    have hrepresents := h.add hm hfits hnew (carried_of_values hm hs hcarried hvalues) hnotNull
      hdistinct hnumbered
    exact .inl ⟨_, key, _, rfl, rfl, hrepresents,
      h.step_newRow hm hf hs hnew hidentified hkey hunknown hclash⟩

/-- A new row whose key the store chooses. -/
theorem insertRow_chosen (h : m.Represents carries t M) (hm : m.Resolved schema)
    (hf : m.Faithful type carries) (hs : m.Storable carries entity)
    (hchoose : m.identifier.kind = .integer → m.isNew entity = true)
    (hunknown : m.isNew entity = false →
      ∀ other ∈ t.rows, m.isAt (m.identifierValue entity) (m.rowEntry other) = false) :
    m.InsertsOrRefuses carries t M entity
      (match db.chosenKey t none with
      | .error halt => .error halt
      | .ok key =>
        match Database.addRow t (m.newRow t entity key) with
        | .error halt => .error halt
        | .ok t' => .ok (t', key)) := by
  cases hchosen : t.chooseKey with
  | error fault =>
    simp only [Database.chosenKey, hchosen, Except.mapError]
    refine .inr ⟨⟨_, rfl⟩, .exhausted (h.exhausted hm hchosen) ?_⟩
    cases hold : m.isNew entity with
    | true => exact .inl rfl
    | false =>
      refine .inr ⟨fun hkind => by simp [hchoose hkind] at hold, fun entry hmem => ?_⟩
      obtain ⟨other, hother, rfl⟩ := h.mem_entries.mp hmem
      exact hunknown hold other hother
  | ok key =>
    simp only [Database.chosenKey, hchosen, Except.mapError]
    by_cases hidentified : m.identifier.kind = .integer ∨ m.isNew entity = false
    · refine h.insertsOrRefuses hm hf hs (Table.row?_of_chooseKey h.sound hchosen)
        (fun hkind => ?_) hidentified (fun hkind hold => ?_) hunknown
      · exact Table.chooseKey_le h.sound (h.isAutoincrement hm hkind) (h.numbered hkind) hchosen
      · rw [hchoose hkind] at hold
        cases hold
    · obtain ⟨hkind, hnew⟩ := not_or.mp hidentified
      have hnew : m.isNew entity = true := by simpa using hnew
      have hnull : m.held (m.newRow t entity key) m.identifier = .null := by
        rw [h.held_newRow_identifier hm hf hs, if_neg hkind, hnew, if_pos rfl]
      have hnotNull : m.identifier.definition.notNull = true := by
        simp [MappedAttribute.definition, hm.identifier_mem.2, hkind]
      cases hadd : Database.addRow t (m.newRow t entity key) with
      | error halt => exact .inr ⟨⟨halt, rfl⟩, .noIdentifier hnew hkind⟩
      | ok t' =>
        have hmissing := (Database.addRow_eq_ok.mp hadd).1
        rw [h.columns, hm.missing?_eq_none (h.fits_newRow entity key).length] at hmissing
        exact absurd hnull (hmissing _ hm.identifier_mem.1 hnotNull
          (by rw [hm.isRowKey_identifier, decide_eq_false hkind]))

/-- **Inserting an entity** that is new or has an unknown identifier adds its entry to the map, or
else is refused. -/
theorem insertRow (h : m.Represents carries t M) (hm : m.Resolved schema)
    (hf : m.Faithful type carries) (hs : m.Storable carries entity) (hiso : db.Isolated t)
    (hunknown : m.isNew entity = false →
      ∀ other ∈ t.rows, m.isAt (m.identifierValue entity) (m.rowEntry other) = false) :
    m.InsertsOrRefuses carries t M entity
      (db.insertRow t (m.insertedValues entity) (m.insertedSlots entity)) := by
  rw [hiso.insertRow, h.givenKey_new hm hf hs]
  by_cases hkind : m.identifier.kind = .integer
  · rw [if_pos hkind]
    cases hold : m.isNew entity with
    | true => exact h.insertRow_chosen hm hf hs (fun _ => hold) hunknown
    | false =>
      rw [if_neg Bool.false_ne_true]
      cases hvalue : m.identifierValue entity with
      | null =>
        rw [isNew, hvalue] at hold
        cases hold
      | integer key =>
        have hnew : t.row? key = none := Table.row?_eq_none.mpr fun other hother heq => by
          have hat := hunknown hold other hother
          rw [hvalue, (h.isAt_key hm hf hkind hother key).mpr heq] at hat
          cases hat
        exact h.insertsOrRefuses hm hf hs hnew (fun hk => absurd hkind hk) (.inl hkind)
          (fun _ _ => hvalue) hunknown
      | real x => exact .inr ⟨⟨_, rfl⟩, .notAKey hold hkind (by simp [hvalue])⟩
      | text text => exact .inr ⟨⟨_, rfl⟩, .notAKey hold hkind (by simp [hvalue])⟩
      | blob bytes => exact .inr ⟨⟨_, rfl⟩, .notAKey hold hkind (by simp [hvalue])⟩
  · rw [if_neg hkind]
    exact h.insertRow_chosen hm hf hs (fun hk => absurd hk hkind) hunknown

/-! ## 4. Replacement -/

theorem held_replacedRow (h : m.Represents carries t M) (hm : m.Resolved schema)
    (hf : m.Faithful type carries) (hs : m.Storable carries entity) (hrow : row ∈ t.rows)
    (ha : a ∈ m.valueAttributes) : m.held (m.replacedRow t entity row) a = a.read entity := by
  obtain ⟨hmem, -⟩ := mem_valueAttributes.mp ha
  have hw : a ∈ m.writtenAttributes true := by simp [writtenAttributes, hmem]
  rw [replacedRow, hm.held_updated h.definition hmem (h.sound.fits row hrow).length,
    hm.given_kept valueAttributes_subset ha hw (hf.keeps _ hmem _ (hs.values a ha)),
    Option.getD_some]

theorem held_replacedRow_identifier (h : m.Represents carries t M) (hm : m.Resolved schema)
    (entity : E) (hrow : row ∈ t.rows) :
    m.held (m.replacedRow t entity row) m.identifier = m.held row m.identifier :=
  hm.held_otherValues h.definition (h.sound.fits row hrow) row.key _

/-- **Replacing the values of the row under an identifier** replaces the entry there, or else is
refused. -/
theorem updateRow (h : m.Represents carries t M) (hm : m.Resolved schema)
    (hf : m.Faithful type carries) (hs : m.Storable carries entity) (hiso : db.Isolated t)
    (hold : m.isNew entity = false) (hrow : row ∈ t.rows)
    (hat : m.isAt (m.identifierValue entity) (m.rowEntry row) = true) :
    (∃ t' M', db.updateRow (m.attributeValues entity true)
          (m.valueAttributes.map MappedAttribute.slot) t row = .ok t' ∧
        t'.definition = t.definition ∧ m.Represents carries t' M' ∧
        MapStep m M (.save entity) (.ok (.saved entity .merged)) M') ∨
      (∃ halt, db.updateRow (m.attributeValues entity true)
        (m.valueAttributes.map MappedAttribute.slot) t row = .error halt) ∧
        m.Refusal M entity := by
  have hshown := hm.shownKey_otherValues h.definition (h.sound.fits row hrow)
    (m.attributeValues entity true)
  have hfits : (m.replacedRow t entity row).Fits m.tableDefinition.columns := by
    rw [← h.columns]
    exact ⟨by simp [replacedRow, Database.otherValues, (h.sound.fits row hrow).length],
      fun i c hc => Database.shown_of_shownKey h.sound.oneKey hshown hc⟩
  have hvalues := fun a (ha : a ∈ m.valueAttributes) => h.held_replacedRow hm hf hs hrow ha
  have hheld := h.held_replacedRow_identifier hm entity hrow
  have hunique : ∀ other ∈ t.rows,
      m.isAt (m.identifierValue entity) (m.rowEntry other) = (other.key == row.key) := by
    intro other hother
    rw [Bool.eq_iff_iff, beq_iff_eq]
    refine ⟨fun hat' => by rw [h.eq_of_isAt hother hrow hat' hat], fun hkey => ?_⟩
    rwa [h.sound.eq_of_key hother hrow hkey]
  have hchecks := h.checks_iff hm hfits hvalues (hheld ▸ h.identified row hrow)
    (fun other hother hkey => hheld ▸ h.distinct other hother row hrow hkey)
    (fun other hother => by simp [hunique other hother, hold, replacedRow])
  rw [hiso.updateRow _ hshown, show (⟨row.key, Database.otherValues t
    (m.attributeValues entity true) (m.valueAttributes.map MappedAttribute.slot) row⟩ : Row) =
      m.replacedRow t entity row from rfl]
  cases hcheck : t.checkRow (m.replacedRow t entity row) with
  | error fault =>
    refine .inr ⟨⟨_, rfl⟩, .clash ?_⟩
    by_contra hclash
    rw [Database.checkRow_eq_ok.mpr (hchecks.mpr hclash)] at hcheck
    cases hcheck
  | ok done =>
    have hpassed := hchecks.mp (Database.checkRow_eq_ok.mp hcheck)
    have hcarried := carried_of_values hm hs
      (hheld ▸ h.carried row hrow _ hm.identifier_mem.1) hvalues
    have hreplaced := h.replace hrow hfits hcarried hheld (f := fun entry =>
      if m.isAt (m.identifierValue entity) entry then m.entry entry.identifier entity else entry)
      fun x hx => by
        rw [hunique x hx]
        split
        · rename_i hkey
          rw [h.sound.eq_of_key hx hrow (eq_of_beq hkey)]
          exact congrArg₂ Entry.mk hheld.symm (List.map_congr_left hvalues).symm
        · rfl
    exact .inl ⟨_, _, rfl, rfl, hreplaced, .merged hold
      ⟨_, h.mem_entries.mpr ⟨row, hrow, rfl⟩, hat⟩ hpassed⟩

end Represents

end EntityStore.Metadata

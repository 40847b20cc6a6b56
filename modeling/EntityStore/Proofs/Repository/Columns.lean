import EntityStore.Proofs.Mapping
import EntityStore.Proofs.Store.Writing
/-!
# The rows of an entity's table

A row of the table of an entity holds one value for each attribute (`Metadata.held`).  Statements
speak of columns by name, and the store finds, fills and checks columns by their place; this module
puts both in terms of attributes:

* a condition on the column of an attribute compares the held value (section 1);
* an inserted or updated row holds the values of the entity it was made of (section 2);
* the checks of a row look at each attribute on its own (section 3);
* the key of a row is its identifier, if that is declared an integer (section 4).
-/

namespace EntityStore

variable {E : Type}

namespace MappedAttribute

/-! ## 1. Columns -/

variable (a : MappedAttribute E)

@[simp] theorem definition_name : a.definition.name = a.column := by
  unfold definition
  split <;> rfl

@[simp] theorem definition_reference : a.definition.reference = none := by
  unfold definition
  split <;> rfl

@[simp] theorem definition_isPlain : a.definition.isPlain = true := by
  unfold definition
  split <;> rfl

@[simp] theorem definition_initial : a.definition.initial = .null := by
  unfold definition
  split <;> rfl

theorem definition_isRowKey :
    a.definition.isRowKey = (a.identifier && decide (a.kind = .integer)) := by
  unfold definition
  cases a.identifier <;> simp [Column.isRowKey]

/-- A value is required unless the attribute is declared nullable. -/
theorem notNull_of_value {a : MappedAttribute E} (h : a.identifier = false) :
    a.definition.notNull = !a.nullable := by
  simp [definition, h]

/-- A value is kept distinct if the attribute is declared unique. -/
theorem isDistinct_of_value {a : MappedAttribute E} (h : a.identifier = false) :
    a.definition.isDistinct = a.unique := by
  simp [Column.isDistinct, Column.isRowKey, definition, h]

end MappedAttribute

namespace Metadata

variable {schema : EntitySchema E} {m : Metadata E} {a b : MappedAttribute E} {row : Row}

/-- The value that a row holds for an attribute. -/
def held (m : Metadata E) (row : Row) (a : MappedAttribute E) : Value :=
  Table.read m.tableDefinition.columns row a.column

theorem getElem?_columns (m : Metadata E) (i : Nat) :
    m.tableDefinition.columns[i]? = m.attributes[i]?.map MappedAttribute.definition :=
  List.getElem?_map

theorem mem_valueAttributes : a ∈ m.valueAttributes ↔ a ∈ m.attributes ∧ a.identifier = false := by
  simp [valueAttributes]

theorem isRowKey_valueAttribute (ha : a ∈ m.valueAttributes) : a.definition.isRowKey = false := by
  rw [MappedAttribute.definition_isRowKey, (mem_valueAttributes.mp ha).2, Bool.false_and]

theorem writtenAttributes_subset (w : Bool) : m.writtenAttributes w ⊆ m.attributes :=
  fun _ ha => (List.mem_filter.mp ha).1

theorem valueAttributes_subset : m.valueAttributes ⊆ m.attributes :=
  fun _ ha => (List.mem_filter.mp ha).1

/-- A row has a sought identifier if it holds it in the column of the identifier. -/
theorem meetsAll_sought (m : Metadata E) (columns : List Column) (given : Value) (row : Row) :
    Table.meetsAll columns m.sought.conditions (soughtValue given) row =
      Table.holds columns row m.identifier.column given.bound := by
  have hvalue : Parameters.value (soughtValue given) soughtParameter = given.bound :=
    Parameters.value_of_mem (List.nodup_singleton _) List.mem_cons_self
  simp only [Table.meetsAll, sought, List.all_cons, List.all_nil, Bool.and_true, Table.meets,
    hvalue]

/-- No column of an entity's table refers to another table. -/
theorem reference_columns (m : Metadata E) :
    ∀ c ∈ m.tableDefinition.columns, c.reference = none := by
  intro c hc
  obtain ⟨a, -, rfl⟩ := List.mem_map.mp hc
  exact a.definition_reference

/-- An entity's table passes no row over. -/
theorem strict_tableDefinition (m : Metadata E) : m.tableDefinition.Strict := by
  intro c hc
  obtain ⟨a, -, rfl⟩ := List.mem_map.mp hc
  unfold MappedAttribute.definition
  split <;> rfl

namespace Resolved

theorem attributes_nodup (h : m.Resolved schema) : m.attributes.Nodup :=
  List.Nodup.of_map _ h.names

/-- The store finds the column of an attribute in the place of the attribute. -/
theorem columnIndex? (h : m.Resolved schema) {i : Nat} (ha : m.attributes[i]? = some a) :
    Table.columnIndex? m.tableDefinition.columns a.column = some i := by
  obtain ⟨hi, rfl⟩ := List.getElem?_eq_some_iff.mp ha
  refine List.findIdx?_eq_some_iff_getElem.mpr ⟨by simpa [tableDefinition] using hi, ?_, ?_⟩
  · simp [tableDefinition]
  · intro j hj
    have hj' : j < m.attributes.length := by omega
    have hne : m.attributes[j] ≠ m.attributes[i] := fun he => by
      have := (h.attributes_nodup.getElem_inj_iff).mp he
      omega
    have hsame : ¬ Name.same m.attributes[j].column m.attributes[i].column = true := fun hs =>
      hne ((h.same_column (List.getElem_mem hj') (List.getElem_mem hi)).mp hs)
    simpa [tableDefinition] using hsame

theorem held_eq (h : m.Resolved schema) {i : Nat} (ha : m.attributes[i]? = some a) (row : Row) :
    m.held row a = (row.values[i]?).getD .null := by
  simp only [held, Table.read, h.columnIndex? ha]

theorem find?_column (h : m.Resolved schema) (ha : a ∈ m.attributes) :
    m.tableDefinition.columns.find? (fun c => Name.same c.name a.column) = some a.definition := by
  obtain ⟨i, hi⟩ := List.mem_iff_getElem?.mp ha
  have hindex := h.columnIndex? hi
  rw [Table.columnIndex?] at hindex
  rw [List.find?_eq_bind_findIdx?_getElem?, hindex, Option.bind_some, getElem?_columns, hi,
    Option.map_some]

/-- The columns in the statements of an entity can be given values. -/
theorem wrongColumn?_slots (h : m.Resolved schema) {t : Table}
    (ht : t.definition = m.tableDefinition) {written : List (MappedAttribute E)}
    (hsub : written ⊆ m.attributes) (unknown generated : String → StoreFault) :
    Database.wrongColumn? t unknown generated (written.map MappedAttribute.slot) = none := by
  refine List.findSome?_eq_none_iff.mpr fun s hs => ?_
  obtain ⟨a, ha, rfl⟩ := List.mem_map.mp hs
  have hcolumn := h.find?_column (hsub ha)
  rw [Table.columns, ht, show a.slot.column = a.column from rfl, hcolumn]
  simp

/-- A condition on the column of an attribute compares what a row holds there. -/
theorem holds (h : m.Resolved schema) (ha : a ∈ m.attributes) (row : Row) (given : Value) :
    Table.holds m.tableDefinition.columns row a.column given =
      a.definition.matches? (m.held row a) given := by
  simp only [Table.holds, h.find?_column ha, held]

/-- One column at most shows the key. -/
theorem oneKey (h : m.Resolved schema) : OneKey m.tableDefinition.columns := by
  intro i j c d hc hd hckey hdkey
  rw [getElem?_columns] at hc hd
  obtain ⟨a, ha, rfl⟩ := Option.map_eq_some_iff.mp hc
  obtain ⟨b, hb, rfl⟩ := Option.map_eq_some_iff.mp hd
  simp only [MappedAttribute.definition_isRowKey, Bool.and_eq_true] at hckey hdkey
  have hab : a = b := (h.eq_identifier (List.mem_of_getElem? ha) hckey.1).trans
    (h.eq_identifier (List.mem_of_getElem? hb) hdkey.1).symm
  subst hab
  have hi : i < m.attributes.length := (List.getElem?_eq_some_iff.mp ha).1
  exact (List.getElem?_inj hi h.attributes_nodup).mp (ha.trans hb.symm)

/-! ## 2. Values -/

/-- A statement gives a value to the column of an attribute that it writes, by the name of the
column, in whatever table. -/
theorem given_column (h : m.Resolved schema) (parameters : Parameters)
    {written : List (MappedAttribute E)} (hsub : written ⊆ m.attributes) (ha : a ∈ written)
    {c : Column} (hc : Name.same c.name a.column = true) :
    Database.given? parameters (written.map MappedAttribute.slot) c =
      some (c.affinity.store (parameters.value a.name)) := by
  have hsame : ∀ b ∈ m.attributes, Name.same b.slot.column c.name = true ↔ b = a := by
    intro b hb
    rw [← h.same_column hb (hsub ha), Name.same, Name.same, eq_of_beq hc]
    rfl
  have hfind : written.find? ((fun s : Slot => Name.same s.column c.name) ∘
      MappedAttribute.slot) = some a := by
    cases hfound : written.find? ((fun s : Slot => Name.same s.column c.name) ∘
        MappedAttribute.slot) with
    | none =>
      have hnone := List.find?_eq_none.mp hfound a ha
      exact absurd ((hsame a (hsub ha)).mpr rfl) hnone
    | some b =>
      have hb := hsub (List.mem_of_find?_eq_some hfound)
      have hmatch := List.find?_some hfound
      rw [(hsame b hb).mp hmatch]
  rw [Database.given?, List.find?_map, hfind]
  rfl

/-- It gives none to the column of an attribute that it does not write. -/
theorem given_column_not_mem (h : m.Resolved schema) (parameters : Parameters)
    {written : List (MappedAttribute E)} (hsub : written ⊆ m.attributes) (ha : a ∈ m.attributes)
    (hnot : a ∉ written) {c : Column} (hc : Name.same c.name a.column = true) :
    Database.given? parameters (written.map MappedAttribute.slot) c = none := by
  have hfind : written.find? ((fun s : Slot => Name.same s.column c.name) ∘
      MappedAttribute.slot) = none := by
    refine List.find?_eq_none.mpr fun b hb hs => hnot ?_
    have hs : Name.same b.column c.name = true := hs
    rw [Name.same, eq_of_beq hc] at hs
    exact (h.same_column (hsub hb) ha).mp hs ▸ hb
  rw [Database.given?, List.find?_map, hfind]
  rfl

/-- What a statement gives to the column of an attribute that it writes. -/
theorem given_mem (h : m.Resolved schema) (parameters : Parameters)
    {written : List (MappedAttribute E)} (hsub : written ⊆ m.attributes) (ha : a ∈ written) :
    Database.given? parameters (written.map MappedAttribute.slot) a.definition =
      some (a.definition.affinity.store (parameters.value a.name)) :=
  h.given_column parameters hsub ha (by simp)

theorem given_not_mem (h : m.Resolved schema) (parameters : Parameters)
    {written : List (MappedAttribute E)} (hsub : written ⊆ m.attributes) (ha : a ∈ m.attributes)
    (hnot : a ∉ written) :
    Database.given? parameters (written.map MappedAttribute.slot) a.definition = none :=
  h.given_column_not_mem parameters hsub ha hnot (by simp)

/-- What a new row holds: its key where that is shown, and elsewhere what the statement gives. -/
theorem held_inserted (h : m.Resolved schema) {t : Table} (ht : t.definition = m.tableDefinition)
    (ha : a ∈ m.attributes) (key : Int64) (parameters : Parameters) (slots : List Slot) :
    m.held ⟨key, Database.showKey t.columns key (Database.newValues t parameters slots)⟩ a =
      if a.definition.isRowKey then .integer key
      else (Database.given? parameters slots a.definition).getD .null := by
  have hcolumns : t.columns = m.tableDefinition.columns := congrArg TableDefinition.columns ht
  rw [held, ← hcolumns, Database.read_newValues (hcolumns ▸ h.find?_column ha),
    a.definition_initial]

/-- What an updated row holds: what the statement gives, and elsewhere what it held before. -/
theorem held_updated (h : m.Resolved schema) {t : Table} (ht : t.definition = m.tableDefinition)
    (ha : a ∈ m.attributes) (hrow : row.values.length = t.columns.length) (key : Int64)
    (parameters : Parameters) (slots : List Slot) :
    m.held ⟨key, Database.otherValues t parameters slots row⟩ a =
      (Database.given? parameters slots a.definition).getD (m.held row a) := by
  have hcolumns : t.columns = m.tableDefinition.columns := congrArg TableDefinition.columns ht
  rw [held, held, ← hcolumns]
  exact Database.read_otherValues (hcolumns ▸ h.find?_column ha) hrow key

theorem identifier_not_mem (h : m.Resolved schema) : m.identifier ∉ m.valueAttributes := by
  intro hvalue
  have hid := h.identifier_mem.2
  rw [(mem_valueAttributes.mp hvalue).2] at hid
  cases hid

/-- The parameters of a save: each written attribute has the entity's value. -/
theorem value_attributeValues (h : m.Resolved schema) (entity : E) {withIdentifier : Bool}
    (ha : a ∈ m.writtenAttributes withIdentifier) :
    Parameters.value (m.attributeValues entity withIdentifier) a.name = (a.read entity).bound := by
  refine Parameters.value_of_mem ?_ (List.mem_map.mpr ⟨a, ha, rfl⟩)
  have hnames : ((m.writtenAttributes withIdentifier).map (·.name)).Nodup :=
    (List.filter_sublist.map _).nodup h.names
  rwa [attributeValues, List.map_map]

/-- What a save gives to the column of an attribute that it writes. -/
theorem given_written (h : m.Resolved schema) (entity : E) {withIdentifier : Bool}
    {written : List (MappedAttribute E)} (hsub : written ⊆ m.attributes) (ha : a ∈ written)
    (hw : a ∈ m.writtenAttributes withIdentifier) :
    Database.given? (m.attributeValues entity withIdentifier) (written.map MappedAttribute.slot)
        a.definition = some (a.definition.affinity.store (a.read entity).bound) := by
  rw [h.given_mem _ hsub ha, h.value_attributeValues entity hw]

/-- A row has the identifier of an entity if it holds it in the column of the identifier. -/
theorem meetsAll_slot (h : m.Resolved schema) (columns : List Column) (entity : E) (row : Row) :
    Table.meetsAll columns [m.identifier.slot] (m.attributeValues entity true) row =
      Table.holds columns row m.identifier.column (m.identifierValue entity).bound := by
  have hw : m.identifier ∈ m.writtenAttributes true := by
    simp [writtenAttributes, h.identifier_mem.1]
  have hvalue : Parameters.value (m.attributeValues entity true) m.identifier.slot.parameter =
      (m.identifierValue entity).bound := h.value_attributeValues entity hw
  simp only [Table.meetsAll, List.all_cons, List.all_nil, Bool.and_true, Table.meets, hvalue]
  rfl

/-- Rows that hold the same for each attribute have the same values. -/
theorem values_ext (h : m.Resolved schema) {other : Row}
    (hrow : row.values.length = m.tableDefinition.columns.length)
    (hother : other.values.length = m.tableDefinition.columns.length)
    (hheld : ∀ a ∈ m.attributes, m.held row a = m.held other a) : row.values = other.values := by
  refine List.ext_getElem (hrow.trans hother.symm) fun i hi hi' => ?_
  have hlt : i < m.attributes.length := by simpa [tableDefinition, hrow] using hi
  have ha := List.getElem?_eq_getElem hlt
  have heq := hheld _ (List.getElem_mem hlt)
  rwa [h.held_eq ha, h.held_eq ha, List.getElem?_eq_getElem hi, List.getElem?_eq_getElem hi',
    Option.getD_some, Option.getD_some] at heq

/-! ## 3. Checks -/

/-- Nothing required is missing from a row. -/
theorem missing?_eq_none (h : m.Resolved schema)
    (hrow : row.values.length = m.tableDefinition.columns.length) :
    Table.missing? m.tableDefinition.columns row.values = none ↔
      ∀ a ∈ m.attributes, a.definition.notNull = true → a.definition.isRowKey = false →
        m.held row a ≠ .null := by
  rw [Table.missing?, Option.map_eq_none_iff, List.find?_eq_none]
  constructor
  · intro hall a ha hnotNull hkey hnull
    obtain ⟨i, hi⟩ := List.mem_iff_getElem?.mp ha
    have hcolumn : m.tableDefinition.columns[i]? = some a.definition := by
      rw [getElem?_columns, hi, Option.map_some]
    have hlt : i < row.values.length := hrow ▸ (List.getElem?_eq_some_iff.mp hcolumn).1
    have hpair : (m.tableDefinition.columns.zip row.values)[i]? =
        some (a.definition, row.values[i]) :=
      List.getElem?_zip_eq_some.mpr ⟨hcolumn, List.getElem?_eq_getElem hlt⟩
    rw [h.held_eq hi, List.getElem?_eq_getElem hlt, Option.getD_some] at hnull
    have := hall _ (List.mem_of_getElem? hpair)
    simp [hnotNull, hkey, hnull] at this
  · intro hall (c, v) hmem
    obtain ⟨i, hpair⟩ := List.mem_iff_getElem?.mp hmem
    obtain ⟨hc, hv⟩ := List.getElem?_zip_eq_some.mp hpair
    rw [getElem?_columns] at hc
    obtain ⟨a, ha, rfl⟩ := Option.map_eq_some_iff.mp hc
    have hheld := hall a (List.mem_of_getElem? ha)
    rw [h.held_eq ha, hv, Option.getD_some] at hheld
    simpa using hheld

/-- Nothing distinct is repeated by a row. -/
theorem repeated?_eq_none (h : m.Resolved schema) {t : Table}
    (ht : t.definition = m.tableDefinition) :
    t.repeated? row = none ↔
      ∀ a ∈ m.attributes, a.definition.isDistinct = true → ∀ other ∈ t.rows,
        other.key ≠ row.key → (m.held other a).equals (m.held row a) = false := by
  have hcolumns : t.columns = m.tableDefinition.columns := congrArg TableDefinition.columns ht
  rw [Table.repeated?, Option.map_eq_none_iff, List.find?_eq_none, hcolumns]
  constructor
  · intro hall a ha hdistinct other hother hkey
    obtain ⟨i, hi⟩ := List.mem_iff_getElem?.mp ha
    have hmem : (a.definition, i) ∈ m.tableDefinition.columns.zipIdx.reverse := by
      rw [List.mem_reverse, List.mem_zipIdx_iff_getElem?, getElem?_columns, hi, Option.map_some]
    have hocc := hall _ hmem
    rw [h.held_eq hi, h.held_eq hi]
    simp only [hdistinct, Bool.true_and, Bool.not_eq_true, Table.occurs, List.any_eq_false] at hocc
    simpa [hkey] using hocc other hother
  · intro hall (c, i) hmem
    rw [List.mem_reverse, List.mem_zipIdx_iff_getElem?, getElem?_columns] at hmem
    obtain ⟨a, ha, rfl⟩ := Option.map_eq_some_iff.mp hmem
    simp only [Bool.and_eq_true, not_and, Bool.not_eq_true, Table.occurs, List.any_eq_false]
    intro hdistinct other hother hkey
    have hequal := hall a (List.mem_of_getElem? ha) hdistinct other hother (by simpa using hkey)
    rwa [h.held_eq ha, h.held_eq ha] at hequal

/-! ## 4. Keys -/

theorem isRowKey_identifier (h : m.Resolved schema) :
    m.identifier.definition.isRowKey = decide (m.identifier.kind = .integer) := by
  rw [MappedAttribute.definition_isRowKey, h.identifier_mem.2, Bool.true_and]

/-- An integer identifier is the key of its row. -/
theorem held_key (h : m.Resolved schema) (hkind : m.identifier.kind = .integer)
    (hrow : row.Fits m.tableDefinition.columns) :
    m.held row m.identifier = .integer row.key := by
  obtain ⟨i, hi⟩ := List.mem_iff_getElem?.mp h.identifier_mem.1
  have hcolumn : m.tableDefinition.columns[i]? = some m.identifier.definition := by
    rw [getElem?_columns, hi, Option.map_some]
  have hshown := hrow.shown i _ hcolumn (by rw [h.isRowKey_identifier, decide_eq_true hkind])
  rw [h.held_eq hi, hshown, Option.getD_some]

/-- A row is under an integer if that is its key. -/
theorem holds_key (h : m.Resolved schema) (hkind : m.identifier.kind = .integer)
    (hrow : row.Fits m.tableDefinition.columns) (key : Int64) :
    Table.holds m.tableDefinition.columns row m.identifier.column (.integer key) =
      (row.key == key) := by
  have hkey : m.identifier.definition.isRowKey = true := by
    rw [h.isRowKey_identifier, decide_eq_true hkind]
  have hstored : m.identifier.definition.affinity.store (.integer key) = .integer key := by
    simp [Column.affinity, MappedAttribute.definition, h.identifier_mem.2, hkind, Affinity.ofType,
      Affinity.store, Affinity.toNumber, Affinity.toInteger]
  rw [h.holds h.identifier_mem.1, Column.matches?, if_pos hkey, h.held_key hkind hrow, hstored,
    Bool.eq_iff_iff]
  simp

section Table

variable {t : Table}

/-- The column that shows keys is that of the identifier, if it is declared an integer. -/
theorem findIdx?_isRowKey (h : m.Resolved schema) (ht : t.definition = m.tableDefinition) {i : Nat}
    (hi : m.attributes[i]? = some m.identifier) :
    t.columns.findIdx? (·.isRowKey) =
      if m.identifier.kind = .integer then some i else none := by
  have hcolumns : t.columns = m.tableDefinition.columns := congrArg TableDefinition.columns ht
  have hcolumn : t.columns[i]? = some m.identifier.definition := by
    rw [hcolumns, getElem?_columns, hi, Option.map_some]
  have hkeys : ∀ (j : Nat) c, t.columns[j]? = some c → c.isRowKey = true →
      c = m.identifier.definition ∧ m.identifier.kind = .integer := by
    intro j c hc hkey
    rw [hcolumns, getElem?_columns] at hc
    obtain ⟨b, hb, rfl⟩ := Option.map_eq_some_iff.mp hc
    rw [MappedAttribute.definition_isRowKey, Bool.and_eq_true, decide_eq_true_eq] at hkey
    obtain rfl := h.eq_identifier (List.mem_of_getElem? hb) hkey.1
    exact ⟨rfl, hkey.2⟩
  cases hfound : t.columns.findIdx? (·.isRowKey) with
  | none =>
    have hnone := List.findIdx?_eq_none_iff.mp hfound _ (List.mem_of_getElem? hcolumn)
    rw [h.isRowKey_identifier, decide_eq_false_iff_not] at hnone
    rw [if_neg hnone]
  | some j =>
    obtain ⟨hj, hkey, -⟩ := List.findIdx?_eq_some_iff_getElem.mp hfound
    have hjcolumn := List.getElem?_eq_getElem hj
    obtain ⟨-, hkind⟩ := hkeys j _ hjcolumn hkey
    have hij := h.oneKey j i _ _ (hcolumns ▸ hjcolumn) (hcolumns ▸ hcolumn) hkey
      (by rw [h.isRowKey_identifier, decide_eq_true hkind])
    rw [if_pos hkind, hij]

/-- The key that given values stand for is the identifier among them, if that is a key. -/
theorem givenKey (h : m.Resolved schema) (ht : t.definition = m.tableDefinition) (key : Int64)
    (values : List Value) :
    Database.givenKey t values =
      if m.identifier.kind = .integer then Database.keyOf (m.held ⟨key, values⟩ m.identifier)
      else .ok none := by
  obtain ⟨i, hi⟩ := List.mem_iff_getElem?.mp h.identifier_mem.1
  rw [Database.givenKey, h.findIdx?_isRowKey ht hi, h.held_eq hi]
  by_cases hkind : m.identifier.kind = .integer
  · simp only [if_pos hkind]
  · simp only [if_neg hkind]

/-- The key that a new row stands for is what the identifier's column is given, if that is a key. -/
theorem givenKey_newValues (h : m.Resolved schema) (ht : t.definition = m.tableDefinition)
    (parameters : Parameters) (slots : List Slot) :
    Database.givenKey t (Database.newValues t parameters slots) =
      if m.identifier.kind = .integer then
        Database.keyOf ((Database.given? parameters slots m.identifier.definition).getD .null)
      else .ok none := by
  obtain ⟨i, hi⟩ := List.mem_iff_getElem?.mp h.identifier_mem.1
  have hcolumn : t.columns[i]? = some m.identifier.definition := by
    rw [Table.columns, ht, getElem?_columns, hi, Option.map_some]
  rw [h.givenKey ht 0, h.held_eq hi, Database.newValues, List.getElem?_map, hcolumn,
    Option.map_some, Option.getD_some, MappedAttribute.definition_initial]

/-- An update of values leaves the identifier alone. -/
theorem held_otherValues (h : m.Resolved schema) (ht : t.definition = m.tableDefinition)
    {row : Row} (hrow : row.Fits t.columns) (key : Int64) (parameters : Parameters) :
    m.held ⟨key, Database.otherValues t parameters (m.valueAttributes.map MappedAttribute.slot)
      row⟩ m.identifier = m.held row m.identifier := by
  rw [h.held_updated ht h.identifier_mem.1 hrow.length,
    h.given_not_mem _ valueAttributes_subset h.identifier_mem.1 h.identifier_not_mem,
    Option.getD_none]

/-- So the row keeps its key. -/
theorem shownKey_otherValues (h : m.Resolved schema) (ht : t.definition = m.tableDefinition)
    {row : Row} (hrow : row.Fits t.columns) (parameters : Parameters) :
    Database.shownKey t row (Database.otherValues t parameters
      (m.valueAttributes.map MappedAttribute.slot) row) = .ok row.key := by
  rw [Database.shownKey, h.givenKey ht row.key, h.held_otherValues ht hrow]
  by_cases hkind : m.identifier.kind = .integer
  · rw [if_pos hkind, h.held_key hkind (by rwa [Table.columns, ht] at hrow)]
    rfl
  · obtain ⟨i, hi⟩ := List.mem_iff_getElem?.mp h.identifier_mem.1
    have hnone := h.findIdx?_isRowKey ht hi
    rw [if_neg hkind, List.findIdx?_eq_none_iff] at hnone
    have hfind : t.columns.find? (·.isRowKey) = none :=
      List.find?_eq_none.mpr fun c hc => by simp [hnone c hc]
    simp [hkind, hfind]

/-- Keys are used again unless identifiers are integers that are generated. -/
theorem isAutoincrement (h : m.Resolved schema) (ht : t.definition = m.tableDefinition) :
    t.isAutoincrement = (m.identifier.generated && decide (m.identifier.kind = .integer)) := by
  obtain ⟨hmem, hid⟩ := h.identifier_mem
  rw [Table.isAutoincrement, Table.columns, ht, Bool.eq_iff_iff, List.any_eq_true]
  constructor
  · rintro ⟨c, hc, hgenerated⟩
    obtain ⟨b, hb, rfl⟩ := List.mem_map.mp hc
    cases hbid : b.identifier with
    | false => simp [MappedAttribute.definition, hbid] at hgenerated
    | true =>
      rw [← h.eq_identifier hb hbid]
      simpa [MappedAttribute.definition, hbid] using hgenerated
  · intro hgenerated
    refine ⟨_, List.mem_map_of_mem hmem, ?_⟩
    simpa [MappedAttribute.definition, hid] using hgenerated

end Table

end Resolved

/-- The statement that replaces the values of an entity. -/
theorem replacement?_eq_some {change : Change} (h : m.replacement? = some change) :
    change = .update ⟨m.table, [m.identifier.slot]⟩
      (m.valueAttributes.map MappedAttribute.slot) := by
  unfold replacement? at h
  split at h
  · cases h
  · exact (Option.some.inj h).symm

/-- There is no such statement if there are no values. -/
theorem replacement?_eq_none : m.replacement? = none ↔ m.valueAttributes = [] := by
  simp [replacement?]

end Metadata

end EntityStore

import EntityStore.Proofs.Repository.EntityMap
import EntityStore.Proofs.Store.Isolation
import EntityStore.Proofs.Store.Keys
/-!
# Tables that represent maps

A table represents a map if its rows are the entries of the map, one row for each
(`Metadata.Represents`).  This module follows the three changes of a table that a repository makes:
adding a row, replacing the values of a row, and taking rows out.  Each takes a table that
represents a map to one that represents the changed map.

Two rows are never under the same identifier.  If identifiers are integers they are the keys of the
rows; otherwise the store keeps them distinct like a unique column.
-/

namespace EntityStore

variable {E : Type}

/-! ## 1. Values that are kept -/

/-- What matches a value is not `null` and equals whatever else matches it. -/
theorem Column.equals_of_matches {c : Column} {x y v : Value} (hx : c.matches? x v = true)
    (hy : c.matches? y v = true) (hnull : x ≠ .null) : x.equals y = true := by
  unfold Column.matches? at hx hy
  split at hx
  · rename_i hkey
    rw [if_pos hkey] at hy
    rw [eq_of_beq hx, ← eq_of_beq hy] at hnull ⊢
    exact Value.equals_self hnull
  · rename_i hkey
    rw [if_neg hkey] at hy
    exact Value.equals_trans hx (Value.equals_symm hy)

/-- A value that a column stores unchanged is compared unchanged, too. -/
theorem Affinity.compare_of_store {affinity : Affinity} {v : Value}
    (h : affinity.store v = v) : affinity.compare v = v := by
  have hnumber : ∀ s, Affinity.toNumber (.text s) = .text s ∨
      ∃ n, Affinity.toNumber (.text s) = .ofNumber n := by
    intro s
    cases hread : Numeral.read? s with
    | none => exact .inl (by simp [Affinity.toNumber, hread])
    | some n => exact .inr ⟨n, by simp [Affinity.toNumber, hread]⟩
  cases affinity with
  | text => exact h
  | none => rfl
  | integer =>
    cases v with
    | text s =>
      rcases hnumber s with hs | ⟨n, hs⟩
      · exact hs
      · simp only [Affinity.store, hs] at h
        cases n <;> simp [Value.ofNumber, Affinity.toInteger] at h
        rename_i x
        cases hx : Number.simplify x <;> simp [hx] at h
    | null => rfl
    | integer n => rfl
    | real x => rfl
    | blob bytes => rfl
  | real =>
    cases v with
    | text s =>
      rcases hnumber s with hs | ⟨n, hs⟩
      · exact hs
      · simp only [Affinity.store, hs] at h
        cases n <;> simp [Value.ofNumber, Affinity.toReal] at h
    | null => rfl
    | integer n => rfl
    | real x => rfl
    | blob bytes => rfl

namespace MappedAttribute

/-- A value that the store keeps unchanged in the column of an attribute. -/
structure Keeps (a : MappedAttribute E) (v : Value) : Prop where
  bound : v.bound = v
  stored : a.definition.affinity.store v = v

theorem Keeps.matches {a : MappedAttribute E} {v : Value} (h : a.Keeps v) (held : Value) :
    a.definition.matches? held v = if a.definition.isRowKey then held == v else held.equals v := by
  simp only [Column.matches?, Affinity.matches?, h.stored, Affinity.compare_of_store h.stored]

end MappedAttribute

namespace Metadata

/-- Entities are read off rows faithfully: a row that holds values of a kind which entities carry
is read as an entity with those values, each from its own column.  The store keeps such values
unchanged, and where it chooses the identifiers entities carry every key. -/
structure Faithful (m : Metadata E) (t : EntityType E)
    (carries : MappedAttribute E → Value → Prop) : Prop where
  keeps : ∀ a ∈ m.attributes, ∀ v, carries a v → a.Keeps v
  keys : m.identifier.kind = .integer → ∀ key, carries m.identifier (.integer key)
  reads : ∀ value : MappedAttribute E → Value, (∀ a ∈ m.attributes, carries a (value a)) →
    ∃ entity, t.fromRow ⟨m.attributes.map fun a => (a.name, value a)⟩ = .ok entity ∧
      ∀ a ∈ m.attributes, a.read entity = value a

/-- An entity has values that entities carry; an absent identifier may be anything. -/
structure Storable (m : Metadata E) (carries : MappedAttribute E → Value → Prop)
    (entity : E) : Prop where
  values : ∀ a ∈ m.valueAttributes, carries a (a.read entity)
  identifier : m.isNew entity = false → carries m.identifier (m.identifierValue entity)

/-! ## 2. Rows and entries -/

/-- The entry that a row is. -/
def rowEntry (m : Metadata E) (row : Row) : Entry :=
  ⟨m.held row m.identifier, m.valueAttributes.map (m.held row)⟩

/-- A table represents a map. -/
structure Represents (m : Metadata E) (carries : MappedAttribute E → Value → Prop) (t : Table)
    (M : EntityMap) : Prop where
  definition : t.definition = m.tableDefinition
  sound : t.Sound
  entries : M.entries.Perm (t.rows.map m.rowEntry)
  carried : ∀ row ∈ t.rows, ∀ a ∈ m.attributes, carries a (m.held row a)
  identified : ∀ row ∈ t.rows, m.held row m.identifier ≠ .null
  distinct : ∀ row ∈ t.rows, ∀ other ∈ t.rows, row.key ≠ other.key →
    (m.held row m.identifier).equals (m.held other m.identifier) = false
  /-- Where identifiers are keys, all keys that were ever used were added. -/
  used : m.identifier.kind = .integer →
    (∀ row ∈ t.rows, .integer row.key ∈ M.added) ∧
      (t.lastKey = Table.maxKey → .integer Table.maxKey ∈ M.added)
  /-- Elsewhere the keys number the entries. -/
  numbered : m.identifier.kind ≠ .integer → ∀ row ∈ t.rows, row.key.toInt ≤ M.added.length

variable {schema : EntitySchema E} {m : Metadata E} {carries : MappedAttribute E → Value → Prop}
  {t : Table} {M : EntityMap} {row : Row}

namespace Represents

theorem columns (h : m.Represents carries t M) : t.columns = m.tableDefinition.columns :=
  congrArg TableDefinition.columns h.definition

theorem fits (h : m.Represents carries t M) (hrow : row ∈ t.rows) :
    row.Fits m.tableDefinition.columns :=
  h.columns ▸ h.sound.fits row hrow

/-- At most one row is under an identifier. -/
theorem eq_of_isAt (h : m.Represents carries t M) {other : Row} (hrow : row ∈ t.rows)
    (hother : other ∈ t.rows) {given : Value} (hat : m.isAt given (m.rowEntry row) = true)
    (hat' : m.isAt given (m.rowEntry other) = true) : row = other := by
  refine h.sound.eq_of_key hrow hother (Decidable.byContradiction fun hkey => ?_)
  have hequals := Column.equals_of_matches hat hat' (h.identified row hrow)
  have hdistinct := h.distinct row hrow other hother hkey
  rw [show (m.held row m.identifier).equals (m.held other m.identifier) = true from hequals]
    at hdistinct
  cases hdistinct

/-- What a table represents is a map. -/
theorem isMap (h : m.Represents carries t M) : m.IsMap M.entries := by
  have hrows : (t.rows.map m.rowEntry).Pairwise fun x y =>
      ∀ given, ¬ (m.isAt given x = true ∧ m.isAt given y = true) := by
    refine List.pairwise_map.mpr ?_
    refine h.sound.sorted.imp_of_mem fun {a b} ha hb hlt given ⟨hat, hat'⟩ => ?_
    rw [h.eq_of_isAt ha hb hat hat'] at hlt
    exact Int64.lt_irrefl hlt
  refine h.entries.symm.pairwise hrows fun {x y} hxy given ⟨hx, hy⟩ => hxy given ⟨hy, hx⟩

theorem mem_entries (h : m.Represents carries t M) {entry : Entry} :
    entry ∈ M.entries ↔ ∃ row ∈ t.rows, m.rowEntry row = entry := by
  rw [h.entries.mem_iff, List.mem_map]

/-- A row is found under its own identifier. -/
theorem isAt_own (h : m.Represents carries t M) (hm : m.Resolved schema)
    {type : EntityType E} (hf : m.Faithful type carries) (hrow : row ∈ t.rows) :
    m.isAt (m.held row m.identifier) (m.rowEntry row) = true := by
  have hkeeps := hf.keeps _ hm.identifier_mem.1 _ (h.carried row hrow _ hm.identifier_mem.1)
  rw [isAt, hkeeps.bound, hkeeps.matches]
  split
  · exact beq_self_eq_true _
  · exact Value.equals_self (h.identified row hrow)

/-- Where identifiers are integers, a row is found under its key. -/
theorem isAt_key (h : m.Represents carries t M) (hm : m.Resolved schema)
    {type : EntityType E} (hf : m.Faithful type carries) (hkind : m.identifier.kind = .integer)
    (hrow : row ∈ t.rows) (key : Int64) :
    m.isAt (.integer key) (m.rowEntry row) = true ↔ row.key = key := by
  have hkeeps := hf.keeps _ hm.identifier_mem.1 _ (hf.keys hkind key)
  rw [isAt, hkeeps.bound, hkeeps.matches, hm.isRowKey_identifier, decide_eq_true hkind, if_pos rfl,
    show (m.rowEntry row).identifier = .integer row.key from hm.held_key hkind (h.fits hrow),
    beq_iff_eq, Value.integer.injEq]

/-! ## 3. Changes of a table -/

/-- A row that is under no identifier in the table is a further entry. -/
theorem add (h : m.Represents carries t M) (hm : m.Resolved schema)
    (hfits : row.Fits m.tableDefinition.columns) (hnew : t.row? row.key = none)
    (hcarried : ∀ a ∈ m.attributes, carries a (m.held row a))
    (hidentified : m.held row m.identifier ≠ .null)
    (hdistinct : ∀ other ∈ t.rows,
      (m.held other m.identifier).equals (m.held row m.identifier) = false)
    (hnumbered : m.identifier.kind ≠ .integer → row.key.toInt ≤ M.added.length + 1) :
    m.Represents carries (t.add row)
      ⟨m.rowEntry row :: M.entries, m.held row m.identifier :: M.added⟩ := by
  have hmem : ∀ x, x ∈ (t.add row).rows → x = row ∨ x ∈ t.rows := fun _ => Table.mem_add.mp
  refine ⟨h.definition, h.sound.add (h.columns ▸ hfits) hnew, ?_, ?_, ?_, ?_, ?_, ?_⟩
  · exact (h.entries.cons _).trans ((Table.place_perm row t.rows).map m.rowEntry).symm
  · intro x hx
    rcases hmem x hx with rfl | hx
    · exact hcarried
    · exact h.carried x hx
  · intro x hx
    rcases hmem x hx with rfl | hx
    · exact hidentified
    · exact h.identified x hx
  · intro x hx y hy hkey
    rcases hmem x hx with rfl | hx' <;> rcases hmem y hy with rfl | hy'
    · exact absurd rfl hkey
    · exact Value.equals_comm _ _ ▸ hdistinct y hy'
    · exact hdistinct x hx'
    · exact h.distinct x hx' y hy' hkey
  · intro hkind
    obtain ⟨hused, hlast⟩ := h.used hkind
    refine ⟨fun x hx => ?_, fun hmax => ?_⟩
    · rcases hmem x hx with rfl | hx
      · rw [hm.held_key hkind hfits]
        exact List.mem_cons_self
      · exact List.mem_cons_of_mem _ (hused x hx)
    · have hcases : t.lastKey = Table.maxKey ∨ row.key = Table.maxKey := by
        have hmax : max t.lastKey row.key = Table.maxKey := hmax
        rw [show max t.lastKey row.key = if t.lastKey ≤ row.key then row.key else t.lastKey from
          rfl] at hmax
        split at hmax
        · exact .inr hmax
        · exact .inl hmax
      rcases hcases with hmax | hmax
      · exact List.mem_cons_of_mem _ (hlast hmax)
      · rw [hm.held_key hkind hfits, hmax]
        exact List.mem_cons_self
  · intro hkind x hx
    rw [List.length_cons]
    rcases hmem x hx with rfl | hx
    · exact_mod_cast hnumbered hkind
    · have := h.numbered hkind x hx
      omega

/-- A row with other values, under the same identifier. -/
theorem replace (h : m.Represents carries t M) {values : List Value} (hrow : row ∈ t.rows)
    (hfits : (Row.mk row.key values).Fits m.tableDefinition.columns)
    (hcarried : ∀ a ∈ m.attributes, carries a (m.held ⟨row.key, values⟩ a))
    (hsame : m.held ⟨row.key, values⟩ m.identifier = m.held row m.identifier)
    {f : Entry → Entry} (hf : ∀ x ∈ t.rows, f (m.rowEntry x) =
      if x.key == row.key then m.rowEntry ⟨row.key, values⟩ else m.rowEntry x) :
    m.Represents carries (t.replace row.key values) { M with entries := M.entries.map f } := by
  have hmem : ∀ x ∈ (t.replace row.key values).rows, ∃ y ∈ t.rows, x.key = y.key ∧
      m.held x m.identifier = m.held y m.identifier ∧
      ∀ a ∈ m.attributes, carries a (m.held x a) := by
    intro x hx
    obtain ⟨y, hy, rfl⟩ := List.mem_map.mp hx
    cases hkey : y.key == row.key with
    | true => exact ⟨row, hrow, rfl, hsame, hcarried⟩
    | false => exact ⟨y, hy, rfl, rfl, h.carried y hy⟩
  refine ⟨h.definition, h.sound.replace (h.columns ▸ hfits), ?_, ?_, ?_, ?_, ?_, ?_⟩
  · refine (h.entries.map f).trans (List.Perm.of_eq ?_)
    simp only [Table.replace, List.map_map]
    refine List.map_congr_left fun x hx => ?_
    rw [Function.comp_apply, hf x hx, Function.comp_apply]
    split <;> rfl
  · intro x hx
    obtain ⟨y, -, -, -, hcarried⟩ := hmem x hx
    exact hcarried
  · intro x hx
    obtain ⟨y, hy, -, hheld, -⟩ := hmem x hx
    rw [hheld]
    exact h.identified y hy
  · intro x hx z hz hkey
    obtain ⟨y, hy, hxkey, hxheld, -⟩ := hmem x hx
    obtain ⟨w, hw, hzkey, hzheld, -⟩ := hmem z hz
    rw [hxheld, hzheld]
    exact h.distinct y hy w hw (hxkey ▸ hzkey ▸ hkey)
  · intro hkind
    refine ⟨fun x hx => ?_, (h.used hkind).2⟩
    obtain ⟨y, hy, hkey, -⟩ := hmem x hx
    rw [hkey]
    exact (h.used hkind).1 y hy
  · intro hkind x hx
    obtain ⟨y, hy, hkey, -⟩ := hmem x hx
    rw [hkey]
    exact h.numbered hkind y hy

/-- Rows that are taken out are entries that are taken out. -/
theorem without (h : m.Represents carries t M) {p : Row → Bool} {q : Entry → Bool}
    (hpq : ∀ row ∈ t.rows, p row = q (m.rowEntry row)) :
    m.Represents carries (t.without p)
      { M with entries := M.entries.filter fun entry => !q entry } := by
  have hmem : ∀ x ∈ (t.without p).rows, x ∈ t.rows := fun x hx => (List.mem_filter.mp hx).1
  refine ⟨h.definition, h.sound.without p, ?_, fun x hx => h.carried x (hmem x hx),
    fun x hx => h.identified x (hmem x hx),
    fun x hx y hy => h.distinct x (hmem x hx) y (hmem y hy),
    fun hkind => ⟨fun x hx => (h.used hkind).1 x (hmem x hx), (h.used hkind).2⟩,
    fun hkind x hx => h.numbered hkind x (hmem x hx)⟩
  refine (h.entries.filter _).trans (List.Perm.of_eq ?_)
  rw [List.filter_map, Table.without]
  exact congrArg _ (List.filter_congr fun x hx => by rw [Function.comp_apply, hpq x hx])

/-! ## 4. The checks of a row -/

theorem mem_zip_map {α β : Type} {l : List α} {f : α → β} {a : α} {b : β} :
    (a, b) ∈ l.zip (l.map f) ↔ a ∈ l ∧ f a = b := by
  rw [List.mem_iff_getElem?]
  constructor
  · rintro ⟨i, hi⟩
    obtain ⟨ha, hb⟩ := List.getElem?_zip_eq_some.mp hi
    rw [List.getElem?_map, ha, Option.map_some] at hb
    exact ⟨List.mem_of_getElem? ha, Option.some.inj hb⟩
  · rintro ⟨ha, rfl⟩
    obtain ⟨i, hi⟩ := List.mem_iff_getElem?.mp ha
    exact ⟨i, List.getElem?_zip_eq_some.mpr ⟨hi, by rw [List.getElem?_map, hi, Option.map_some]⟩⟩

/-- The other entries are the other rows. -/
theorem mem_others (h : m.Represents carries t M) {entity : E} {entry : Entry} :
    entry ∈ m.others M.entries entity ↔ ∃ row ∈ t.rows,
      (m.isNew entity = true ∨ m.isAt (m.identifierValue entity) (m.rowEntry row) = false) ∧
        m.rowEntry row = entry := by
  unfold others
  split
  · rename_i hnew
    simp only [h.mem_entries, hnew, true_or, true_and]
  · rename_i hnew
    rw [List.mem_filter, h.mem_entries]
    constructor
    · rintro ⟨⟨row, hrow, rfl⟩, hat⟩
      exact ⟨row, hrow, .inr (by simpa using hat), rfl⟩
    · rintro ⟨row, hrow, hat | hat, rfl⟩
      · exact absurd hat hnew
      · exact ⟨⟨row, hrow, rfl⟩, by simp [hat]⟩

/-- Entities clash over what rows hold. -/
theorem clashes_iff (h : m.Represents carries t M) {entity : E} :
    m.Clashes (m.others M.entries entity) entity ↔
      (∃ a ∈ m.valueAttributes, a.nullable = false ∧ a.read entity = .null) ∨
        ∃ a ∈ m.valueAttributes, a.unique = true ∧ ∃ row ∈ t.rows,
          (m.isNew entity = true ∨ m.isAt (m.identifierValue entity) (m.rowEntry row) = false) ∧
            (m.held row a).equals (a.read entity) = true := by
  refine or_congr Iff.rfl
    (exists_congr fun a => and_congr_right fun ha => and_congr_right fun _ => ?_)
  constructor
  · rintro ⟨other, hother, value, hvalue, hequals⟩
    obtain ⟨row, hrow, hat, rfl⟩ := h.mem_others.mp hother
    obtain ⟨-, rfl⟩ := mem_zip_map.mp hvalue
    exact ⟨row, hrow, hat, hequals⟩
  · rintro ⟨row, hrow, hat, hequals⟩
    exact ⟨m.rowEntry row, h.mem_others.mpr ⟨row, hrow, hat, rfl⟩, _, mem_zip_map.mpr ⟨ha, rfl⟩,
      hequals⟩

/-- **A row with the values of an entity passes the checks unless the entity clashes.**  The
identifier of the row is in order, and the rows with other keys are the other entries. -/
theorem checks_iff (h : m.Represents carries t M) (hm : m.Resolved schema) {entity : E}
    (hfits : row.Fits m.tableDefinition.columns)
    (hvalues : ∀ a ∈ m.valueAttributes, m.held row a = a.read entity)
    (hidentified : m.held row m.identifier ≠ .null)
    (hdistinct : ∀ other ∈ t.rows, other.key ≠ row.key →
      (m.held other m.identifier).equals (m.held row m.identifier) = false)
    (hothers : ∀ other ∈ t.rows, other.key ≠ row.key ↔
      (m.isNew entity = true ∨ m.isAt (m.identifierValue entity) (m.rowEntry other) = false)) :
    (Table.missing? t.columns row.values = none ∧ t.repeated? row = none) ↔
      ¬ m.Clashes (m.others M.entries entity) entity := by
  rw [h.columns, hm.missing?_eq_none hfits.length, hm.repeated?_eq_none h.definition,
    h.clashes_iff, not_or]
  have hcases : ∀ a ∈ m.attributes, a = m.identifier ∨ a ∈ m.valueAttributes := fun a ha => by
    cases hid : a.identifier with
    | true => exact .inl (hm.eq_identifier ha hid)
    | false => exact .inr (mem_valueAttributes.mpr ⟨ha, hid⟩)
  refine and_congr ⟨?_, ?_⟩ ⟨?_, ?_⟩
  · rintro hall ⟨a, ha, hnullable, hnull⟩
    have hnotNull : a.definition.notNull = true := by
      rw [MappedAttribute.notNull_of_value (mem_valueAttributes.mp ha).2, hnullable, Bool.not_false]
    exact hall a (mem_valueAttributes.mp ha).1 hnotNull (isRowKey_valueAttribute ha)
      ((hvalues a ha).trans hnull)
  · intro hall a ha hnotNull hkey hnull
    rcases hcases a ha with rfl | hvalue
    · exact hidentified hnull
    · refine hall ⟨a, hvalue, ?_, (hvalues a hvalue).symm.trans hnull⟩
      simpa [MappedAttribute.notNull_of_value (mem_valueAttributes.mp hvalue).2] using hnotNull
  · rintro hall ⟨a, ha, hunique, other, hother, hat, hequals⟩
    have hdistinct : a.definition.isDistinct = true :=
      (MappedAttribute.isDistinct_of_value (mem_valueAttributes.mp ha).2).trans hunique
    have hfalse := hall a (mem_valueAttributes.mp ha).1 hdistinct other hother
      ((hothers other hother).mpr hat)
    rw [hvalues a ha, hequals] at hfalse
    cases hfalse
  · intro hall a ha hdis other hother hkey
    rcases hcases a ha with rfl | hvalue
    · exact hdistinct other hother hkey
    · rw [hvalues a hvalue]
      have hunique : a.unique = true :=
        (MappedAttribute.isDistinct_of_value (mem_valueAttributes.mp hvalue).2).symm.trans hdis
      exact Bool.eq_false_iff.mpr fun hequals => hall ⟨a, hvalue, hunique, other, hother,
        (hothers other hother).mp hkey, hequals⟩

end Represents

end Metadata

end EntityStore

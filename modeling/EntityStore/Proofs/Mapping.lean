import EntityStore.Mapping
import Mathlib
/-!
# What a resolved schema is

A schema that is accepted is mapped to columns that the store tells apart, and to parameters that
no statement confuses.  This module says so once, as the property `Metadata.Resolved` of what
`Metadata.check` returns, and derives from it how columns and parameters are found:

* a column is found under its own name only, although the store ignores the case of names
  (`Resolved.same_column`);
* the parameter of an attribute has the value that the entity has there (`value_of_mem`).
-/

namespace EntityStore

variable {E : Type}

/-! ## 1. Names -/

namespace Name

/-- A character after the upper-case letters is its own lower-case form. -/
theorem toLower_of_lt {c : Char} (h : 'Z'.val < c.val) : c.toLower = c :=
  dif_neg fun hupper => UInt32.not_le.mpr h hupper.2

/-- An upper-case letter and its lower-case form, as numbers. -/
theorem toNat_toLower {c : Char} (h : c.val ≥ 'A'.val ∧ c.val ≤ 'Z'.val) :
    65 ≤ c.val.toNat ∧ c.val.toNat ≤ 90 ∧ c.toLower.val.toNat = c.val.toNat + 32 := by
  have hA : 65 ≤ c.val.toNat := UInt32.le_iff_toNat_le.mp h.1
  have hZ : c.val.toNat ≤ 90 := UInt32.le_iff_toNat_le.mp h.2
  have hlower : c.toLower.val = c.val + ('a'.val - 'A'.val) := congrArg Char.val (dif_pos h)
  have hsum : c.toLower.val.toNat = (c.val.toNat + 32) % 2 ^ 32 := by
    rw [hlower, UInt32.toNat_add]
    rfl
  omega

theorem toLower_toLower (c : Char) : c.toLower.toLower = c.toLower := by
  by_cases hupper : c.val ≥ 'A'.val ∧ c.val ≤ 'Z'.val
  · obtain ⟨hA, -, hlower⟩ := toNat_toLower hupper
    refine toLower_of_lt (UInt32.lt_iff_toNat_lt.mpr ?_)
    have hZ : 'Z'.val.toNat = 90 := rfl
    omega
  · have hkept : c.toLower = c := dif_neg hupper
    rw [hkept, hkept]

/-- A storage name has no upper-case letters left. -/
theorem fold_storage (name : String) : fold (storage name) = (storage name).toList := by
  simp only [fold, storage, storageChars, String.toList_ofList, List.map_map]
  exact List.map_congr_left fun c _ => toLower_toLower c

/-- The store tells two storage names apart if they differ. -/
theorem same_storage {a b : String} :
    same (storage a) (storage b) = true ↔ storage a = storage b := by
  rw [same, fold_storage, fold_storage, beq_iff_eq, String.toList_inj]

end Name

/-! ## 2. Resolution -/

namespace Metadata

/-- Names that pass the check are different from each other and from those met before, and so are
their columns. -/
theorem checkNames_ok {names columns : List String} {attributes : List Attribute}
    (h : checkNames names columns attributes = .ok ()) :
    (attributes.map (·.name)).Nodup ∧ (∀ a ∈ attributes, a.name ∉ names) ∧
      (attributes.map fun a => Name.storage a.name).Nodup ∧
      ∀ a ∈ attributes, Name.storage a.name ∉ columns := by
  induction attributes generalizing names columns with
  | nil => simp
  | cons a rest ih =>
    simp only [checkNames] at h
    split at h
    · cases h
    split at h
    · cases h
    rename_i hname
    split at h
    · cases h
    rename_i hcolumn
    obtain ⟨hnames, hseen, hcolumns, hmet⟩ := ih h
    refine ⟨?_, ?_, ?_, ?_⟩
    · refine List.nodup_cons.mpr ⟨fun hmem => ?_, hnames⟩
      obtain ⟨b, hb, hba⟩ := List.mem_map.mp hmem
      exact hseen b hb (hba ▸ List.mem_cons_self)
    · intro b hb
      rcases List.mem_cons.mp hb with rfl | hb
      · simpa using hname
      · exact fun hmem => hseen b hb (List.mem_cons_of_mem _ hmem)
    · refine List.nodup_cons.mpr ⟨fun hmem => ?_, hcolumns⟩
      obtain ⟨b, hb, hba⟩ := List.mem_map.mp hmem
      exact hmet b hb (hba ▸ List.mem_cons_self)
    · intro b hb
      rcases List.mem_cons.mp hb with rfl | hb
      · simpa using hcolumn
      · exact fun hmem => hmet b hb (List.mem_cons_of_mem _ hmem)

theorem mapAttribute_ok {schema : EntitySchema E} {a : Attribute} {mapped : MappedAttribute E}
    (h : mapAttribute schema a = .ok mapped) :
    mapped.toAttribute = a ∧ mapped.column = Name.storage a.name ∧
      schema.accessor? a.name = some mapped.read := by
  unfold mapAttribute at h
  split at h
  · rename_i read hread
    cases h
    exact ⟨rfl, rfl, hread⟩
  · split at h <;> cases h

theorem mapAttributes_ok {schema : EntitySchema E} {attributes : List Attribute}
    {mapped : List (MappedAttribute E)} (h : mapAttributes schema attributes = .ok mapped) :
    mapped.map (·.toAttribute) = attributes ∧
      ∀ a ∈ mapped, a.column = Name.storage a.name ∧ schema.accessor? a.name = some a.read := by
  induction attributes generalizing mapped with
  | nil =>
    cases h
    simp
  | cons a rest ih =>
    simp only [mapAttributes] at h
    split at h
    · cases h
    rename_i first hfirst
    split at h
    · cases h
    rename_i others hothers
    cases h
    obtain ⟨rfl, hcolumn, hread⟩ := mapAttribute_ok hfirst
    obtain ⟨hrest, hall⟩ := ih hothers
    refine ⟨by rw [List.map_cons, hrest], fun b hb => ?_⟩
    rcases List.mem_cons.mp hb with rfl | hb
    · exact ⟨hcolumn, hread⟩
    · exact hall b hb

/-- What is true of the metadata of an accepted schema. -/
structure Resolved (schema : EntitySchema E) (m : Metadata E) : Prop where
  entity : m.entity = schema.name
  table : m.table = Name.storage schema.name
  declared : m.attributes.map (·.toAttribute) = schema.attributes
  column : ∀ a ∈ m.attributes, a.column = Name.storage a.name
  accessor : ∀ a ∈ m.attributes, schema.accessor? a.name = some a.read
  names : (m.attributes.map (·.name)).Nodup
  columns : (m.attributes.map (·.column)).Nodup
  identifier : m.attributes.filter (·.identifier) = [m.identifier]
  assigner : m.assigner = schema.assigner

/-- **A schema that is accepted is resolved.** -/
theorem resolved_of_check {schema : EntitySchema E} {m : Metadata E}
    (h : check schema = .ok m) : m.Resolved schema := by
  unfold check at h
  split at h
  · cases h
  split at h
  · cases h
  rename_i hnames
  split at h
  · cases h
  rename_i hone
  split at h
  · cases h
  rename_i attributes hmap
  split at h
  · cases h
  rename_i identifier hfind
  cases h
  obtain ⟨hdistinct, -, hcolumns, -⟩ := checkNames_ok hnames
  obtain ⟨hdeclared, hall⟩ := mapAttributes_ok hmap
  rw [← hdeclared] at hdistinct hcolumns hone
  refine ⟨rfl, rfl, hdeclared, fun a ha => (hall a ha).1, fun a ha => (hall a ha).2,
    ?_, ?_, ?_, rfl⟩
  · rwa [List.map_map] at hdistinct
  · rw [List.map_map] at hcolumns
    rwa [List.map_congr_left fun a ha => (hall a ha).1]
  · unfold checkIdentifier at hone
    split at hone
    · cases hone
    · rename_i a ha
      rw [List.filter_map] at ha
      obtain ⟨mapped, hmapped, -⟩ := List.map_eq_singleton_iff.mp ha
      rw [← List.head?_filter, show attributes.filter (fun a => a.identifier) = [mapped] from
        hmapped] at hfind
      cases hfind
      exact hmapped
    · cases hone

theorem resolved_of_resolve {schema : EntitySchema E} {m : Metadata E}
    (h : resolve schema = .ok m) : m.Resolved schema := by
  unfold resolve at h
  cases hcheck : check schema with
  | error fault => rw [hcheck] at h; cases h
  | ok m' =>
    rw [hcheck] at h
    cases h
    exact resolved_of_check hcheck

namespace Resolved

variable {schema : EntitySchema E} {m : Metadata E} {a b : MappedAttribute E}

theorem identifier_mem (h : m.Resolved schema) :
    m.identifier ∈ m.attributes ∧ m.identifier.identifier = true := by
  have hmem : m.identifier ∈ m.attributes.filter (·.identifier) :=
    h.identifier ▸ List.mem_singleton_self _
  exact List.mem_filter.mp hmem

/-- No other attribute identifies the entity. -/
theorem eq_identifier (h : m.Resolved schema) (ha : a ∈ m.attributes)
    (hid : a.identifier = true) : a = m.identifier := by
  have hmem : a ∈ m.attributes.filter (·.identifier) := List.mem_filter.mpr ⟨ha, hid⟩
  rw [h.identifier] at hmem
  exact List.mem_singleton.mp hmem

/-- Two attributes have one column for the store only if they are the same. -/
theorem same_column (h : m.Resolved schema) (ha : a ∈ m.attributes) (hb : b ∈ m.attributes) :
    Name.same a.column b.column = true ↔ a = b := by
  rw [h.column a ha, h.column b hb, Name.same_storage, ← h.column a ha, ← h.column b hb]
  exact ⟨List.inj_on_of_nodup_map h.columns ha hb, congrArg _⟩

/-- **A schema is resolved in one way**: any two metadata of it are the same. -/
theorem unique {m' : Metadata E} (h : m.Resolved schema) (h' : m'.Resolved schema) : m = m' := by
  have hattributes : m.attributes = m'.attributes := by
    have hlength : m.attributes.length = m'.attributes.length := by
      have hdeclared := congrArg List.length (h.declared.trans h'.declared.symm)
      simpa using hdeclared
    refine List.ext_getElem hlength ?_
    intro i hi hi'
    have hdeclared : m.attributes[i].toAttribute = m'.attributes[i].toAttribute := by
      have hmap := h.declared.trans h'.declared.symm
      have hget := congrArg (·[i]?) hmap
      simpa [hi, hi'] using hget
    have hcolumn : m.attributes[i].column = m'.attributes[i].column := by
      rw [h.column _ (List.getElem_mem hi), h'.column _ (List.getElem_mem hi'), hdeclared]
    have hread : m.attributes[i].read = m'.attributes[i].read := by
      have haccessor := h.accessor _ (List.getElem_mem hi)
      rw [hdeclared, h'.accessor _ (List.getElem_mem hi')] at haccessor
      exact (Option.some.inj haccessor).symm
    generalize m.attributes[i] = a at hdeclared hcolumn hread
    generalize m'.attributes[i] = b at hdeclared hcolumn hread
    obtain ⟨declared, column, read⟩ := a
    obtain ⟨declared', column', read'⟩ := b
    simp only at hdeclared hcolumn hread
    rw [hdeclared, hcolumn, hread]
  have hidentifier : m.identifier = m'.identifier := by
    have hsame := h.identifier
    rw [hattributes, h'.identifier] at hsame
    exact (List.cons.inj hsame).1.symm
  obtain ⟨entity, table, attributes, identifier, assigner⟩ := m
  obtain ⟨entity', table', attributes', identifier', assigner'⟩ := m'
  have hentity : entity = entity' := h.entity.trans h'.entity.symm
  have htable : table = table' := h.table.trans h'.table.symm
  have hassigner : assigner = assigner' := h.assigner.trans h'.assigner.symm
  simp only at hattributes hidentifier
  rw [hentity, htable, hattributes, hidentifier, hassigner]

/-- An attribute that is known under a name has the name's storage name as its column. -/
theorem column_of_attribute? (h : m.Resolved schema) {name : String}
    (ha : m.attribute? name = some a) : a.name = name ∧ a.column = Name.storage name := by
  have hname : a.name = name :=
    eq_of_beq (List.find?_some (p := fun b : MappedAttribute E => b.name == name) ha)
  exact ⟨hname, hname ▸ h.column a (List.mem_of_find?_eq_some ha)⟩

end Resolved

end Metadata

/-! ## 3. Parameters -/

/-- Among parameters of different names each has its own value. -/
theorem Parameters.value_of_mem {parameters : Parameters} {name : String} {value : Value}
    (hnames : (parameters.map (·.1)).Nodup) (h : (name, value) ∈ parameters) :
    parameters.value name = value.bound := by
  have hlookup : parameters.lookup name = some value := by
    induction parameters with
    | nil => cases h
    | cons entry rest ih =>
      obtain ⟨hnew, hrest⟩ := List.nodup_cons.mp hnames
      rcases List.mem_cons.mp h with rfl | h
      · exact List.lookup_cons_self
      · have hne : name ≠ entry.1 := by
          rintro rfl
          exact hnew (List.mem_map.mpr ⟨_, h, rfl⟩)
        rw [List.lookup_cons, beq_false_of_ne hne]
        exact ih hrest h
  simp [Parameters.value, hlookup]

end EntityStore

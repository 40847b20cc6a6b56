import EntityStore.Proofs.Repository.Columns
import EntityStore.Proofs.Repository.Transaction
import EntityStore.Proofs.Statement.Legible
/-!
# Statements and their parameters

The text of a statement and the parameters that go with it are made apart: an insertion asks for the
attributes that it writes, a replacement for the values and then for the identifier, a query for its
conditions, and the parameters are taken from the entity or from the arguments.  A parameter that a
text asks for and does not get would be `null` without a word.

This does not happen.  For the statements of an accepted schema, the parameters that the text asks
for (`placeholders`) are those that are given, each once:

* an insertion gives every column that it writes the value of that column's attribute
  (`Metadata.InsertionFits`);
* a replacement does so for every attribute but the identifier, which it looks for
  (`Metadata.ReplacementFits`);
* a query asks for its arguments, in order (`Query.Descriptor.Fits`).

What the texts say is not taken from how they were made; they are read (`Statement.read?`).
-/

namespace EntityStore

variable {E : Type}

/-! ## 1. What fits -/

/-- A slot carries an attribute of an entity: it pairs the column and the parameter of the
attribute, and the parameter has the value that the schema's accessor reads off the entity. -/
structure Slot.Carries (s : Slot) (a : MappedAttribute E) (schema : EntitySchema E)
    (parameters : Parameters) (entity : E) : Prop where
  column : s.column = a.column
  parameter : s.parameter = a.name
  value : ∃ read, schema.accessor? a.name = some read ∧
    parameters.value s.parameter = (read entity).bound

namespace Metadata

/-- An insertion and the parameters of an entity fit: the text asks for the parameters that are
given, in their order and each once, and fills the columns of the written attributes with their
values.  It names no columns exactly if no attribute is written. -/
structure InsertionFits (m : Metadata E) (schema : EntitySchema E) (entity : E)
    (withIdentifier : Bool) : Prop where
  placeholders : placeholders (m.insertion withIdentifier).text =
    (m.attributeValues entity withIdentifier).map (·.1)
  distinct : (EntityStore.placeholders (m.insertion withIdentifier).text).Nodup
  filled : ∃ slots,
    Statement.read? (m.insertion withIdentifier).text = some (.change (.insert m.table slots)) ∧
    List.Forall₂ (fun s a => s.Carries a schema (m.attributeValues entity withIdentifier) entity)
      slots (m.writtenAttributes withIdentifier)
  default : (m.insertion withIdentifier).text =
      "INSERT INTO " ++ quoted m.table ++ " DEFAULT VALUES;" ↔
    m.writtenAttributes withIdentifier = []

/-- A replacement and the parameters of an entity fit: the text asks for the parameters that are
given, each once.  It fills the columns of all attributes but the identifier with their values, and
looks for the identifier, which it uses nowhere else. -/
structure ReplacementFits (m : Metadata E) (schema : EntitySchema E) (entity : E)
    (change : Change) : Prop where
  placeholders : (placeholders change.text).Perm ((m.attributeValues entity true).map (·.1))
  distinct : (EntityStore.placeholders change.text).Nodup
  filled : ∃ sought slots,
    Statement.read? change.text = some (.change (.update ⟨m.table, [sought]⟩ slots)) ∧
    sought.Carries m.identifier schema (m.attributeValues entity true) entity ∧
    List.Forall₂ (fun s a => s.Carries a schema (m.attributeValues entity true) entity)
      slots m.valueAttributes ∧
    (slots.map Slot.column).Nodup ∧ sought.column ∉ slots.map Slot.column ∧
    sought.parameter ∉ slots.map Slot.parameter

end Metadata

/-- A query and its arguments fit: there have to be as many arguments as conditions, and then the
text asks for the parameters that are bound, in their order and each once.  The arguments are bound
to them in order, so that each has the value of the argument in the same place. -/
structure Query.Descriptor.Fits (d : Query.Descriptor) (arguments : List Value) : Prop where
  accepted : (∃ parameters, d.bind arguments = .ok parameters) ↔
    arguments.length = d.conditions.length
  read : Statement.read? d.text = some d.statement
  distinct : (placeholders d.text).Nodup
  placeholders : ∀ parameters, d.bind arguments = .ok parameters →
    placeholders d.text = parameters.map (·.1) ∧ arguments = parameters.map (·.2)
  bound : ∀ parameters, d.bind arguments = .ok parameters →
    List.Forall₂ (fun name argument => parameters.value name = argument.bound)
      (EntityStore.placeholders d.text) arguments

/-- All statements of a schema fit the parameters that go with them. -/
structure Metadata.Fits (m : Metadata E) (schema : EntitySchema E) (entity : E) : Prop where
  insertion : ∀ withIdentifier, m.InsertionFits schema entity withIdentifier
  replaced : m.replacement? = none ↔ m.attributes = [m.identifier]
  replacement : ∀ change, m.replacement? = some change → m.ReplacementFits schema entity change
  query : ∀ names form d, Query.Descriptor.build m names form = .ok d →
    ∀ arguments, d.Fits arguments

/-! ## 2. Insertions and replacements -/

namespace Metadata

variable {schema : EntitySchema E} {m : Metadata E} {a : MappedAttribute E}

theorem names_attributeValues (m : Metadata E) (entity : E) (withIdentifier : Bool) :
    (m.attributeValues entity withIdentifier).map (·.1) =
      ((m.writtenAttributes withIdentifier).map MappedAttribute.slot).map Slot.parameter := by
  simp only [attributeValues, List.map_map]
  rfl

theorem writtenAttributes_true (m : Metadata E) : m.writtenAttributes true = m.attributes := by
  simp [writtenAttributes]

namespace Resolved

theorem nodup_parameters (h : m.Resolved schema) (p : MappedAttribute E → Bool) :
    (((m.attributes.filter p).map MappedAttribute.slot).map Slot.parameter).Nodup := by
  rw [List.map_map]
  exact (List.filter_sublist.map _).nodup h.names

theorem nodup_columns (h : m.Resolved schema) (p : MappedAttribute E → Bool) :
    (((m.attributes.filter p).map MappedAttribute.slot).map Slot.column).Nodup := by
  rw [List.map_map]
  exact (List.filter_sublist.map _).nodup h.columns

/-- The slot of a written attribute carries it. -/
theorem carries (h : m.Resolved schema) (entity : E) {withIdentifier : Bool}
    (ha : a ∈ m.writtenAttributes withIdentifier) :
    a.slot.Carries a schema (m.attributeValues entity withIdentifier) entity :=
  ⟨rfl, rfl, a.read, h.accessor a (writtenAttributes_subset withIdentifier ha),
    h.value_attributeValues entity ha⟩

theorem forall₂_carries (h : m.Resolved schema) (entity : E) {withIdentifier : Bool}
    {written : List (MappedAttribute E)} (hwritten : written ⊆ m.writtenAttributes withIdentifier) :
    List.Forall₂ (fun s a => s.Carries a schema (m.attributeValues entity withIdentifier) entity)
      (written.map MappedAttribute.slot) written := by
  rw [List.forall₂_map_left_iff, List.forall₂_same]
  exact fun a ha => h.carries entity (hwritten ha)

/-- The slots of the values do not fill the column of the identifier, nor ask for its parameter. -/
theorem identifier_not_mem_slots (h : m.Resolved schema) :
    m.identifier.column ∉ (m.valueAttributes.map MappedAttribute.slot).map Slot.column ∧
      m.identifier.name ∉ (m.valueAttributes.map MappedAttribute.slot).map Slot.parameter := by
  simp only [List.map_map, List.mem_map, not_exists, not_and]
  refine ⟨fun a ha hcolumn => ?_, fun a ha hname => ?_⟩
  · have heq : a = m.identifier := List.inj_on_of_nodup_map h.columns
      (valueAttributes_subset ha) h.identifier_mem.1 hcolumn
    exact h.identifier_not_mem (heq ▸ ha)
  · have heq : a = m.identifier := List.inj_on_of_nodup_map h.names
      (valueAttributes_subset ha) h.identifier_mem.1 hname
    exact h.identifier_not_mem (heq ▸ ha)

/-- The values and the identifier are all attributes of an entity. -/
theorem perm_attributes (h : m.Resolved schema) :
    (m.valueAttributes ++ [m.identifier]).Perm m.attributes := by
  rw [← h.identifier]
  have hsplit := List.filter_append_perm (fun a : MappedAttribute E => !a.identifier) m.attributes
  simpa [valueAttributes] using hsplit

/-- There is nothing to replace exactly if the identifier is the only attribute. -/
theorem replacement?_eq_none_iff (h : m.Resolved schema) :
    m.replacement? = none ↔ m.attributes = [m.identifier] := by
  rw [replacement?_eq_none]
  constructor
  · intro hnone
    have hperm := h.perm_attributes
    rw [hnone] at hperm
    exact List.perm_singleton.mp hperm.symm
  · intro hall
    simp [valueAttributes, hall, h.identifier_mem.2]

end Resolved

/-- **An insertion fits the parameters of any entity.** -/
theorem insertionFits (hm : m.Resolved schema) (hlegible : m.Legible) (entity : E)
    (withIdentifier : Bool) : m.InsertionFits schema entity withIdentifier := by
  have hstatement := legible_insertion hlegible withIdentifier
  have hasked : EntityStore.placeholders (m.insertion withIdentifier).text =
      ((m.writtenAttributes withIdentifier).map MappedAttribute.slot).map Slot.parameter :=
    Change.placeholders_text hstatement
  refine ⟨?_, ?_, ?_, ?_⟩
  · rw [hasked, names_attributeValues]
  · rw [hasked]
    exact hm.nodup_parameters _
  · exact ⟨_, Change.read?_text hstatement, hm.forall₂_carries entity fun _ ha => ha⟩
  · have hempty : (Statement.change (.insert m.table [])).Legible := ⟨hlegible.table, by simp⟩
    have hiff := Statement.text_inj hstatement hempty
    rw [Statement.text_change, Statement.text_change] at hiff
    simpa [insertion, Change.text] using hiff

/-- **A replacement fits the parameters of any entity.** -/
theorem replacementFits (hm : m.Resolved schema) (hlegible : m.Legible) (entity : E)
    {change : Change} (hchange : m.replacement? = some change) :
    m.ReplacementFits schema entity change := by
  have hvalues : m.valueAttributes ≠ [] := fun hnone => by
    rw [replacement?_eq_none.mpr hnone] at hchange
    cases hchange
  obtain rfl := replacement?_eq_some hchange
  have hstatement := legible_replacement hm hlegible hvalues
  have hsub : m.valueAttributes ⊆ m.writtenAttributes true := by
    rw [writtenAttributes_true]
    exact valueAttributes_subset
  have hidentifier : m.identifier ∈ m.writtenAttributes true := by
    rw [writtenAttributes_true]
    exact hm.identifier_mem.1
  have hasked : (EntityStore.placeholders (Change.update ⟨m.table, [m.identifier.slot]⟩
      (m.valueAttributes.map MappedAttribute.slot)).text).Perm
        ((m.attributeValues entity true).map (·.1)) := by
    rw [names_attributeValues, writtenAttributes_true, List.map_map]
    refine List.Perm.trans (List.Perm.of_eq ?_) (hm.perm_attributes.map _)
    rw [Change.placeholders_text hstatement]
    simp [Statement.parameters]
  refine ⟨hasked, hasked.nodup_iff.mpr ?_, _, _, Change.read?_text hstatement,
    hm.carries entity hidentifier, hm.forall₂_carries entity hsub, hm.nodup_columns _,
    hm.identifier_not_mem_slots⟩
  rw [names_attributeValues]
  exact hm.nodup_parameters _

end Metadata

/-! ## 3. Queries -/

namespace Query.Descriptor

variable {schema : EntitySchema E} {m : Metadata E} {names : List String} {form : Form}

theorem parameters_statement (d : Descriptor) :
    d.statement.parameters = d.conditions.map Slot.parameter := by
  unfold statement
  cases d.form <;> rfl

theorem bind_eq_ok {d : Descriptor} {arguments : List Value} {parameters : Parameters} :
    d.bind arguments = .ok parameters ↔ arguments.length = d.conditions.length ∧
      parameters = (d.conditions.map (·.parameter)).zip arguments := by
  unfold bind
  split
  · rename_i hlength
    simp [hlength, eq_comm]
  · rename_i hlength
    simp [hlength]

/-- The values of parameters with different names are found under their names. -/
theorem forall₂_value {names : List String} (hnames : names.Nodup) {arguments : List Value}
    (hlength : arguments.length = names.length) :
    List.Forall₂ (fun name argument => Parameters.value (names.zip arguments) name = argument.bound)
      names arguments := by
  refine List.forall₂_iff_zip.mpr ⟨hlength.symm, fun {name argument} hentry => ?_⟩
  refine Parameters.value_of_mem ?_ hentry
  rwa [List.map_fst_zip (Nat.le_of_eq hlength.symm)]

/-- **A query that is built from an accepted schema fits any arguments.** -/
theorem fits (hm : m.Resolved schema) (hlegible : m.Legible) {d : Descriptor}
    (h : build m names form = .ok d) (arguments : List Value) : d.Fits arguments := by
  have hstatement := legible_statement hm hlegible h
  have hread := Statement.read?_text hstatement
  have hasked := Statement.placeholders_text hstatement
  rw [text_statement] at hread hasked
  rw [parameters_statement] at hasked
  have hnodup : (d.conditions.map Slot.parameter).Nodup := by
    obtain ⟨hnames, rfl⟩ := build_ok hm h
    rw [List.map_map]
    exact (List.map_id names).symm ▸ hnames
  refine ⟨?_, hread, hasked ▸ hnodup, ?_, ?_⟩
  · simp [bind_eq_ok]
  · intro parameters hbind
    obtain ⟨hlength, rfl⟩ := bind_eq_ok.mp hbind
    rw [hasked, List.map_fst_zip (by simp [hlength]), List.map_snd_zip (by simp [hlength])]
    exact ⟨rfl, rfl⟩
  · intro parameters hbind
    obtain ⟨hlength, rfl⟩ := bind_eq_ok.mp hbind
    rw [hasked]
    exact forall₂_value hnodup (by simpa using hlength)

end Query.Descriptor

/-! ## 4. Accepted schemas -/

/-- **The statements of an accepted schema fit their parameters.** -/
theorem Metadata.fits_of_resolve {schema : EntitySchema E} {m : Metadata E}
    (h : resolve schema = .ok m) (entity : E) : m.Fits schema entity :=
  have hm := resolved_of_resolve h
  have hlegible := legible_of_resolve h
  { insertion := insertionFits hm hlegible entity
    replaced := hm.replacement?_eq_none_iff
    replacement := fun _ hchange => replacementFits hm hlegible entity hchange
    query := fun _ _ _ hbuild => Query.Descriptor.fits hm hlegible hbuild }

/-- Saving a tag fills the columns of its code and its label. -/
theorem Tags.fits_tag : Metadata.resolve Tags.shape.schema = .ok Tags.metadata ∧
    Tags.metadata.Fits Tags.shape.schema (Tags.tag "a" "x") ∧
    placeholders (Tags.metadata.insertion true).text = ["code", "label"] := by
  have hresolve : Metadata.resolve Tags.shape.schema = .ok Tags.metadata := rfl
  have hfits := Metadata.fits_of_resolve hresolve (Tags.tag "a" "x")
  exact ⟨hresolve, hfits, (hfits.insertion true).placeholders⟩

end EntityStore

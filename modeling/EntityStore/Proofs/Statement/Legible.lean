import EntityStore.Proofs.Name.Words
import EntityStore.Proofs.Query.Registration
import EntityStore.Proofs.Statement.Reading
/-!
# The statements of an accepted schema are legible

The names of an accepted schema are made of letters and digits, and its storage names of the same in
lower case, with underscores between them.  So there is no quote in the name of a table or a column,
and a parameter, which has the name of an attribute, is a word (`Metadata.Legible`).  This makes
every statement legible that is built from the schema: the insertions and the replacement of an
entity (`legible_insertion`, `legible_replacement`), and the queries (`legible_statement`).
-/

namespace EntityStore

variable {E : Type}

/-! ## 1. Valid names -/

namespace Name

/-- Only underscores are written between the characters of a name. -/
theorem eq_or_mem_of_mem_separateWords {c : Char} {chars : List Char}
    (h : c ∈ separateWords chars) : c = '_' ∨ c ∈ chars := by
  fun_induction separateWords chars with
  | case1 a b rest _ ih =>
    simp only [List.mem_cons] at h ⊢
    tauto
  | case2 a b rest _ ih =>
    simp only [List.mem_cons] at h ih ⊢
    tauto
  | case3 => exact .inr h

/-- No character has the quote as its lower-case form, but the quote itself. -/
theorem toLower_ne_quote {c : Char} (h : c ≠ '"') : c.toLower ≠ '"' := by
  intro hquote
  cases hupper : c.isUpper with
  | true =>
    have hlower : ('"').toNat = c.toNat + 32 := hquote ▸ toNat_toLower_of_isUpper hupper
    have hcode : ('"').toNat = 34 := rfl
    obtain ⟨hA, -⟩ := isUpper_iff_toNat.mp hupper
    omega
  | false => exact h ((toLower_of_not_isUpper hupper).symm.trans hquote)

theorem unquoted_of_isValid {name : String} (h : isValid name = true) : Unquoted name :=
  fun hquote => absurd ((valid_iff.mpr h).characters _ hquote) (by decide)

/-- A storage name has no quote if the name has none. -/
theorem unquoted_storage {name : String} (h : Unquoted name) : Unquoted (storage name) := by
  intro hquote
  obtain ⟨c, hc, hlower⟩ : ∃ c ∈ separateWords name.toList, c.toLower = '"' := by
    simpa [storage, storageChars] using hquote
  rcases eq_or_mem_of_mem_separateWords hc with rfl | hc
  · exact absurd hlower (by decide)
  · exact toLower_ne_quote (fun heq => h (heq ▸ hc)) hlower

theorem isWordChar_of_isValid {name : String} (h : isValid name = true) :
    ∀ c ∈ name.toList, Scanner.isWordChar c = true := by
  intro c hc
  simp [Scanner.isWordChar, (valid_iff.mpr h).characters c hc]

end Name

/-! ## 2. Accepted schemas -/

namespace Metadata

theorem isValid_of_checkNames {names columns : List String} {attributes : List Attribute}
    (h : checkNames names columns attributes = .ok ()) :
    ∀ a ∈ attributes, Name.isValid a.name = true := by
  fun_induction checkNames names columns attributes with
  | case1 => simp
  | case2 | case3 | case4 => cases h
  | case5 names columns a rest column hvalid _ _ ih =>
    exact List.forall_mem_cons.mpr ⟨by simpa using hvalid, ih h⟩

/-- The names and the storage names of an accepted schema can be written into a statement: the names
of attributes as parameters, and all of them between quotes. -/
structure Legible (m : Metadata E) : Prop where
  table : Unquoted m.table
  slot : ∀ a ∈ m.attributes, a.slot.Legible
  output : ∀ a ∈ m.attributes, a.output.Legible

/-- **An accepted schema is legible.** -/
theorem legible_of_resolve {schema : EntitySchema E} {m : Metadata E}
    (h : resolve schema = .ok m) : m.Legible := by
  have hm := resolved_of_resolve h
  obtain ⟨hentity, hnames⟩ : Name.isValid schema.name = true ∧
      ∀ a ∈ schema.attributes, Name.isValid a.name = true := by
    unfold resolve check at h
    split at h
    · cases h
    rename_i hentity
    split at h
    · cases h
    rename_i hnames
    exact ⟨by simpa using hentity, isValid_of_checkNames hnames⟩
  have hname : ∀ a ∈ m.attributes, Name.isValid a.name = true := fun a ha =>
    hnames _ (hm.declared ▸ List.mem_map_of_mem ha)
  have hcolumn : ∀ a ∈ m.attributes, Unquoted a.column := by
    intro a ha
    rw [hm.column a ha]
    exact Name.unquoted_storage (Name.unquoted_of_isValid (hname a ha))
  refine ⟨?_, fun a ha => ⟨hcolumn a ha, Name.isWordChar_of_isValid (hname a ha)⟩,
    fun a ha => ⟨hcolumn a ha, Name.unquoted_of_isValid (hname a ha)⟩⟩
  rw [hm.table]
  exact Name.unquoted_storage (Name.unquoted_of_isValid hentity)

end Metadata

/-! ## 3. Statements -/

section

variable {schema : EntitySchema E} {m : Metadata E}

theorem Metadata.Legible.slots (h : m.Legible) (p : MappedAttribute E → Bool) :
    ∀ s ∈ (m.attributes.filter p).map MappedAttribute.slot, s.Legible := by
  intro s hs
  obtain ⟨a, ha, rfl⟩ := List.mem_map.mp hs
  exact h.slot a (List.mem_filter.mp ha).1

theorem Metadata.legible_insertion (h : m.Legible) (withIdentifier : Bool) :
    (Statement.change (m.insertion withIdentifier)).Legible :=
  ⟨h.table, h.slots _⟩

theorem Metadata.legible_replacement (hm : m.Resolved schema) (h : m.Legible)
    (hvalues : m.valueAttributes ≠ []) :
    (Statement.change (.update ⟨m.table, [m.identifier.slot]⟩
      (m.valueAttributes.map MappedAttribute.slot))).Legible := by
  have hidentifier : ∀ s ∈ [m.identifier.slot], s.Legible := by
    simpa using h.slot _ hm.identifier_mem.1
  exact ⟨⟨h.table, hidentifier⟩, by simpa using hvalues, h.slots _⟩

end

namespace Query.Descriptor

variable {schema : EntitySchema E} {m : Metadata E} {names : List String} {form : Form}

/-- The statement of a query. -/
def statement (d : Descriptor) : Statement :=
  match d.form with
  | .selectAll => .select d.selection
  | .selectFiltered => .select d.selection
  | .count => .count d.filter
  | .countFiltered => .count d.filter
  | .deleteAll => .change d.removal
  | .deleteFiltered => .change d.removal

theorem text_statement (d : Descriptor) : d.statement.text = d.text := by
  unfold statement text
  cases d.form <;> rfl

/-- Only declared attributes are resolved. -/
theorem mem_of_resolve {seen : List String} {conditions : List Slot}
    (h : resolve m seen names = .ok conditions) :
    ∀ s ∈ conditions, ∃ a ∈ m.attributes, s = a.slot := by
  induction names generalizing seen conditions with
  | nil =>
    cases h
    simp
  | cons name rest ih =>
    simp only [resolve] at h
    split at h
    · cases h
    rename_i a ha
    split at h
    · cases h
    split at h
    · cases h
    rename_i others hothers
    cases h
    have hname : a.name = name :=
      eq_of_beq (List.find?_some (p := fun b : MappedAttribute E => b.name == name) ha)
    refine List.forall_mem_cons.mpr ⟨⟨a, List.mem_of_find?_eq_some ha, ?_⟩, ih hothers⟩
    rw [MappedAttribute.slot, hname]

/-- **The statement of a query is legible**, whatever names it was built from. -/
theorem legible_statement (hm : m.Resolved schema) (hlegible : m.Legible) {d : Descriptor}
    (h : build m names form = .ok d) : d.statement.Legible := by
  have hslots : ∀ s ∈ d.conditions, s.Legible := by
    intro s hs
    unfold build at h
    split at h
    · cases h
    split at h
    · cases h
    split at h
    · cases h
    rename_i conditions hresolve
    cases h
    obtain ⟨a, ha, rfl⟩ := mem_of_resolve hresolve s hs
    exact hlegible.slot a ha
  obtain ⟨-, rfl⟩ := build_ok hm h
  have hfilter : Filter.Legible ⟨m.table, names.map condition⟩ := ⟨hlegible.table, hslots⟩
  have hoid : m.identifier.slot.Legible := hlegible.slot _ hm.identifier_mem.1
  have hselection : (Statement.select ⟨⟨m.table, names.map condition⟩, m.outputs,
      some m.identifier.column⟩).Legible := by
    refine ⟨hfilter, ?_, ?_, ?_⟩
    · have hne := List.ne_nil_of_mem hm.identifier_mem.1
      simpa [Metadata.outputs] using hne
    · intro o ho
      obtain ⟨a, ha, rfl⟩ := List.mem_map.mp ho
      exact hlegible.output a ha
    · rintro _ ⟨⟩
      exact hoid.column
  cases form
  case selectAll | selectFiltered => exact hselection
  all_goals exact hfilter

end Query.Descriptor

end EntityStore

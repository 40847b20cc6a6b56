import EntityStore.Proofs.Name.Words
/-!
# Which schemas are accepted

A schema is resolved in three passes over its attributes: names and columns, identifiers, accessors.
Each pass stops at the first fault, and a pass is only made if the one before found nothing.  This
module says without any passes when a schema is in order (`EntitySchema.WellFormed`) and what it is
refused for otherwise (`EntitySchema.Refused`): the attributes before the one to blame are in order,
and so is everything that is looked at earlier.

The argument has two halves.

* Of every schema one of the two is true (`wellFormed_or_refused`).  Nothing is resolved here.
* What is true of a schema decides how it is resolved: a pass goes past attributes that are in order
  (`checkNames_past`, `mapAttributes_past`) and stops at the next one that is not.

Main statement: `resolve_exact`, which also says what the metadata of an accepted schema are.
-/

namespace EntityStore

variable {E : Type}

/-! ## 1. Well-formed schemas -/

/-- Attributes that can have columns: their names are valid, and no two fall on one column. -/
structure WellNamed (attributes : List Attribute) : Prop where
  valid : ∀ a ∈ attributes, Name.Valid a.name
  columns : attributes.Pairwise fun a b => Name.storage a.name ≠ Name.storage b.name

/-- What is wrong with the name of an attribute that stands behind others. -/
inductive Misnamed (before : List Attribute) (a : Attribute) : SchemaFault → Prop
  | invalid : ¬ Name.Valid a.name → Misnamed before a (.invalidName a.name)
  | repeated : Name.Valid a.name → (∃ b ∈ before, b.name = a.name) →
      Misnamed before a (.duplicateAttribute a.name)
  | sharing : Name.Valid a.name → (∀ b ∈ before, b.name ≠ a.name) →
      (∃ b ∈ before, Name.storage b.name = Name.storage a.name) →
      Misnamed before a (.duplicateColumn (Name.storage a.name))

/-- What is wrong with an attribute that has no accessor. -/
def Attribute.missingAccessor (a : Attribute) : SchemaFault :=
  if a.identifier then .noIdentifierAccessor else .noAttributeAccessor a.name

namespace EntitySchema

/-- An accessor is registered under a name. -/
def HasAccessor (schema : EntitySchema E) (name : String) : Prop :=
  ∃ read, (name, read) ∈ schema.accessors

/-- The accessor that was registered first under a name. -/
def FirstAccessor (schema : EntitySchema E) (name : String) (read : E → Value) : Prop :=
  ∃ before after, schema.accessors = before ++ (name, read) :: after ∧
    ∀ entry ∈ before, entry.1 ≠ name

/-- How many identifiers a schema declares. -/
def identifiers (schema : EntitySchema E) : Nat :=
  schema.attributes.countP (·.identifier)

/-- A schema is well formed if its names are valid, its attributes fall on different columns, one of
them is the identifier, and each has an accessor. -/
structure WellFormed (schema : EntitySchema E) : Prop where
  name : Name.Valid schema.name
  attributes : WellNamed schema.attributes
  identifier : schema.identifiers = 1
  accessors : ∀ a ∈ schema.attributes, schema.HasAccessor a.name

/-- What a schema is refused for.  Whatever is looked at earlier is in order. -/
inductive Refused (schema : EntitySchema E) : SchemaFault → Prop
  | entity : ¬ Name.Valid schema.name → Refused schema (.invalidName schema.name)
  | misnamed {before after : List Attribute} {a : Attribute} {fault : SchemaFault} :
      Name.Valid schema.name → schema.attributes = before ++ a :: after → WellNamed before →
      Misnamed before a fault → Refused schema fault
  | noIdentifier : Name.Valid schema.name → WellNamed schema.attributes →
      schema.identifiers = 0 → Refused schema .noIdentifier
  | multipleIdentifiers : Name.Valid schema.name → WellNamed schema.attributes →
      1 < schema.identifiers → Refused schema .multipleIdentifiers
  | accessor {before after : List Attribute} {a : Attribute} :
      Name.Valid schema.name → WellNamed schema.attributes → schema.identifiers = 1 →
      schema.attributes = before ++ a :: after →
      (∀ b ∈ before, schema.HasAccessor b.name) → ¬ schema.HasAccessor a.name →
      Refused schema a.missingAccessor

/-! ## 2. One of the two -/

theorem wellNamed_concat {before : List Attribute} {a : Attribute} :
    WellNamed (before ++ [a]) ↔ WellNamed before ∧ Name.Valid a.name ∧
      ∀ b ∈ before, Name.storage b.name ≠ Name.storage a.name := by
  constructor
  · rintro ⟨hvalid, hcolumns⟩
    rw [List.pairwise_append] at hcolumns
    exact ⟨⟨fun b hb => hvalid b (List.mem_append_left _ hb), hcolumns.1⟩,
      hvalid a (List.mem_append_right _ List.mem_cons_self),
      fun b hb => hcolumns.2.2 b hb a List.mem_cons_self⟩
  · rintro ⟨⟨hvalid, hcolumns⟩, ha, hapart⟩
    refine ⟨List.forall_mem_append.mpr ⟨hvalid, by simpa using ha⟩, ?_⟩
    exact List.pairwise_append.mpr ⟨hcolumns, List.pairwise_singleton _ _, by simpa using hapart⟩

/-- An attribute is misnamed, or it can have a column beside the others. -/
theorem misnamed_or_not (before : List Attribute) (a : Attribute) :
    (∃ fault, Misnamed before a fault) ∨ Name.Valid a.name ∧
      ∀ b ∈ before, Name.storage b.name ≠ Name.storage a.name := by
  by_cases hvalid : Name.Valid a.name
  · by_cases hname : ∃ b ∈ before, b.name = a.name
    · exact .inl ⟨_, .repeated hvalid hname⟩
    · by_cases hcolumn : ∃ b ∈ before, Name.storage b.name = Name.storage a.name
      · exact .inl ⟨_, .sharing hvalid (by simpa using hname) hcolumn⟩
      · exact .inr ⟨hvalid, by simpa using hcolumn⟩
  · exact .inl ⟨_, .invalid hvalid⟩

/-- Attributes that are not well named have a first one that is misnamed. -/
theorem wellNamed_or_misnamed (attributes : List Attribute) : WellNamed attributes ∨
    ∃ before a after fault, attributes = before ++ a :: after ∧ WellNamed before ∧
      Misnamed before a fault := by
  induction attributes using List.reverseRecOn with
  | nil => exact .inl ⟨by simp, List.Pairwise.nil⟩
  | append_singleton attributes last ih =>
    rcases ih with hnamed | ⟨before, a, after, fault, rfl, hbefore, ha⟩
    · rcases misnamed_or_not attributes last with ⟨fault, hlast⟩ | hlast
      · exact .inr ⟨attributes, last, [], fault, rfl, hnamed, hlast⟩
      · exact .inl (wellNamed_concat.mpr ⟨hnamed, hlast⟩)
    · exact .inr ⟨before, a, after ++ [last], fault, by simp, hbefore, ha⟩

variable {schema : EntitySchema E}

theorem hasAccessor_iff {name : String} :
    schema.HasAccessor name ↔ (schema.accessor? name).isSome = true := by
  simp only [HasAccessor, accessor?, Option.isSome_map, List.find?_isSome, beq_iff_eq]
  constructor
  · rintro ⟨read, hmem⟩
    exact ⟨_, hmem, rfl⟩
  · rintro ⟨⟨_, read⟩, hmem, rfl⟩
    exact ⟨read, hmem⟩

theorem firstAccessor_iff {name : String} {read : E → Value} :
    schema.FirstAccessor name read ↔ schema.accessor? name = some read := by
  simp only [FirstAccessor, accessor?, Option.map_eq_some_iff, List.find?_eq_some_iff_append]
  constructor
  · rintro ⟨before, after, haccessors, hbefore⟩
    exact ⟨(name, read), ⟨by simp, before, after, haccessors, by simpa using hbefore⟩, rfl⟩
  · rintro ⟨⟨other, _⟩, ⟨hname, before, after, haccessors, hbefore⟩, rfl⟩
    obtain rfl : other = name := by simpa using hname
    exact ⟨before, after, haccessors, by simpa using hbefore⟩

/-- Among attributes without all of their accessors there is a first one that has none. -/
theorem hasAccessors_or_first (schema : EntitySchema E) :
    (∀ a ∈ schema.attributes, schema.HasAccessor a.name) ∨
      ∃ before a after, schema.attributes = before ++ a :: after ∧
        (∀ b ∈ before, schema.HasAccessor b.name) ∧ ¬ schema.HasAccessor a.name := by
  simp only [hasAccessor_iff]
  cases h : schema.attributes.find? fun a => !(schema.accessor? a.name).isSome with
  | none => exact .inl (by simpa [Option.isSome_iff_ne_none] using h)
  | some a =>
    obtain ⟨ha, before, after, hattributes, hbefore⟩ := List.find?_eq_some_iff_append.mp h
    exact .inr ⟨before, a, after, hattributes, by simpa using hbefore, by simpa using ha⟩

/-- **A schema is well formed, or there is something to refuse it for.** -/
theorem wellFormed_or_refused (schema : EntitySchema E) :
    schema.WellFormed ∨ ∃ fault, schema.Refused fault := by
  by_cases hname : Name.Valid schema.name
  · rcases wellNamed_or_misnamed schema.attributes with
      hnamed | ⟨before, a, after, fault, hattributes, hbefore, ha⟩
    · rcases lt_trichotomy schema.identifiers 1 with hnone | hone | hmany
      · exact .inr ⟨_, .noIdentifier hname hnamed (by omega)⟩
      · rcases schema.hasAccessors_or_first with hall | ⟨before, a, after, hsplit, hbefore, ha⟩
        · exact .inl ⟨hname, hnamed, hone, hall⟩
        · exact .inr ⟨_, .accessor hname hnamed hone hsplit hbefore ha⟩
      · exact .inr ⟨_, .multipleIdentifiers hname hnamed hmany⟩
    · exact .inr ⟨_, .misnamed hname hattributes hbefore ha⟩
  · exact .inr ⟨_, .entity hname⟩

end EntitySchema

/-! ## 3. The passes -/

namespace Metadata

open EntitySchema

variable {schema : EntitySchema E}

/-- Checks further attributes, behind some that were checked already. -/
def checkBehind (before rest : List Attribute) : Except SchemaFault Unit :=
  checkNames (before.reverse.map (·.name)) (before.reverse.map fun a => Name.storage a.name) rest

theorem checkBehind_cons {before rest : List Attribute} {a : Attribute}
    (hvalid : Name.Valid a.name)
    (hapart : ∀ b ∈ before, Name.storage b.name ≠ Name.storage a.name) :
    checkBehind before (a :: rest) = checkBehind (before ++ [a]) rest := by
  have hname : ¬ ∃ b ∈ before, b.name = a.name := by
    rintro ⟨b, hb, heq⟩
    exact hapart b hb (by rw [heq])
  have hcolumn : ¬ ∃ b ∈ before, Name.storage b.name = Name.storage a.name := by
    rintro ⟨b, hb, heq⟩
    exact hapart b hb heq
  simp [checkBehind, checkNames, Name.valid_iff.mp hvalid, hname, hcolumn]

/-- The pass over the names goes past attributes that are well named. -/
theorem checkNames_past {before rest : List Attribute} (h : WellNamed before) :
    checkNames [] [] (before ++ rest) = checkBehind before rest := by
  induction before using List.reverseRecOn generalizing rest with
  | nil => rfl
  | append_singleton before a ih =>
    obtain ⟨hbefore, hvalid, hapart⟩ := wellNamed_concat.mp h
    rw [List.append_assoc, List.singleton_append, ih hbefore, checkBehind_cons hvalid hapart]

/-- It stops at one that is misnamed. -/
theorem checkBehind_misnamed {before rest : List Attribute} {a : Attribute} {fault : SchemaFault}
    (h : Misnamed before a fault) : checkBehind before (a :: rest) = .error fault := by
  cases h with
  | invalid hvalid =>
    rw [Name.valid_iff, Bool.not_eq_true] at hvalid
    simp [checkBehind, checkNames, hvalid]
  | repeated hvalid hname =>
    simp [checkBehind, checkNames, Name.valid_iff.mp hvalid, hname]
  | sharing hvalid hname hcolumn =>
    have hname : ¬ ∃ b ∈ before, b.name = a.name := by
      rintro ⟨b, hb, heq⟩
      exact hname b hb heq
    simp [checkBehind, checkNames, Name.valid_iff.mp hvalid, hname, hcolumn]

theorem checkNames_of_wellNamed {attributes : List Attribute} (h : WellNamed attributes) :
    checkNames [] [] attributes = .ok () := by
  have hpast : checkNames [] [] (attributes ++ []) = checkBehind attributes [] := checkNames_past h
  rwa [List.append_nil] at hpast

/-- The pass over the identifiers counts them. -/
theorem checkIdentifier_eq (schema : EntitySchema E) : checkIdentifier schema.attributes =
    if schema.identifiers = 0 then .error .noIdentifier
    else if schema.identifiers = 1 then .ok () else .error .multipleIdentifiers := by
  rw [identifiers, List.countP_eq_length_filter]
  unfold checkIdentifier
  generalize schema.attributes.filter (·.identifier) = found
  match found with
  | [] => rfl
  | [_] => rfl
  | _ :: _ :: _ => rfl

/-- The pass over the accessors stops at the first attribute without one. -/
theorem mapAttributes_stops {before after : List Attribute} {a : Attribute}
    (hbefore : ∀ b ∈ before, schema.HasAccessor b.name) (ha : ¬ schema.HasAccessor a.name) :
    mapAttributes schema (before ++ a :: after) = .error a.missingAccessor := by
  induction before with
  | nil =>
    rw [hasAccessor_iff, Bool.not_eq_true, Option.isSome_eq_false_iff, Option.isNone_iff_eq_none]
      at ha
    cases hid : a.identifier <;>
      simp [mapAttributes, mapAttribute, Attribute.missingAccessor, ha, hid]
  | cons b before ih =>
    obtain ⟨hb, hbefore⟩ := List.forall_mem_cons.mp hbefore
    obtain ⟨read, hread⟩ := Option.isSome_iff_exists.mp (hasAccessor_iff.mp hb)
    simp only [List.cons_append, mapAttributes, mapAttribute, hread, ih hbefore]

theorem mapAttributes_past {attributes : List Attribute}
    (h : ∀ a ∈ attributes, schema.HasAccessor a.name) :
    ∃ mapped, mapAttributes schema attributes = .ok mapped := by
  induction attributes with
  | nil => exact ⟨[], rfl⟩
  | cons a rest ih =>
    obtain ⟨ha, hrest⟩ := List.forall_mem_cons.mp h
    obtain ⟨read, hread⟩ := Option.isSome_iff_exists.mp (hasAccessor_iff.mp ha)
    obtain ⟨others, hothers⟩ := ih hrest
    exact ⟨_, by simp only [mapAttributes, mapAttribute, hread, hothers]; rfl⟩

/-- A schema that is to be refused is refused, for that reason. -/
theorem check_of_refused {fault : SchemaFault} (h : schema.Refused fault) :
    check schema = .error fault := by
  cases h with
  | entity hname =>
    rw [Name.valid_iff, Bool.not_eq_true] at hname
    simp [check, hname]
  | misnamed hname hattributes hbefore ha =>
    have hstop : checkNames [] [] schema.attributes = .error fault := by
      rw [hattributes, checkNames_past hbefore, checkBehind_misnamed ha]
    simp [check, Name.valid_iff.mp hname, hstop]
  | noIdentifier hname hnamed hnone =>
    simp [check, Name.valid_iff.mp hname, checkNames_of_wellNamed hnamed, checkIdentifier_eq, hnone]
  | multipleIdentifiers hname hnamed hmany =>
    have hzero : schema.identifiers ≠ 0 := by omega
    have hone : schema.identifiers ≠ 1 := by omega
    simp [check, Name.valid_iff.mp hname, checkNames_of_wellNamed hnamed, checkIdentifier_eq, hzero,
      hone]
  | @accessor before after a hname hnamed hone hattributes hbefore ha =>
    have hstop : mapAttributes schema schema.attributes = .error a.missingAccessor := by
      rw [hattributes, mapAttributes_stops hbefore ha]
    simp [check, Name.valid_iff.mp hname, checkNames_of_wellNamed hnamed, checkIdentifier_eq, hone,
      hstop]

/-- A well-formed schema is accepted. -/
theorem check_of_wellFormed (h : schema.WellFormed) : ∃ m, check schema = .ok m := by
  obtain ⟨mapped, hmapped⟩ := mapAttributes_past h.accessors
  have hdeclared := (mapAttributes_ok hmapped).1
  have hcount : schema.identifiers = mapped.countP (·.identifier) := by
    rw [identifiers, ← hdeclared, List.countP_map]
    rfl
  have hsome : 0 < mapped.countP (·.identifier) := by
    rw [← hcount, h.identifier]
    exact Nat.one_pos
  obtain ⟨a, ha, hid⟩ := List.countP_pos_iff.mp hsome
  have hfound : (mapped.find? (·.identifier)).isSome = true :=
    List.find?_isSome.mpr ⟨a, ha, hid⟩
  obtain ⟨identifier, hfind⟩ := Option.isSome_iff_exists.mp hfound
  exact ⟨_, by
    simp [check, Name.valid_iff.mp h.name, checkNames_of_wellNamed h.attributes, checkIdentifier_eq,
      h.identifier, hmapped, hfind]
    rfl⟩

/-! ## 4. Metadata -/

/-- What the metadata of a schema say. -/
structure Describes (m : Metadata E) (schema : EntitySchema E) : Prop where
  entity : m.entity = schema.name
  table : m.table = Name.storage schema.name
  assigner : m.assigner = schema.assigner
  /-- The attributes are in the order of their declaration. -/
  declared : m.attributes.map (·.toAttribute) = schema.attributes
  column : ∀ a ∈ m.attributes, a.column = Name.storage a.name
  read : ∀ a ∈ m.attributes, schema.FirstAccessor a.name a.read
  /-- One attribute is the identifier, and the value attributes are the others in order. -/
  identifier : ∃ before after, m.attributes = before ++ m.identifier :: after ∧
    m.identifier.identifier = true ∧ m.valueAttributes = before ++ after ∧
    ∀ a ∈ before ++ after, a.identifier = false
  /-- Under a name there is the attribute that was declared so, and no other. -/
  found : ∀ name a, m.attribute? name = some a ↔ a ∈ m.attributes ∧ a.name = name

theorem Resolved.describes {m : Metadata E} (h : m.Resolved schema) : m.Describes schema := by
  refine ⟨h.entity, h.table, h.assigner, h.declared, h.column,
    fun a ha => firstAccessor_iff.mpr (h.accessor a ha), ?_, ?_⟩
  · obtain ⟨before, after, hattributes, hbefore, hid, hafter⟩ :=
      List.filter_eq_cons_iff.mp h.identifier
    have hothers : ∀ a ∈ before ++ after, a.identifier = false := by
      rw [List.filter_eq_nil_iff] at hafter
      exact List.forall_mem_append.mpr ⟨by simpa using hbefore, by simpa using hafter⟩
    refine ⟨before, after, hattributes, hid, ?_, hothers⟩
    rw [List.forall_mem_append] at hothers
    rw [valueAttributes, hattributes, List.filter_append, List.filter_cons_of_neg (by simp [hid]),
      List.filter_eq_self.mpr (by simpa using hothers.1),
      List.filter_eq_self.mpr (by simpa using hothers.2)]
  · intro name a
    constructor
    · intro hfind
      exact ⟨List.mem_of_find?_eq_some hfind, (h.column_of_attribute? hfind).1⟩
    · rintro ⟨ha, rfl⟩
      have hfound : (m.attribute? a.name).isSome = true :=
        List.find?_isSome.mpr ⟨a, ha, beq_self_eq_true a.name⟩
      obtain ⟨b, hb⟩ := Option.isSome_iff_exists.mp hfound
      have hname : b.name = a.name := (h.column_of_attribute? hb).1
      rw [hb, List.inj_on_of_nodup_map h.names (List.mem_of_find?_eq_some hb) ha hname]

/-! ## 5. Resolution -/

/-- How a schema is resolved: whether it is accepted, what it is refused for if it is not, and what
comes out if it is. -/
structure Resolution (schema : EntitySchema E) : Prop where
  accepted : (∃ m, resolve schema = .ok m) ↔ schema.WellFormed
  refused : ∀ fault, resolve schema = .error fault ↔
    ∃ reason, schema.Refused reason ∧ fault = .initialization schema.name reason
  described : ∀ m, resolve schema = .ok m → m.Describes schema

/-- **Resolution accepts exactly the well-formed schemas** and refuses each other one for the first
thing that is wrong with it. -/
theorem resolve_exact (schema : EntitySchema E) : Resolution schema := by
  refine ⟨?_, ?_, fun m h => (resolved_of_resolve h).describes⟩
  · constructor
    · rintro ⟨m, hm⟩
      rcases schema.wellFormed_or_refused with hformed | ⟨fault, hrefused⟩
      · exact hformed
      · rw [resolve, check_of_refused hrefused] at hm
        cases hm
    · intro h
      obtain ⟨m, hm⟩ := check_of_wellFormed h
      exact ⟨m, by rw [resolve, hm]; rfl⟩
  · intro fault
    constructor
    · intro hfault
      rcases schema.wellFormed_or_refused with hformed | ⟨reason, hrefused⟩
      · obtain ⟨m, hm⟩ := check_of_wellFormed hformed
        rw [resolve, hm] at hfault
        cases hfault
      · rw [resolve, check_of_refused hrefused] at hfault
        cases hfault
        exact ⟨reason, hrefused, rfl⟩
    · rintro ⟨reason, hrefused, rfl⟩
      rw [resolve, check_of_refused hrefused]
      rfl

end Metadata

end EntityStore

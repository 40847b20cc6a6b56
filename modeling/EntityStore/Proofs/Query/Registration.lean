import EntityStore.Proofs.Mapping
import EntityStore.Query.Registry
import EntityStore.Store.Table
/-!
# What a registered query means

A filtered query is registered with a list of attributes and later run with a list of arguments.
In between stand a map from attributes to columns, a parameter for each attribute, and a registry
that keeps the query under its key.  This module shows that they fit together: the rows that a
query looks at are those that meet its `conjunction`, in which the attributes and the arguments are
paired in order and nothing else appears.
-/

namespace EntityStore.Query

variable {E : Type}

/-- Whether the columns of some attributes equal some values, one by one. -/
def conjunction (columns : List Column) (attributes : List String) (arguments : List Value)
    (row : Row) : Bool :=
  (attributes.zip arguments).all fun (name, argument) =>
    Table.holds columns row (Name.storage name) argument.bound

/-! ## 1. Descriptors -/

namespace Descriptor

variable {schema : EntitySchema E} {m : Metadata E} {names : List String} {form : Form}

/-- The condition on an attribute. -/
def condition (name : String) : Slot :=
  ⟨Name.storage name, name⟩

/-- Attributes are resolved only if they are different, and each to the condition on its own
column. -/
theorem resolve_ok (hm : m.Resolved schema) {seen : List String} {conditions : List Slot}
    (h : resolve m seen names = .ok conditions) :
    names.Nodup ∧ (∀ name ∈ names, name ∉ seen) ∧ conditions = names.map condition := by
  induction names generalizing seen conditions with
  | nil =>
    cases h
    simp
  | cons name rest ih =>
    simp only [resolve] at h
    split at h
    · cases h
    rename_i a ha
    split at h
    · cases h
    rename_i hnew
    split at h
    · cases h
    rename_i others hothers
    cases h
    obtain ⟨hnodup, hseen, rfl⟩ := ih hothers
    refine ⟨List.nodup_cons.mpr ⟨fun hmem => hseen name hmem List.mem_cons_self, hnodup⟩,
      fun other hother => ?_, ?_⟩
    · rcases List.mem_cons.mp hother with rfl | hother
      · simpa using hnew
      · exact fun hmem => hseen other hother (List.mem_cons_of_mem _ hmem)
    · rw [List.map_cons, condition, (hm.column_of_attribute? ha).2]

/-- **A query that is built has one condition for each of its attributes**, in their order, and its
attributes are different. -/
theorem build_ok (hm : m.Resolved schema) {d : Descriptor} (h : build m names form = .ok d) :
    names.Nodup ∧ d = ⟨m.table, m.outputs, m.identifier.column, names.map condition, form⟩ := by
  unfold build at h
  split at h
  · cases h
  split at h
  · cases h
  split at h
  · cases h
  rename_i conditions hresolve
  cases h
  obtain ⟨hnodup, -, rfl⟩ := resolve_ok hm hresolve
  exact ⟨hnodup, rfl⟩

/-- **Arguments are bound to conditions in order.**  A row meets the conditions of a query with
some arguments if it meets their conjunction. -/
theorem meetsAll_zip (hnames : names.Nodup) {arguments : List Value}
    (hlength : arguments.length = names.length) (columns : List Column) :
    Table.meetsAll columns (names.map condition) (names.zip arguments) =
      conjunction columns names arguments := by
  funext row
  have hfst : (names.zip arguments).map (·.1) = names :=
    List.map_fst_zip (Nat.le_of_eq hlength.symm)
  have hconditions : names.map condition =
      (names.zip arguments).map fun entry => condition entry.1 := by
    conv_lhs => rw [← hfst, List.map_map]
    rfl
  rw [Table.meetsAll, hconditions, List.all_map, conjunction, Bool.eq_iff_iff, List.all_eq_true,
    List.all_eq_true]
  refine forall₂_congr fun (name, argument) hentry => ?_
  have hvalue : Parameters.value (names.zip arguments) name = argument.bound :=
    Parameters.value_of_mem (hfst.symm ▸ hnames) hentry
  simp only [Function.comp_apply, Table.meets, condition, hvalue]

end Descriptor

/-! ## 2. Registries -/

namespace Registry

variable {r r' : Registry} {key : String} {d : Descriptor}

theorem find?_place {entries : List (String × Descriptor)}
    (h : entries.find? (·.1 == key) = none) (other : String) :
    (place key d entries).find? (·.1 == other) =
      if key = other then some (key, d) else entries.find? (·.1 == other) := by
  induction entries with
  | nil => by_cases hk : key = other <;> simp [place, hk]
  | cons entry rest ih =>
    have hentry : (entry.1 == key) = false := by
      simpa using List.find?_eq_none.mp h entry List.mem_cons_self
    have hrest : rest.find? (·.1 == key) = none := by
      rwa [List.find?_cons, hentry] at h
    unfold place
    split
    · by_cases hk : key = other <;> simp [List.find?_cons, hk]
    · rw [List.find?_cons, List.find?_cons, ih hrest]
      by_cases hk : key = other
      · subst hk
        simp [hentry]
      · simp [hk]

/-- What is found after a registration. -/
theorem find?_insert (h : r.insert key d = .ok r') (other : String) :
    r'.find? other = if key = other then some d else r.find? other := by
  unfold insert at h
  split at h
  · cases h
  rename_i hnone
  cases h
  have hnone : r.entries.find? (·.1 == key) = none := by simpa [find?] using hnone
  unfold find?
  rw [find?_place hnone]
  split <;> rfl

/-- **A registration adds one query and keeps all others.** -/
theorem insert_ok (h : r.insert key d = .ok r') :
    r'.find? key = some d ∧ ∀ other e, r.find? other = some e → r'.find? other = some e := by
  refine ⟨by rw [find?_insert h, if_pos rfl], ?_⟩
  intro other e he
  have hne : key ≠ other := by
    rintro rfl
    simp [insert, he] at h
  rw [find?_insert h, if_neg hne, he]

end Registry

end EntityStore.Query

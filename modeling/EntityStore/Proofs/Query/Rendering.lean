import EntityStore.Proofs.Repository.Transaction
import EntityStore.Proofs.Statement.Legible
/-!
# Queries are told apart by their texts

Whatever entities and attributes are called, as long as their schemas are accepted: two queries
with the same text are the same query, of the same form, against the same table, with the same
conditions in the same order, and with the same result if they have one (`Descriptor.Same`).  Names
cannot turn one query into another, or add anything to its structure, because every text is read
back as the statement that it was made from (`Statement.read?_text`).

A text does not say whether its form is filtered.  This is told by the conditions: a query that is
built has some exactly if its form is filtered (`isFiltered_of_build`).  Nor does it say which
entity a table belongs to.  Two entities may have the same table, and then their queries have the
same texts; so the schemas may be different ones, here.
-/

namespace EntityStore.Query

variable {E F : Type}

namespace Form

/-- Whether a query of this form has a result with columns, in an order. -/
def isSelection : Form → Bool
  | .selectAll => true
  | .selectFiltered => true
  | _ => false

end Form

namespace Descriptor

variable {schema : EntitySchema E} {m : Metadata E} {names : List String} {form : Form}
variable {schema' : EntitySchema F} {m' : Metadata F} {names' : List String} {form' : Form}
variable {d d' : Descriptor}

/-- Two descriptors are the same query: they differ at most in what their form does not look at. -/
structure Same (d d' : Descriptor) : Prop where
  form : d.form = d'.form
  table : d.table = d'.table
  conditions : d.conditions = d'.conditions
  outputs : d.form.isSelection = true → d.outputs = d'.outputs
  identifierColumn : d.form.isSelection = true → d.identifierColumn = d'.identifierColumn

/-- A query that is built has conditions exactly if its form is filtered. -/
theorem isFiltered_of_build (hm : m.Resolved schema) (h : build m names form = .ok d) :
    d.form.isFiltered = !d.conditions.isEmpty := by
  obtain ⟨-, rfl⟩ := build_ok hm h
  unfold build at h
  split at h
  · cases h
  rename_i hfiltered
  split at h
  · cases h
  rename_i hunfiltered
  cases hform : form.isFiltered <;> cases names <;> simp_all

/-- The same query has the same statement. -/
theorem Same.statement (h : d.Same d') : d.statement = d'.statement := by
  obtain ⟨table, outputs, column, conditions, form⟩ := d
  obtain ⟨table', outputs', column', conditions', form'⟩ := d'
  obtain ⟨rfl, rfl, rfl, houtputs, hcolumn⟩ := h
  unfold Descriptor.statement
  cases form
  case selectAll | selectFiltered =>
    obtain rfl := houtputs rfl
    obtain rfl := hcolumn rfl
    rfl
  all_goals rfl

/-- **The statement of a query says which query it is**, if the query has conditions exactly where
its form is filtered. -/
theorem same_of_statement (hd : d.form.isFiltered = !d.conditions.isEmpty)
    (hd' : d'.form.isFiltered = !d'.conditions.isEmpty) (h : d.statement = d'.statement) :
    d.Same d' := by
  obtain ⟨table, outputs, column, conditions, form⟩ := d
  obtain ⟨table', outputs', column', conditions', form'⟩ := d'
  unfold Descriptor.statement at h
  cases form <;> cases form' <;> cases h
  case selectAll.selectAll.refl | selectFiltered.selectFiltered.refl =>
    exact ⟨rfl, rfl, rfl, fun _ => rfl, fun _ => rfl⟩
  case count.count.refl | countFiltered.countFiltered.refl | deleteAll.deleteAll.refl |
      deleteFiltered.deleteFiltered.refl =>
    exact ⟨rfl, rfl, rfl, nofun, nofun⟩
  -- One form is filtered and the other is not, but there are the same conditions.
  all_goals cases hd.trans hd'.symm

/-- **Queries of accepted schemas are told apart by their texts.**  Each text is read back as the
statement of its query, and two queries have the same text exactly if they are the same. -/
theorem text_eq_iff_same (h : Metadata.resolve schema = .ok m)
    (h' : Metadata.resolve schema' = .ok m') (hd : build m names form = .ok d)
    (hd' : build m' names' form' = .ok d') :
    Statement.read? d.text = some d.statement ∧ (d.text = d'.text ↔ d.Same d') := by
  have hm := Metadata.resolved_of_resolve h
  have hm' := Metadata.resolved_of_resolve h'
  have hlegible := legible_statement hm (Metadata.legible_of_resolve h) hd
  have hlegible' := legible_statement hm' (Metadata.legible_of_resolve h') hd'
  refine ⟨?_, ?_, fun hsame => ?_⟩
  · rw [← text_statement, Statement.read?_text hlegible]
  · rw [← text_statement, ← text_statement, Statement.text_inj hlegible hlegible']
    exact same_of_statement (isFiltered_of_build hm hd) (isFiltered_of_build hm' hd')
  · rw [← text_statement, ← text_statement, hsame.statement]

/-- The entities `Tag` and `tag` have the same table, and the same query for a label. -/
theorem text_eq_iff_same_tags : ∃ d d' : Descriptor,
    (Metadata.resolve Tags.shape.schema = .ok Tags.metadata ∧
      build Tags.metadata ["label"] .selectFiltered = .ok d) ∧
    (Metadata.resolve { Tags.shape with name := "tag" }.schema =
        .ok { Tags.metadata with entity := "tag" } ∧
      build { Tags.metadata with entity := "tag" } ["label"] .selectFiltered = .ok d') ∧
    Statement.read? d.text = some d.statement ∧ (d.text = d'.text ↔ d.Same d') := by
  obtain ⟨d, hd⟩ : ∃ d, build Tags.metadata ["label"] .selectFiltered = .ok d := ⟨_, rfl⟩
  obtain ⟨d', hd'⟩ : ∃ d', build { Tags.metadata with entity := "tag" } ["label"]
      .selectFiltered = .ok d' := ⟨_, rfl⟩
  have hresolve : Metadata.resolve Tags.shape.schema = .ok Tags.metadata := rfl
  have hresolve' : Metadata.resolve { Tags.shape with name := "tag" }.schema =
      .ok { Tags.metadata with entity := "tag" } := rfl
  exact ⟨d, d', ⟨hresolve, hd⟩, ⟨hresolve', hd'⟩, text_eq_iff_same hresolve hresolve' hd hd'⟩

end Descriptor

end EntityStore.Query

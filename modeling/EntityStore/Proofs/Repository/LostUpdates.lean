import EntityStore.Proofs.Repository.StoredRows
/-!
# Saves between which others act

A save looks the identifier up outside any transaction (`isKnown`) and writes in a transaction of
its own (`write`).  Another repository may complete operations between the two.  A save that adds
the entity has stored it, whatever was done in between; a save that replaces it has stored it if
there is still a row under the identifier, and reports the same success if there is none.

Only removals can take the row away: no save and no query of another repository does
(`Opened.occupied_runAll`).

All of this is about tables that pass no row over.  Guards can refuse rows, and so can constraints,
but none of them lets a statement succeed and keeps a row out; a column that ignores repeated values
does, and then a save that reports success has stored nothing.
-/

namespace EntityStore

namespace Repository

open Metadata

variable {E : Type} {t : EntityType E} {r r₁ r₂ : Repository E} {st : Store} {entity saved : E}
  {outcome : SaveOutcome}

/-! ## 1. The second phase -/

/-- A write of an unknown entity that succeeds has added a row for it. -/
theorem Opened.inserts_of_write (h : Opened t r) (hst : st.Sound)
    (hstrict : r.metadata.StrictIn st.committed)
    (hsaved : (r.write false entity st).result = .ok (saved, outcome)) :
    outcome = .persisted ∧ st.Idle ∧ ∃ table row,
      r.metadata.Inserts st.committed (!r.metadata.isNew entity) entity table row
          (r.write false entity st).store.committed ∧
        saved = if r.metadata.isNew entity then r.metadata.assignIdentifier entity row.key
          else entity := by
  obtain ⟨houtcome, hidle, written, db, hperform, hsaved', hstore⟩ := h.write_unknown_ok hsaved
  obtain ⟨table, row, hkey, hinserts⟩ := h.metadata.insertion_ok hst.committed hstrict hperform
  refine ⟨houtcome, hidle, table, row, ?_, ?_⟩
  · rw [hstore]
    exact hinserts
  · rw [hsaved', persisted, hkey]
    rfl

/-- A write of a known entity that succeeds has replaced the rows under its identifier, or had no
values to write. -/
theorem Opened.replaces_of_write (h : Opened t r) (hst : st.Sound)
    (hstrict : r.metadata.StrictIn st.committed)
    (hsaved : (r.write true entity st).result = .ok (saved, outcome)) :
    saved = entity ∧ outcome = .merged ∧ st.Idle ∧
      (r.metadata.valueAttributes = [] ∧ (r.write true entity st).store = st ∨
        ∃ table table', r.metadata.Replaces st.committed entity table table'
          (r.write true entity st).store.committed) := by
  obtain ⟨rfl, rfl, hidle, hdone⟩ := h.write_known_ok hsaved
  refine ⟨rfl, rfl, hidle, ?_⟩
  rcases hdone with ⟨hnone, hstore⟩ | ⟨change, written, db, hreplacement, hperform, hstore⟩
  · exact .inl ⟨replacement?_eq_none.mp hnone, hstore⟩
  · obtain ⟨table, table', hreplaces⟩ :=
      h.metadata.replacement_ok hst.committed hstrict hreplacement hperform
    refine .inr ⟨table, table', ?_⟩
    rw [hstore]
    exact hreplaces

/-- **A write of a known entity stores it where there is a row for it**, and does nothing where
there is none. -/
theorem Opened.hasRow_write (h : Opened t r) (hst : st.Sound)
    (hstrict : r.metadata.StrictIn st.committed)
    (hcolumn : r.metadata.HasIdentifier st.committed)
    (hsaved : (r.write true entity st).result = .ok (saved, outcome)) :
    let m := r.metadata
    let under := m.IsUnder (m.identifierValue entity)
    let after := (r.write true entity st).store.committed
    (m.HasRow after (fun columns row => under columns row ∧ m.ShowsValues entity columns row) ↔
        m.HasRow st.committed under) ∧
      (¬m.HasRow st.committed under → after.table? m.table = st.committed.table? m.table) := by
  intro m under after
  obtain ⟨-, -, -, hdone⟩ := h.replaces_of_write hst hstrict hsaved
  rcases hdone with ⟨hnone, hstore⟩ | ⟨table, table', hreplaces⟩
  · -- There are no values, so that every row shows them.
    have hafter : after = st.committed := congrArg Store.committed hstore
    rw [hafter]
    refine ⟨⟨?_, ?_⟩, fun _ => rfl⟩
    · intro hrow
      exact hrow.mono fun _ _ hboth => hboth.1
    · intro hrow
      refine hrow.mono fun _ _ hunder => ⟨hunder, ?_⟩
      intro a ha
      rw [hnone] at ha
      cases ha
  · obtain ⟨c, hc⟩ := hcolumn table hreplaces.table
    refine ⟨hreplaces.hasRow_iff hc, ?_⟩
    intro hgone
    rw [hreplaces.found, hreplaces.table, hreplaces.unchanged]
    intro row hrow hunder
    exact hgone ((hasRow_table hreplaces.table).mpr ⟨row, hrow, hunder⟩)

/-! ## 2. Between the phases -/

/-- A sound store that has a row under an identifier, and a column for it, in a table that passes no
row over. -/
structure Occupied (m : Metadata E) (identifier : Value) (st : Store) : Prop where
  sound : st.Sound
  strict : m.StrictIn st.committed
  column : m.HasIdentifier st.committed
  row : m.HasRow st.committed (m.IsUnder identifier)

/-- An operation that is no removal leaves a row under every identifier that has one. -/
theorem Opened.occupied_request (h : Opened t r) {q : Request E} (hq : q.removes = false)
    {identifier : Value} (hst : Occupied r.metadata identifier st) :
    Occupied r.metadata identifier (q.run r st).store := by
  have hlater := h.later_request q st
  refine ⟨h.sound_request hst.sound q, hst.strict.later hlater, hst.column.later hlater, ?_⟩
  cases q with
  | deleteBy key arguments => cases hq
  | findBy key arguments => exact hst.row
  | countBy key arguments => exact hst.row
  | basic call =>
    cases call with
    | deleteById identifier => cases hq
    | deleteAll => cases hq
    | findById identifier => exact hst.row
    | findAll => exact hst.row
    | count => exact hst.row
    | save entity =>
      show r.metadata.HasRow (r.saveWithOutcome entity st).store.committed _
      rcases h.store_save entity st with hstore | ⟨known, _, _, _, _, hsaving, hperform, hstore⟩
      · rw [hstore]
        exact hst.row
      · rw [hstore]
        exact hasRow_saving h.metadata hst.sound.committed hst.strict hsaving hperform hst.column
          hst.row

/-- **Only removals take the last row under an identifier away.** -/
theorem Opened.occupied_runAll (h : Opened t r) {requests : List (Request E)}
    (hkeep : ∀ q ∈ requests, q.removes = false) {identifier : Value}
    (hst : Occupied r.metadata identifier st) :
    Occupied r.metadata identifier (Request.runAll r st requests).2.2 := by
  refine h.runAll ?_ hst
  intro q hq r' st' h' hst'
  rw [h.metadata.unique h'.metadata] at hst' ⊢
  exact h'.occupied_request (hkeep q hq) hst'

/-! ## 3. What is stored -/

/-- **A save that succeeds is stored, unless somebody has removed the entity meanwhile.**  Let two
repositories of a type be used on one store, whose table, if there is one, passes no row over and
has a column for the identifier; if the entity comes without an identifier, let keys be written
where the identifier is read.  Let the first repository have looked the entity up, let the second
then complete any operations, and let the first save the entity with success, so that what comes
back has an identifier.

* If it was added, there is a row that shows its identifier and its values.
* If it was merged, there is a row with its values under its identifier exactly if there was any row
  under the identifier when the transaction began.  If there was none the table is as it was, and
  the save has stored nothing.
* There was one if no operation of the second repository was a removal. -/
theorem stored_unless_removed (h₁ : Reachable t r₁) (h₂ : Reachable t r₂) (hst : st.Reachable)
    {known : Bool} (hknown : r₁.isKnown entity st = .ok known) (requests : List (Request E))
    (hsaved : (r₁.write known entity (Request.runAll r₂ st requests).2.2).result =
      .ok (saved, outcome))
    (hpresent : (r₁.metadata.identifierValue saved).isAbsentIdentifier = false)
    (hassign : r₁.metadata.isNew entity = true →
      ∀ assign, r₁.metadata.assigner = some assign → r₁.metadata.WritesKeys assign)
    (hstrict : r₁.metadata.StrictIn st.committed)
    (hidentifies : ∀ table, st.committed.table? r₁.metadata.table = some table →
      r₁.metadata.Identifies entity table.definition) :
    let m := r₁.metadata
    let before := (Request.runAll r₂ st requests).2.2
    let after := (r₁.write known entity before).store
    (outcome = .persisted →
        m.HasRow after.committed fun columns row =>
          Table.Shows columns row m.identifier.column (m.identifierValue saved) ∧
            m.ShowsValues saved columns row) ∧
      (outcome = .merged → saved = entity ∧
        ((m.HasRow after.committed fun columns row =>
            m.IsUnder (m.identifierValue saved) columns row ∧ m.ShowsValues saved columns row) ↔
          m.HasRow before.committed (m.IsUnder (m.identifierValue saved))) ∧
        (¬m.HasRow before.committed (m.IsUnder (m.identifierValue saved)) →
          after.committed.table? m.table = before.committed.table? m.table) ∧
        ((∀ q ∈ requests, q.removes = false) →
          m.HasRow before.committed (m.IsUnder (m.identifierValue saved)))) := by
  intro m before after
  have hopened := h₁.opened
  have hsound : before.Sound := h₂.opened.sound_runAll requests hst.sound
  have hlater : st.committed.Later before.committed := h₂.opened.later_runAll requests st
  have hstrict' : m.StrictIn before.committed := hstrict.later hlater
  have hcolumn : m.HasIdentifier st.committed := by
    intro table htable
    obtain ⟨c, hc, -⟩ := hidentifies table htable
    exact ⟨c, hc⟩
  cases known with
  | false =>
    obtain ⟨rfl, -, table, row, hinserts, hsaved'⟩ :=
      hopened.inserts_of_write hsound hstrict' hsaved
    -- The operations in between did not change the definition of the table.
    obtain ⟨table₀, htable₀, hgrown⟩ := hlater.table?_before hinserts.table
    have hdefinition : m.Identifies entity table.definition := by
      rw [hgrown.definition]
      exact hidentifies table₀ htable₀
    have hshown := hinserts.shows_saved hopened.metadata hassign hdefinition hsaved' hpresent
    exact ⟨fun _ => (hasRow_table hinserts.found).mpr ⟨row, Table.mem_add.mpr (.inl rfl), hshown⟩,
      nofun⟩
  | true =>
    obtain ⟨hiff, hgone⟩ := hopened.hasRow_write hsound hstrict' (hcolumn.later hlater) hsaved
    obtain ⟨rfl, rfl, hidle, -⟩ := hopened.replaces_of_write hsound hstrict' hsaved
    refine ⟨nofun, fun _ => ⟨rfl, hiff, hgone, ?_⟩⟩
    intro hkeep
    have hidle₀ : st.Idle := (h₂.opened.idle_runAll requests st).mp hidle
    have hfound := hasRow_of_isKnown hidle₀ hknown
    have hmetadata : r₁.metadata = r₂.metadata := hopened.metadata.unique h₂.opened.metadata
    rw [hmetadata] at hfound
    rw [show m = r₂.metadata from hmetadata] at hcolumn ⊢
    rw [hmetadata] at hstrict
    exact (h₂.opened.occupied_runAll hkeep ⟨hst.sound, hstrict, hcolumn, hfound⟩).row

end Repository

/-! ## 4. Tags in shared memory -/

namespace Tags

/-- A repository of tags in shared memory, through a session of its own. -/
def member (id : Nat) : Repository Record :=
  ⟨⟨id, "shared", .create, .shared "tags", true, 5000, 0⟩, shape.entityType, metadata, .empty, .new⟩

theorem reachable_member (id : Nat) : Repository.Reachable shape.entityType (member id) :=
  .new (show (Repository.new shape.entityType (member id).session .empty).result = .ok _ from rfl)

/-- The table of two tags is that of their repository. -/
theorem definition_twoTags (table : Table)
    (htable : twoTags.committed.table? metadata.table = some table) :
    table.definition = metadata.tableDefinition := by
  have hdefinition : twoTags.committed.table? metadata.table =
      some ⟨metadata.tableDefinition, [⟨1, tag "a" "x"⟩, ⟨2, tag "b" "y"⟩], 2, []⟩ := rfl
  cases hdefinition.symm.trans htable
  rfl

/-- It passes no tag over. -/
theorem strictIn_twoTags : metadata.StrictIn twoTags.committed := by
  intro table htable
  rw [definition_twoTags table htable]
  exact metadata.strict_tableDefinition

/-- It has a column for their codes, and no tag comes without a code. -/
theorem identifies_twoTags (label : String) (table : Table)
    (htable : twoTags.committed.table? metadata.table = some table) :
    metadata.Identifies (tag "a" label) table.definition := by
  rw [definition_twoTags table htable]
  exact ⟨_, rfl, nofun⟩

end Tags

namespace Repository

/-- A tag is given another label.  Meanwhile another repository has given it a third one, which is
replaced. -/
theorem stored_unless_removed_tags :
    let before := (Request.runAll (Tags.member 2) Tags.twoTags
      [.basic (.save (Tags.tag "a" "w"))]).2.2
    let saved := (Tags.member 1).write true (Tags.tag "a" "z") before
    (Tags.member 1).isKnown (Tags.tag "a" "z") Tags.twoTags = .ok true ∧
      saved.result = .ok (Tags.tag "a" "z", .merged) ∧
      Tags.metadata.HasRow saved.store.committed fun columns row =>
        Tags.metadata.IsUnder (.text "a") columns row ∧
          Tags.metadata.ShowsValues (Tags.tag "a" "z") columns row := by
  intro before saved
  have hknown : (Tags.member 1).isKnown (Tags.tag "a" "z") Tags.twoTags = .ok true := rfl
  have hsaved : saved.result = .ok (Tags.tag "a" "z", .merged) := rfl
  have hkeep : ∀ q ∈ [Request.basic (.save (Tags.tag "a" "w"))], q.removes = false := by
    intro q hq
    rw [List.mem_singleton.mp hq]
    rfl
  obtain ⟨-, hmerged⟩ := stored_unless_removed (Tags.reachable_member 1) (Tags.reachable_member 2)
    Tags.reachable_twoTags hknown _ hsaved rfl nofun Tags.strictIn_twoTags
    (Tags.identifies_twoTags "z")
  obtain ⟨-, hiff, -, hkept⟩ := hmerged rfl
  exact ⟨hknown, hsaved, hiff.mpr (hkept hkeep)⟩

/-- A tag is given another label.  Meanwhile another repository has removed it: the save succeeds
and reports that the tag was merged, and the tag is gone. -/
theorem lost_update :
    let before := (Request.runAll (Tags.member 2) Tags.twoTags
      [.basic (.deleteById (.text "a"))]).2.2
    let saved := (Tags.member 1).write true (Tags.tag "a" "z") before
    Reachable Tags.shape.entityType (Tags.member 1) ∧
      Reachable Tags.shape.entityType (Tags.member 2) ∧ Tags.twoTags.Reachable ∧
      (Tags.member 1).isKnown (Tags.tag "a" "z") Tags.twoTags = .ok true ∧
      saved.result = .ok (Tags.tag "a" "z", .merged) ∧
      saved.repository.findById (.text "a") saved.store = .ok none ∧
      saved.store.committed.tables.map (·.rows) = [[⟨2, Tags.tag "b" "y"⟩]] :=
  ⟨Tags.reachable_member 1, Tags.reachable_member 2, Tags.reachable_twoTags, rfl, rfl, rfl, rfl⟩

end Repository

end EntityStore

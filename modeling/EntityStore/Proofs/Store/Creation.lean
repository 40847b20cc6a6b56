import EntityStore.Proofs.Store.Soundness
/-!
# Creating tables

A session that creates a table for which a definition is given does one of three things: it is told
why it cannot, it finds the name taken and does nothing, or the table is there, without rows, after
all others (`Store.alter_createTable`).

References are what could stand in the way: a table may be created where references have been
leading to its name all along.  But they were leading nowhere, and an empty table has no value to
lead to either, so that no orphan comes or goes (`orphans_withTable`).
-/

namespace EntityStore

/-! ## 1. Databases -/

namespace Database

variable {db : Database} {definition : TableDefinition} {t : Table}

/-- Creating a table under a name that is not reserved. -/
theorem alter_createTable (hreserved : isReserved definition.name = false) :
    db.alter (.createTable definition true) =
      .ok (if db.isTaken definition.name then db else db.withTable definition) := by
  simp only [Database.alter, createTable, hreserved, Bool.false_eq_true, if_false, if_true]
  split <;> rfl

theorem table?_withTable (db : Database) (definition : TableDefinition) (name : String) :
    (db.withTable definition).table? name = (db.table? name).or
      (if Name.same definition.name name then some (.new definition db.draws) else none) := by
  rw [table?, withTable, List.find?_append, List.find?_singleton]
  rfl

/-- What stands under a name of a table or view is left alone. -/
theorem table?_withTable_of_some {name : String} (h : db.table? name = some t) :
    (db.withTable definition).table? name = some t := by
  rw [table?_withTable, h, Option.some_or]

theorem isTaken_withTable (db : Database) (definition : TableDefinition) :
    (db.withTable definition).isTaken definition.name = true := by
  simp only [isTaken, table?_withTable, Name.same_refl, if_true]
  cases db.table? definition.name <;> rfl

theorem isTaken_congr {name other : String} (h : Name.same name other = true) :
    db.isTaken name = db.isTaken other := by
  have hfold : Name.fold name = Name.fold other := eq_of_beq h
  simp only [isTaken, table?, view?, Name.same, hfold]

/-- A reference does not lead to a table without rows, nor to one that is not there. -/
theorem leadsSomewhere_withTable (h : db.isTaken definition.name = false) (t : Table)
    (r : Reference) (value : Value) :
    (db.withTable definition).leadsSomewhere t r value = db.leadsSomewhere t r value := by
  by_cases hname : Name.same definition.name r.table = true
  · have hvacant : db.table? r.table = none ∧ db.view? r.table = none := by
      rw [isTaken_congr hname] at h
      simpa [isTaken] using h
    have hfound : (db.withTable definition).table? r.table = some (.new definition db.draws) := by
      rw [table?_withTable, hvacant.1, if_pos hname, Option.none_or]
    have hbefore : db.leadsSomewhere t r value = false := by
      simp [leadsSomewhere, referent, hvacant]
    rw [hbefore, leadsSomewhere, referent, hfound]
    dsimp only
    split
    · rfl
    · rename_i parent column hreferent
      split at hreferent <;> cases hreferent
      rfl
  · have hother : (db.withTable definition).table? r.table = db.table? r.table := by
      rw [table?_withTable, if_neg hname, Option.or_none]
    have hview : (db.withTable definition).view? r.table = db.view? r.table := rfl
    simp only [leadsSomewhere, referent, hother, hview]

theorem references_eq_nil (h : ∀ c ∈ t.columns, c.reference = none) : references t = [] :=
  List.filterMap_eq_nil_iff.mpr fun c hc => by rw [h c hc, Option.map_none]

/-- A table without references has no orphans. -/
theorem orphansIn_of_no_references (h : ∀ c ∈ t.columns, c.reference = none) (deferred : Bool) :
    db.orphansIn deferred t = 0 := by
  simp [orphansIn, references_eq_nil h]

/-- **No orphan comes or goes** when a table without references is created. -/
theorem orphans_withTable (h : db.isTaken definition.name = false)
    (href : ∀ c ∈ definition.columns, c.reference = none) (deferred : Bool) :
    (db.withTable definition).orphans deferred = db.orphans deferred := by
  have hsame : (db.withTable definition).orphansIn deferred = db.orphansIn deferred := by
    funext t
    have horphan : ∀ column r, (db.withTable definition).isOrphan t column r =
        db.isOrphan t column r := by
      intro column r
      funext row
      simp only [isOrphan, leadsSomewhere_withTable h]
    simp only [orphansIn, horphan]
  have hnew : db.orphansIn deferred (.new definition db.draws) = 0 :=
    orphansIn_of_no_references (t := .new definition db.draws) href deferred
  simp only [orphans, hsame]
  simp [withTable, hnew]

end Database

/-! ## 2. Stores -/

namespace Store

variable {st : Store} {s s' : Session} {definition : TableDefinition}

/-- The store with a new table, in the transaction of a session or without one. -/
def withTable (st : Store) (s : Session) (definition : TableDefinition) : Store :=
  match st.own? s with
  | some t =>
    { st with writer := some { t with content := t.content.withTable definition, altered := true } }
  | none => { st with committed := st.committed.withTable definition }

theorem own?_eq_some {t : Transaction} :
    st.own? s = some t ↔ st.writer = some t ∧ t.owner = s.id := by
  simp [own?, Option.filter_eq_some_iff]

/-- A session that is inside a transaction keeps all others out of it. -/
theorem other?_of_own?_some {t : Transaction} (h : st.own? s = some t) : st.other? s = none := by
  obtain ⟨hwriter, howner⟩ := own?_eq_some.mp h
  simp [other?, hwriter, howner]

/-- A transaction that is not the session's own is that of another. -/
theorem other?_of_own?_none (h : st.own? s = none) : st.other? s = st.writer := by
  unfold own? at h
  unfold other?
  cases hwriter : st.writer with
  | none => rfl
  | some t =>
    rw [hwriter] at h
    simpa [Option.filter] using h

theorem owedAfter_of_eq {owed : Nat} {before after : Database}
    (h : after.orphans true = before.orphans true) : owedAfter s owed before after = owed := by
  unfold owedAfter
  split
  · omega
  · rfl

/-- **A session creates a table**, unless one is there: what it is told, and the store after it. -/
theorem alter_createTable (st : Store) (s : Session)
    (href : ∀ c ∈ definition.columns, c.reference = none) :
    st.alter s (.createTable definition true) =
      match st.refusal? s with
      | some fault => (.error fault, st)
      | none =>
        if Database.isReserved definition.name then (.error (.reservedName definition.name), st)
        else if (st.seen s).isTaken definition.name then (.ok (), st)
        else if (st.other? s).isSome then (.error (lockFault s), st)
        else (.ok (), st.withTable s definition) := by
  unfold alter
  cases hrefusal : st.refusal? s with
  | some fault => rfl
  | none =>
    dsimp only
    by_cases hreserved : Database.isReserved definition.name = true
    · have hfault : ∀ db : Database, db.alter (.createTable definition true) =
          .error (.reservedName definition.name) := by
        intro db
        simp only [Database.alter, Database.createTable, hreserved, if_true]
      simp only [hreserved, if_true, alterInside, alterAlone, hfault]
      split <;> rfl
    rw [Bool.not_eq_true] at hreserved
    simp only [hreserved, Bool.false_eq_true, if_false]
    cases hown : st.own? s with
    | some t =>
      obtain ⟨hwriter, -⟩ := own?_eq_some.mp hown
      simp only [seen, hown, other?_of_own?_some hown, alterInside,
        Database.alter_createTable hreserved, isIdle]
      by_cases htaken : t.content.isTaken definition.name = true
      · simp [htaken, leavesOrphans, owedAfter_of_eq, ← hwriter]
      · rw [Bool.not_eq_true] at htaken
        simp [htaken, leavesOrphans, owedAfter_of_eq, Database.orphans_withTable htaken href,
          withTable, hown]
    | none =>
      simp only [seen, hown, other?_of_own?_none hown, alterAlone,
        Database.alter_createTable hreserved, isIdle]
      by_cases htaken : st.committed.isTaken definition.name = true
      · simp only [htaken, if_true]
      · rw [Bool.not_eq_true] at htaken
        simp [htaken, leavesOrphans, owedAfter_of_eq, Database.orphans_withTable htaken href,
          withTable, hown]

/-- A session sees the new table, or it goes on seeing what it saw. -/
theorem seen_withTable (st : Store) (s s' : Session) (definition : TableDefinition) :
    (st.withTable s definition).seen s' = st.seen s' ∨
      (st.withTable s definition).seen s' = (st.seen s').withTable definition := by
  unfold withTable
  cases hown : st.own? s with
  | some t =>
    obtain ⟨hwriter, -⟩ := own?_eq_some.mp hown
    by_cases howner : t.owner = s'.id
    · exact .inr (by simp [seen, own?, hwriter, howner, Option.filter_some])
    · exact .inl (by simp [seen, own?, hwriter, howner, Option.filter_some])
  | none =>
    cases hown' : st.own? s' with
    | some t =>
      refine .inl ?_
      unfold own? at hown'
      simp [seen, own?, hown']
    | none =>
      refine .inr ?_
      unfold own? at hown'
      simp [seen, own?, hown']

/-- A session sees the table that is created in its own transaction, or without one where it has
none. -/
theorem seen_withTable_of_own? (h : st.own? s' = st.own? s) (definition : TableDefinition) :
    (st.withTable s definition).seen s' = (st.seen s).withTable definition := by
  unfold withTable
  cases hown : st.own? s with
  | some t =>
    obtain ⟨-, howner⟩ := own?_eq_some.mp (h.trans hown)
    rw [seen, seen, hown]
    simp [own?, howner, Option.filter_some]
  | none =>
    have hown' := h.trans hown
    unfold own? at hown'
    rw [seen, seen, hown]
    simp [own?, hown']

@[simp] theorem readable_withTable (st : Store) (s : Session) (definition : TableDefinition) :
    (st.withTable s definition).readable = st.readable := by
  unfold withTable
  split <;> rfl

/-- Nobody else is in a transaction. -/
theorem other?_eq_none_iff :
    st.other? s = none ↔ ∀ owner, st.writer.map (·.owner) = some owner → owner = s.id := by
  simp [other?, Option.filter_eq_none_iff]

/-- No transaction is begun or ended. -/
theorem owner_withTable (st : Store) (s : Session) (definition : TableDefinition) :
    (st.withTable s definition).writer.map (·.owner) = st.writer.map (·.owner) := by
  unfold withTable
  cases hown : st.own? s with
  | some t => simp [(own?_eq_some.mp hown).1]
  | none => rfl

end Store

end EntityStore

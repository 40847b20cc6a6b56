import EntityStore.Environment
import Mathlib
/-!
# Stores in their places

An environment keeps each store in a place.  What is put in one place leaves the other places as
they are, and opening a session leaves every store as it is.  Opening never touches the registered
units, and a session that is opened has the place and the settings of its unit (`connect_opened`).
-/

namespace EntityStore.Environment

variable {env : Environment} {u : PersistenceUnit} {place : Place} {s : Session}

/-! ## 1. Looking into places -/

theorem storeAt_put (env : Environment) (place : Place) (st : Store) :
    (env.put place st).storeAt place = st := by
  simp [storeAt, put]

theorem storeAt_dropped (env : Environment) (place : Place) :
    ({ env with stores := env.storesExcept place } : Environment).storeAt place = .empty := by
  have hnone : (env.storesExcept place).lookup place = none := by
    rw [List.lookup_eq_none_iff]
    intro entry hentry
    have hne : entry.1 ≠ place := by simpa using (List.mem_filter.mp hentry).2
    simpa using hne.symm
  simp [storeAt, hnone]

/-- What is kept in other places is still found there. -/
theorem lookup_storesExcept {other : Place} (h : other ≠ place) :
    (env.storesExcept place).lookup other = env.stores.lookup other := by
  unfold storesExcept
  induction env.stores with
  | nil => rfl
  | cons entry rest ih =>
    obtain ⟨at', st⟩ := entry
    by_cases hplace : at' = place
    · subst hplace
      simpa [List.lookup_cons, beq_false_of_ne h] using ih
    · simp [hplace, List.lookup_cons, ih]

theorem storeAt_put_of_ne {other : Place} (h : other ≠ place) (st : Store) :
    (env.put place st).storeAt other = env.storeAt other := by
  simp [storeAt, put, List.lookup_cons, beq_false_of_ne h, lookup_storesExcept h]

/-- A further session changes no store. -/
theorem storeAt_enter (env : Environment) (s : Session) (other : Place) :
    (env.enter s).storeAt other = env.storeAt other := by
  rcases eq_or_ne other s.place with rfl | hne
  · simp [storeAt, enter, store]
  · simp [storeAt, enter, List.lookup_cons, beq_false_of_ne hne, lookup_storesExcept hne]

/-- Closing a session changes no store but its own. -/
theorem storeAt_close_of_ne {other : Place} (h : other ≠ s.place) :
    (env.close s).storeAt other = env.storeAt other := by
  have hput : (env.put s.place ((env.store s).leave s)).storeAt other = env.storeAt other :=
    storeAt_put_of_ne h _
  unfold close
  dsimp only
  split
  · exact hput
  · simpa [storeAt, lookup_storesExcept h] using hput

/-! ## 2. Opening sessions -/

/-- The session that is opened next on a unit, if it can be opened in a place. -/
def sessionOf (env : Environment) (u : PersistenceUnit) (place : Place) : Session :=
  ⟨env.nextId, u.name, u.schemaMode, place, u.foreignKeys, u.busyTimeout, 0⟩

/-- An opening gives a session with the unit's place and settings, or it changes nothing. -/
theorem connect_cases (env : Environment) (u : PersistenceUnit) :
    (∃ place, env.placeOf u = .ok place ∧
      (env.connect u).outcome = .opened (env.sessionOf u place) ∧
      (env.connect u).environment = env.enter (env.sessionOf u place)) ∨
    ((∀ s, (env.connect u).outcome ≠ .opened s) ∧ (env.connect u).environment = env) := by
  unfold connect
  dsimp only
  split
  · exact .inr ⟨by simp, rfl⟩
  rename_i place hplace
  split
  · exact .inr ⟨by simp, rfl⟩
  split
  · exact .inr ⟨by simp, rfl⟩
  · exact .inl ⟨place, hplace, rfl, rfl⟩

/-- A session that is opened on a unit has the unit's place and settings. -/
theorem connect_opened (h : (env.connect u).outcome = .opened s) :
    env.placeOf u = .ok s.place ∧ s = env.sessionOf u s.place ∧
      (env.connect u).environment = env.enter s := by
  rcases env.connect_cases u with ⟨place, hplace, hopened, henv⟩ | ⟨hfailed, -⟩
  · rw [hopened] at h
    cases h
    exact ⟨hplace, rfl, henv⟩
  · exact absurd h (hfailed s)

theorem units_connect (env : Environment) (u : PersistenceUnit) :
    (env.connect u).environment.units = env.units := by
  rcases env.connect_cases u with ⟨_, -, -, henv⟩ | ⟨-, henv⟩
  · rw [henv]
    rfl
  · rw [henv]

theorem storeAt_connect (env : Environment) (u : PersistenceUnit) (other : Place) :
    (env.connect u).environment.storeAt other = env.storeAt other := by
  rcases env.connect_cases u with ⟨_, -, -, henv⟩ | ⟨-, henv⟩
  · rw [henv]
    exact storeAt_enter _ _ _
  · rw [henv]

/-- A session can be opened in a place in which no transaction is open, unless its timeout is too
long. -/
theorem connect_of_closed (hplace : env.placeOf u = .ok place)
    (hclosed : (env.storeAt place).writer = none) (htimeout : u.busyTimeout ≤ largestTimeout) :
    env.connect u = ⟨.opened (env.sessionOf u place), env.enter (env.sessionOf u place),
      [.sessionOpening u.storage.label, .sessionOpened u.storage.label]⟩ := by
  have hbarrier : (env.store (env.sessionOf u place)).barrier? (env.sessionOf u place) = none := by
    simp [Store.barrier?, Store.other?, store, sessionOf, hclosed]
  simp only [connect, hplace]
  rw [show (⟨env.nextId, u.name, u.schemaMode, place, u.foreignKeys, u.busyTimeout, 0⟩ : Session) =
    env.sessionOf u place from rfl, hbarrier]
  exact if_neg (by omega)

end EntityStore.Environment

import EntityStore.Proofs.Environment.Places
/-!
# What the next program finds

Between two programs an environment is at rest (`AtRest`): no unit is registered and no session is
open, and all stores are files.  A file on which no transaction is open is found again as it was
left (`storeAt_restart`), and everything else is gone.
-/

namespace EntityStore.Environment

variable {env env' : Environment} {path : String} {file : List Component} {s : Session}

/-! ## 1. Files -/

/-- Closing a session leaves a file as it is on which no transaction is open. -/
theorem storeAt_close_file (h : (env.storeAt (.file file)).writer = none) :
    (env.close s).storeAt (.file file) = env.storeAt (.file file) := by
  by_cases hplace : Place.file file = s.place
  · have hleave : (env.store s).leave s = env.store s := by
      have hclosed : (env.store s).writer = none := by rwa [store, ← hplace]
      simp [Store.leave, Store.rollback, Store.own?, hclosed]
    have hput : (env.put s.place ((env.store s).leave s)).storeAt (.file file) =
        env.storeAt (.file file) := by
      rw [hleave, hplace, storeAt_put, store]
    have hlives : ∀ e : Environment, e.outlives s.place = true := fun e => by
      rw [← hplace]
      rfl
    unfold close
    dsimp only
    rw [if_pos (hlives _)]
    exact hput
  · exact storeAt_close_of_ne hplace

theorem storeAt_closeAll (sessions : List Session)
    (h : (env.storeAt (.file file)).writer = none) :
    (sessions.foldl close env).storeAt (.file file) = env.storeAt (.file file) := by
  induction sessions generalizing env with
  | nil => rfl
  | cons s rest ih =>
    have hclose := storeAt_close_file (s := s) h
    rw [List.foldl_cons, ih (by rwa [hclose]), hclose]

/-- What lies in files is looked up among the files. -/
theorem lookup_files (stores : List (Place × Store)) :
    (stores.filter fun entry => isFile entry.1).lookup (.file file) =
      stores.lookup (.file file) := by
  induction stores with
  | nil => rfl
  | cons entry rest ih =>
    obtain ⟨place, st⟩ := entry
    rw [List.filter_cons]
    split
    · rw [List.lookup_cons, List.lookup_cons, ih]
    · rename_i hfile
      have hne : Place.file file ≠ place := fun hplace => hfile (hplace ▸ rfl)
      rw [List.lookup_cons, beq_false_of_ne hne, ih]

/-- **The next program finds a file as it was left**, if no transaction was open on it. -/
theorem storeAt_restart (h : (env.storeAt (.file file)).writer = none) :
    env.restart.storeAt (.file file) = env.storeAt (.file file) := by
  rw [← storeAt_closeAll env.sessions h]
  exact congrArg (Option.getD · Store.empty) (lookup_files _)

/-! ## 2. Environments at rest -/

/-- Nothing is open or registered, and only files are kept. -/
def AtRest (env : Environment) : Prop :=
  env.restart = env

theorem atRest_empty (directories : List (List Component)) : (empty directories).AtRest := rfl

theorem atRest_restart (env : Environment) : env.restart.AtRest := by
  simp only [AtRest, restart, List.foldl_nil, List.filter_filter, Bool.and_self]

theorem AtRest.units (h : env.AtRest) : env.units = .empty := by
  rw [← show env.restart = env from h]
  rfl

/-- What was in memory is gone. -/
theorem AtRest.storeAt_shared (h : env.AtRest) (address : String) :
    env.storeAt (.shared address) = .empty := by
  have hnone : env.restart.stores.lookup (.shared address) = none := by
    rw [List.lookup_eq_none_iff]
    intro entry hentry
    have hfile := (List.mem_filter.mp hentry).2
    have hne : Place.shared address ≠ entry.1 := by
      intro hplace
      rw [← hplace] at hfile
      cases hfile
    simpa using hne
  rw [← show env.restart = env from h, storeAt, hnone]
  rfl

/-! ## 3. Where files lie -/

/-- The empty path is no file. -/
theorem path_ne_of_file (h : env.placeOfPath path = .ok (.file file)) : path ≠ "" := by
  rintro rfl
  unfold placeOfPath at h
  split at h
  · cases h
  · simp at h

/-- Where a file lies depends on the directories alone. -/
theorem placeOfPath_congr (hsame : env'.directories = env.directories)
    (h : env.placeOfPath path = .ok (.file file)) : env'.placeOfPath path = .ok (.file file) := by
  unfold placeOfPath at h ⊢
  split at h
  · cases h
  split at h
  · cases h
  · rename_i hmemory
    rw [if_neg hmemory, hsame]
    exact h

end EntityStore.Environment

import EntityStore.Proofs.Environment.Places
/-!
# The registry is written once

Units are entered into the registry in two ways: they are registered, or the default unit is looked
up before any unit has its name.  An entry is for good.  So what a name stands for is settled by the
first call that enters a unit under it, whatever is called later (`find?_afterAll`), and calls about
different names do not get into each other's way.

Main statement: `registry_write_once`, for all sequences of registrations, look-ups and openings of
sessions.  A call that fails enters nothing.  The one call that could is an opening that has looked
up the default unit and is then refused its session, and this does not happen as long as no
transaction is open on the store of the default unit.
-/

namespace EntityStore

/-! ## 1. Valid units -/

namespace PersistenceUnit

/-- A unit that may be registered: its name is not empty and made of ASCII letters, digits, `-`, `_`
and `.`, and if it is in a file then the path is not empty. -/
structure Valid (u : PersistenceUnit) : Prop where
  name : u.name ≠ ""
  characters : ∀ c ∈ u.name.toList, ('a' ≤ c ∧ c ≤ 'z') ∨ ('A' ≤ c ∧ c ≤ 'Z') ∨
    ('0' ≤ c ∧ c ≤ '9') ∨ c = '-' ∨ c = '_' ∨ c = '.'
  path : u.storage ≠ .file ""

theorem isNameChar_iff (c : Char) :
    isNameChar c = true ↔ ('a' ≤ c ∧ c ≤ 'z') ∨ ('A' ≤ c ∧ c ≤ 'Z') ∨ ('0' ≤ c ∧ c ≤ '9') ∨
      c = '-' ∨ c = '_' ∨ c = '.' := by
  simp only [isNameChar, Char.isAlphanum, Char.isAlpha, Char.isUpper, Char.isLower, Char.isDigit,
    Bool.or_eq_true, Bool.and_eq_true, decide_eq_true_eq, Char.le_def, ge_iff_le]
  tauto

/-- The check for blank names refuses nothing else than empty names: no blank may stand in a
name. -/
theorem isBlank_of_isNameChar {c : Char} (h : isNameChar c = true) : isBlank c = false := by
  rw [isNameChar_iff] at h
  simp only [Char.le_def, UInt32.le_iff_toNat_le] at h
  change (97 ≤ c.toNat ∧ c.toNat ≤ 122) ∨ (65 ≤ c.toNat ∧ c.toNat ≤ 90) ∨
    (48 ≤ c.toNat ∧ c.toNat ≤ 57) ∨ c = '-' ∨ c = '_' ∨ c = '.' at h
  rcases h with h | h | h | rfl | rfl | rfl
  · simp only [isBlank, Bool.or_eq_false_iff, Bool.and_eq_false_iff, decide_eq_false_iff_not]
    omega
  · simp only [isBlank, Bool.or_eq_false_iff, Bool.and_eq_false_iff, decide_eq_false_iff_not]
    omega
  · simp only [isBlank, Bool.or_eq_false_iff, Bool.and_eq_false_iff, decide_eq_false_iff_not]
    omega
  · decide
  · decide
  · decide

theorem valid_iff {u : PersistenceUnit} : u.Valid ↔ u.defect? = none := by
  have hempty : u.name = "" ↔ u.name.toList = [] := by simp
  constructor
  · intro h
    have hchars : u.name.toList.all isNameChar = true :=
      List.all_eq_true.mpr fun c hc => (isNameChar_iff c).mpr (h.characters c hc)
    have hblank : u.name.toList.all isBlank = false := by
      obtain ⟨c, rest, hname⟩ := List.exists_cons_of_ne_nil (mt hempty.mpr h.name)
      have hc : isNameChar c = true := List.all_eq_true.mp hchars c (by simp [hname])
      simp [hname, isBlank_of_isNameChar hc]
    simp [defect?, hchars, hblank, h.path]
  · intro h
    unfold defect? at h
    split at h
    · cases h
    rename_i hblank
    split at h
    · cases h
    rename_i hchars
    split at h
    · cases h
    rename_i hpath
    refine ⟨fun hname => hblank (by simp [hempty.mp hname]), ?_, hpath⟩
    intro c hc
    simp only [Bool.not_eq_true', Bool.not_eq_false, List.all_eq_true] at hchars
    exact (isNameChar_iff c).mp (hchars c hc)

theorem same_refl (u : PersistenceUnit) : u.same u = true := by
  have hstorage : u.storage.same u.storage = true := by
    cases u.storage with
    | memory => rfl
    | sharedMemory => rfl
    | file path => simp [Storage.same, Path.same]
  simp [same, hstorage]

theorem valid_default : default.Valid :=
  valid_iff.mpr (by decide)

end PersistenceUnit

/-! ## 2. Registries -/

namespace UnitRegistry

variable {r : UnitRegistry} {u : PersistenceUnit} {name : String}

theorem find?_enter (r : UnitRegistry) (u : PersistenceUnit) (name : String) :
    (r.enter u).find? name = (r.find? name).or (if u.name = name then some u else none) := by
  unfold find? enter
  rw [List.find?_append]
  by_cases h : u.name = name <;> simp [h]

theorem name_of_find? (h : r.find? name = some u) : u.name = name :=
  eq_of_beq (List.find?_some (p := fun v : PersistenceUnit => v.name == name) h)

/-- What registering a unit comes to. -/
theorem register_cases (r : UnitRegistry) (u : PersistenceUnit) :
    (¬ u.Valid ∧ ∃ reason, r.register u = .error (.invalidUnit u.name reason)) ∨
    (u.Valid ∧ ∃ known, r.find? u.name = some known ∧ known.same u = true ∧
      r.register u = .ok (r, [])) ∨
    (u.Valid ∧ ∃ known, r.find? u.name = some known ∧ known.same u = false ∧
      r.register u = .error (.unitConflict u.name)) ∨
    (u.Valid ∧ r.find? u.name = none ∧
      r.register u = .ok (r.enter u, [.unitRegistered u.name u.storage.label false])) := by
  rw [PersistenceUnit.valid_iff]
  unfold register PersistenceUnit.validate
  cases u.defect? with
  | some reason => exact .inl ⟨by simp, reason, rfl⟩
  | none =>
    refine .inr ?_
    cases r.find? u.name with
    | none => exact .inr (.inr ⟨rfl, rfl, rfl⟩)
    | some known =>
      cases hsame : known.same u with
      | true => exact .inl ⟨rfl, known, rfl, hsame, by simp [hsame]⟩
      | false => exact .inr (.inl ⟨rfl, known, rfl, hsame, by simp [hsame]⟩)

/-- What looking a name up comes to. -/
theorem resolve_cases (r : UnitRegistry) (name : String) :
    (∃ u, r.find? name = some u ∧ r.resolve name = .ok (u, r, [])) ∨
    (r.find? name = none ∧ name = PersistenceUnit.defaultName ∧
      ∃ log, r.resolve name = .ok (.default, r.enter .default, log)) ∨
    (r.find? name = none ∧ name ≠ PersistenceUnit.defaultName ∧
      r.resolve name = .error (.unknownUnit name)) := by
  unfold resolve
  cases r.find? name with
  | some u => exact .inl ⟨u, rfl, rfl⟩
  | none =>
    by_cases h : name = PersistenceUnit.defaultName
    · exact .inr (.inl ⟨rfl, h, _, if_pos h⟩)
    · exact .inr (.inr ⟨rfl, h, if_neg h⟩)

/-- Every unit is valid, and it is what its name stands for. -/
def WellFormed (r : UnitRegistry) : Prop :=
  ∀ u ∈ r.units, u.Valid ∧ r.find? u.name = some u

theorem WellFormed.enter (h : r.WellFormed) (hu : u.Valid) (hnew : r.find? u.name = none) :
    (r.enter u).WellFormed := by
  intro v hv
  rw [find?_enter]
  rcases List.mem_append.mp hv with hv | hv
  · obtain ⟨hvalid, hfound⟩ := h v hv
    exact ⟨hvalid, by rw [hfound, Option.some_or]⟩
  · rw [List.mem_singleton.mp hv, hnew]
    exact ⟨hu, by simp⟩

end UnitRegistry

/-! ## 3. Calls -/

open Environment

/-- A call about units. -/
inductive UnitCall where
  | register (u : PersistenceUnit)
  | resolve (name : String)
  | createSession (name : String)

namespace UnitCall

/-- The environment after a call. -/
def after (env : Environment) : UnitCall → Environment
  | .register u =>
    match env.registerUnit u with
    | .ok (env', _) => env'
    | .error _ => env
  | .resolve name =>
    match env.registeredUnit name with
    | .ok (_, env', _) => env'
    | .error _ => env
  | .createSession name => (env.createSession name).environment

/-- The environment after calls, made one after another. -/
def afterAll (env : Environment) (calls : List UnitCall) : Environment :=
  calls.foldl after env

/-- A call succeeds. -/
def Succeeds (env : Environment) : UnitCall → Prop
  | .register u => ∃ answer, env.registerUnit u = .ok answer
  | .resolve name => ∃ answer, env.registeredUnit name = .ok answer
  | .createSession name => ∃ s, (env.createSession name).outcome = .opened s

/-- A call looks a name up, by itself or to open a session. -/
def LooksUp (name : String) : UnitCall → Prop
  | .register _ => False
  | .resolve other => other = name
  | .createSession other => other = name

/-- The unit that a call enters under a name, unless there is one already: one that it registers,
or the default unit, if that is looked up. -/
def entered? (name : String) : UnitCall → Option PersistenceUnit
  | .register u => if u.name = name ∧ u.defect? = none then some u else none
  | .resolve other | .createSession other =>
    if other = name ∧ name = PersistenceUnit.defaultName then some .default else none

variable {env : Environment} {u : PersistenceUnit} {name : String}

theorem units_register (env : Environment) (u : PersistenceUnit) :
    (after env (.register u)).units =
      ((env.units.register u).map (·.1)).toOption.getD env.units := by
  simp only [after, registerUnit]
  cases env.units.register u <;> rfl

theorem units_resolve (env : Environment) (name : String) :
    (after env (.resolve name)).units =
      ((env.units.resolve name).map (·.2.1)).toOption.getD env.units := by
  simp only [after, registeredUnit]
  cases env.units.resolve name <;> rfl

/-- Opening a session enters what looking its unit up enters. -/
theorem units_createSession (env : Environment) (name : String) :
    (after env (.createSession name)).units = (after env (.resolve name)).units := by
  simp only [after, Environment.createSession]
  cases env.registeredUnit name with
  | error fault => rfl
  | ok answer => exact units_connect _ _

/-- **A call enters at most one unit**, a valid one under a new name. -/
theorem units_after (env : Environment) (call : UnitCall) :
    (call.after env).units = env.units ∨
      ∃ u, u.Valid ∧ env.units.find? u.name = none ∧
        (call.after env).units = env.units.enter u := by
  have hresolve : ∀ name, (after env (.resolve name)).units = env.units ∨
      ∃ u, u.Valid ∧ env.units.find? u.name = none ∧
        (after env (.resolve name)).units = env.units.enter u := by
    intro name
    rw [units_resolve]
    rcases env.units.resolve_cases name with ⟨u, -, h⟩ | ⟨hnew, rfl, log, h⟩ | ⟨-, -, h⟩
    · exact .inl (by rw [h]; rfl)
    · exact .inr ⟨.default, PersistenceUnit.valid_default, hnew, by rw [h]; rfl⟩
    · exact .inl (by rw [h]; rfl)
  cases call with
  | resolve name => exact hresolve name
  | createSession name =>
    rw [units_createSession]
    exact hresolve name
  | register u =>
    rw [units_register]
    rcases env.units.register_cases u with ⟨-, _, h⟩ | ⟨-, _, -, -, h⟩ | ⟨-, _, -, -, h⟩ |
      ⟨hvalid, hnew, h⟩
    · exact .inl (by rw [h]; rfl)
    · exact .inl (by rw [h]; rfl)
    · exact .inl (by rw [h]; rfl)
    · exact .inr ⟨u, hvalid, hnew, by rw [h]; rfl⟩

/-- **What a name stands for after a call**: what it stood for, or else what the call enters. -/
theorem find?_after (env : Environment) (call : UnitCall) (name : String) :
    (call.after env).units.find? name = (env.units.find? name).or (call.entered? name) := by
  have hresolve : ∀ other, (after env (.resolve other)).units.find? name =
      (env.units.find? name).or (entered? name (.resolve other)) := by
    intro other
    rw [units_resolve]
    rcases env.units.resolve_cases other with ⟨u, hfound, h⟩ | ⟨hnew, rfl, log, h⟩ |
      ⟨hnew, hother, h⟩
    · rw [h]
      show env.units.find? name = _
      by_cases hname : other = name
      · rw [← hname, hfound, Option.some_or]
      · simp [entered?, hname]
    · rw [h]
      show (env.units.enter .default).find? name = _
      rw [UnitRegistry.find?_enter]
      rw [show PersistenceUnit.default.name = PersistenceUnit.defaultName from rfl]
      by_cases hname : PersistenceUnit.defaultName = name
      · simp [entered?, hname]
      · simp [entered?, hname]
    · rw [h]
      show env.units.find? name = _
      have hnone : entered? name (.resolve other) = none := by
        refine if_neg ?_
        rintro ⟨rfl, hdefault⟩
        exact hother hdefault
      rw [hnone, Option.or_none]
  cases call with
  | resolve other => exact hresolve other
  | createSession other =>
    rw [units_createSession]
    exact hresolve other
  | register u =>
    rw [units_register]
    rcases env.units.register_cases u with ⟨hinvalid, _, h⟩ | ⟨-, known, hfound, -, h⟩ |
      ⟨-, known, hfound, -, h⟩ | ⟨hvalid, hnew, h⟩
    · rw [h]
      have hnone : entered? name (.register u) = none :=
        if_neg fun hentered => hinvalid (PersistenceUnit.valid_iff.mpr hentered.2)
      rw [hnone, Option.or_none]
      rfl
    · rw [h]
      show env.units.find? name = _
      by_cases hname : u.name = name
      · rw [← hname, hfound, Option.some_or]
      · simp [entered?, hname]
    · rw [h]
      show env.units.find? name = _
      by_cases hname : u.name = name
      · rw [← hname, hfound, Option.some_or]
      · simp [entered?, hname]
    · rw [h]
      show (env.units.enter u).find? name = _
      rw [UnitRegistry.find?_enter]
      simp [entered?, PersistenceUnit.valid_iff.mp hvalid]

/-- **What a name stands for after any calls**: what it stood for, or else what the first of them
enters that enters anything under it. -/
theorem find?_afterAll (calls : List UnitCall) (env : Environment) (name : String) :
    (afterAll env calls).units.find? name =
      (env.units.find? name).or (calls.findSome? (entered? name)) := by
  induction calls generalizing env with
  | nil => simp [afterAll]
  | cons call calls ih =>
    calc (afterAll (call.after env) calls).units.find? name
        = ((env.units.find? name).or (call.entered? name)).or
            (calls.findSome? (entered? name)) := by
          rw [ih, find?_after]
      _ = (env.units.find? name).or ((call :: calls).findSome? (entered? name)) := by
          rw [Option.or_assoc, List.findSome?_cons]
          cases call.entered? name <;> simp

theorem find?_afterAll_of_some (h : env.units.find? name = some u) (calls : List UnitCall) :
    (afterAll env calls).units.find? name = some u := by
  rw [find?_afterAll, h, Option.some_or]

theorem units_prefix_afterAll (calls : List UnitCall) (env : Environment) :
    env.units.units <+: (afterAll env calls).units.units := by
  induction calls generalizing env with
  | nil => exact List.prefix_rfl
  | cons call calls ih =>
    refine List.IsPrefix.trans ?_ (ih (call.after env))
    rcases units_after env call with h | ⟨u, -, -, h⟩
    · rw [h]
    · rw [h]
      exact List.prefix_append _ _

/-- Calls about units write to no store. -/
theorem storeAt_after (env : Environment) (call : UnitCall) (place : Place) :
    (call.after env).storeAt place = env.storeAt place := by
  cases call with
  | register u =>
    simp only [after, registerUnit]
    cases env.units.register u <;> rfl
  | resolve name =>
    simp only [after, registeredUnit]
    cases env.units.resolve name <;> rfl
  | createSession name =>
    simp only [after, Environment.createSession, registeredUnit]
    cases env.units.resolve name with
    | error fault => rfl
    | ok answer => exact storeAt_connect _ _ _

end UnitCall

/-! ## 4. Resolving -/

namespace Environment

variable {env : Environment} {u v : PersistenceUnit} {name : String}

/-- Looking a unit up changes the registry at most. -/
theorem registeredUnit_ok {answer : PersistenceUnit × Environment × List Event}
    (h : env.registeredUnit name = .ok answer) : ∃ units, answer.2.1 = { env with units } := by
  unfold registeredUnit at h
  cases hresolve : env.units.resolve name with
  | error fault =>
    rw [hresolve] at h
    cases h
  | ok resolved =>
    rw [hresolve] at h
    cases h
    exact ⟨_, rfl⟩

/-- A name resolves to a unit. -/
def Resolves (env : Environment) (name : String) (u : PersistenceUnit) : Prop :=
  ∃ env' log, env.registeredUnit name = .ok (u, env', log)

theorem resolves_iff : env.Resolves name u ↔ env.units.find? name = some u ∨
    (env.units.find? name = none ∧ name = PersistenceUnit.defaultName ∧ u = .default) := by
  unfold Resolves registeredUnit
  rcases env.units.resolve_cases name with ⟨known, hfound, h⟩ | ⟨hnew, hname, log, h⟩ |
    ⟨hnew, hname, h⟩
  · simp [h, hfound, Except.map, eq_comm]
  · rw [h, hnew]
    simp [hname, Except.map, eq_comm]
  · simp [h, hnew, hname, Except.map]

/-- A unit that a name was looked up as is what the name stands for from then on. -/
theorem Resolves.find?_after (h : env.Resolves name u) {call : UnitCall}
    (hcall : call.LooksUp name) :
    (call.after env).units.find? name = some u := by
  rw [UnitCall.find?_after]
  rcases resolves_iff.mp h with hfound | ⟨hnew, rfl, rfl⟩
  · rw [hfound, Option.some_or]
  · rw [hnew, Option.none_or]
    cases call with
    | register u => exact hcall.elim
    | resolve other => exact if_pos ⟨hcall, rfl⟩
    | createSession other => exact if_pos ⟨hcall, rfl⟩

/-- A session that is created on a name has the settings of the unit that the name resolves to. -/
theorem createSession_opened {s : Session} (h : (env.createSession name).outcome = .opened s) :
    ∃ u, env.Resolves name u ∧ s = env.sessionOf u s.place := by
  unfold createSession at h
  cases hunit : env.registeredUnit name with
  | error fault =>
    rw [hunit] at h
    cases h
  | ok answer =>
    obtain ⟨u, env', log⟩ := answer
    rw [hunit] at h
    have hopened : (env'.connect u).outcome = .opened s := h
    obtain ⟨-, hs, -⟩ := connect_opened hopened
    refine ⟨u, ⟨env', log, hunit⟩, hs.trans ?_⟩
    obtain ⟨units, henv⟩ := registeredUnit_ok hunit
    obtain rfl : env' = { env with units } := henv
    rfl

/-! ## 5. Failing -/

/-- The registry is well-formed, and until the default unit is looked up or registered no
transaction is open on its store. -/
structure Orderly (env : Environment) : Prop where
  wellFormed : env.units.WellFormed
  closed : env.units.find? PersistenceUnit.defaultName = none →
    (env.storeAt (.shared PersistenceUnit.default.sharedAddress)).writer = none

theorem Orderly.after (h : env.Orderly) (call : UnitCall) : (call.after env).Orderly where
  wellFormed := by
    rcases UnitCall.units_after env call with hunits | ⟨u, hvalid, hnew, hunits⟩
    · rw [hunits]
      exact h.wellFormed
    · rw [hunits]
      exact h.wellFormed.enter hvalid hnew
  closed hnone := by
    rw [UnitCall.storeAt_after]
    rw [UnitCall.find?_after, Option.or_eq_none_iff] at hnone
    exact h.closed hnone.1

theorem Orderly.afterAll (h : env.Orderly) (calls : List UnitCall) :
    (UnitCall.afterAll env calls).Orderly := by
  induction calls generalizing env with
  | nil => exact h
  | cons call calls ih => exact ih (h.after call)

/-- A session of the default unit is not refused the first time. -/
theorem Orderly.createSession_default (h : env.Orderly)
    (hnew : env.units.find? PersistenceUnit.defaultName = none) :
    (UnitCall.createSession PersistenceUnit.defaultName).Succeeds env := by
  obtain ⟨entered, hentered⟩ :
      ∃ entered : Environment, entered = { env with units := env.units.enter .default } := ⟨_, rfl⟩
  have hresolve : ∃ log, env.registeredUnit PersistenceUnit.defaultName =
      .ok (.default, entered, log) := by
    unfold registeredUnit
    rcases env.units.resolve_cases PersistenceUnit.defaultName with ⟨u, hfound, -⟩ |
      ⟨-, -, log, h⟩ | ⟨-, hname, -⟩
    · rw [hnew] at hfound
      cases hfound
    · exact ⟨log, by rw [h, hentered]; rfl⟩
    · exact absurd rfl hname
  obtain ⟨log, hresolve⟩ := hresolve
  have hplace : entered.placeOf .default =
      .ok (.shared PersistenceUnit.default.sharedAddress) := rfl
  have hclosed :
      (entered.storeAt (.shared PersistenceUnit.default.sharedAddress)).writer = none := by
    rw [hentered]
    exact h.closed hnew
  have hconnect := connect_of_closed hplace hclosed (by decide)
  simp only [UnitCall.Succeeds, createSession, hresolve, hconnect]
  exact ⟨_, rfl⟩

/-- **A call that fails enters nothing.** -/
theorem Orderly.units_of_failed (h : env.Orderly) {call : UnitCall}
    (hfailed : ¬ call.Succeeds env) : (call.after env).units = env.units := by
  cases call with
  | register u =>
    simp only [UnitCall.after]
    cases hregister : env.registerUnit u with
    | ok answer => exact absurd ⟨answer, hregister⟩ hfailed
    | error fault => rfl
  | resolve name =>
    simp only [UnitCall.after]
    cases hresolve : env.registeredUnit name with
    | ok answer => exact absurd ⟨answer, hresolve⟩ hfailed
    | error fault => rfl
  | createSession name =>
    rw [UnitCall.units_createSession, UnitCall.units_resolve]
    rcases env.units.resolve_cases name with ⟨u, -, hresolve⟩ | ⟨hnew, rfl, -⟩ | ⟨-, -, hresolve⟩
    · rw [hresolve]
      rfl
    · exact absurd (h.createSession_default hnew) hfailed
    · rw [hresolve]
      rfl

/-! ## 6. Registering -/

/-- What registering a unit answers depends on what its name stands for, and on nothing else. -/
theorem registerUnit_congr {other : Environment}
    (h : env.units.find? u.name = other.units.find? u.name) :
    (env.registerUnit u).map (·.2) = (other.registerUnit u).map (·.2) := by
  unfold registerUnit UnitRegistry.register
  rw [h]
  cases u.validate with
  | error fault => rfl
  | ok _ =>
    cases other.units.find? u.name with
    | none => rfl
    | some known =>
      cases hsame : known.same u with
      | true => simp [hsame, Except.map]
      | false => simp [hsame, Except.map]

/-- **A unit can be registered if it is valid and its name stands for no other settings.** -/
theorem register_succeeds_iff : (UnitCall.register u).Succeeds env ↔
    u.Valid ∧ ∀ known, env.units.find? u.name = some known → known.same u = true := by
  unfold UnitCall.Succeeds registerUnit
  rcases env.units.register_cases u with ⟨hinvalid, reason, h⟩ |
    ⟨hvalid, known, hfound, hsame, h⟩ | ⟨hvalid, known, hfound, hsame, h⟩ | ⟨hvalid, hnew, h⟩
  · simp [h, hinvalid, Except.map]
  · simp [h, hvalid, hfound, hsame, Except.map]
  · simp [h, hfound, hsame, Except.map]
  · simp [h, hvalid, hnew, Except.map]

theorem registerUnit_conflict (hvalid : v.Valid) (hfound : env.units.find? v.name = some u)
    (hother : u.same v = false) : env.registerUnit v = .error (.unitConflict v.name) := by
  unfold registerUnit
  rcases env.units.register_cases v with ⟨hinvalid, -⟩ | ⟨-, known, hknown, hsame, -⟩ |
    ⟨-, _, -, -, h⟩ | ⟨-, hnew, -⟩
  · exact absurd hvalid hinvalid
  · rw [hfound] at hknown
    cases hknown
    rw [hsame] at hother
    cases hother
  · rw [h]
    rfl
  · rw [hfound] at hnew
    cases hnew

/-- After a unit was registered its name stands for a unit with the same settings. -/
theorem register_resolves (h : (UnitCall.register u).Succeeds env) :
    ∃ known, (UnitCall.after env (.register u)).units.find? u.name = some known ∧
      known.same u = true := by
  obtain ⟨hvalid, hknown⟩ := register_succeeds_iff.mp h
  rw [UnitCall.find?_after]
  cases hfound : env.units.find? u.name with
  | some known => exact ⟨known, by rw [Option.some_or], hknown known hfound⟩
  | none =>
    exact ⟨u, by simp [UnitCall.entered?, PersistenceUnit.valid_iff.mp hvalid], u.same_refl⟩

/-- Registering a unit leaves the other names as they are. -/
theorem find?_register_of_ne (env : Environment) (h : u.name ≠ name) :
    (UnitCall.after env (.register u)).units.find? name = env.units.find? name := by
  rw [UnitCall.find?_after, show UnitCall.entered? name (.register u) = none from
    if_neg fun hentered => h hentered.1, Option.or_none]

/-- In whichever order two units with different names are registered, every name stands for the
same afterwards. -/
theorem find?_register_comm (env : Environment) (h : u.name ≠ v.name) (name : String) :
    (UnitCall.afterAll env [.register u, .register v]).units.find? name =
      (UnitCall.afterAll env [.register v, .register u]).units.find? name := by
  rw [UnitCall.find?_afterAll, UnitCall.find?_afterAll]
  by_cases hu : u.name = name
  · have hv : v.name ≠ name := fun hv => h (hu.trans hv.symm)
    simp [UnitCall.entered?, hv, List.findSome?_cons]
  · simp [UnitCall.entered?, hu, List.findSome?_cons]

/-! ## 7. Write-once -/

/-- The registry of an environment is written once, now and in the course of any later calls. -/
structure WrittenOnce (now : Environment) : Prop where
  /-- Every registered unit is valid, and it is what its name stands for. -/
  valid : ∀ u ∈ now.units.units, u.Valid ∧ now.units.find? u.name = some u
  /-- No unit is changed or removed. -/
  kept : ∀ later, now.units.units <+: (UnitCall.afterAll now later).units.units
  /-- Once a name was looked up it resolves to the unit that it resolved to then. -/
  resolved : ∀ {call : UnitCall} {name u}, call.LooksUp name → now.Resolves name u → ∀ later v,
    (UnitCall.afterAll (call.after now) later).Resolves name v ↔ v = u
  /-- A session is created with the settings of the unit that its name resolves to. -/
  opened : ∀ {name s}, (now.createSession name).outcome = .opened s →
    ∃ u, now.Resolves name u ∧ s = now.sessionOf u s.place
  /-- A unit can be registered if it is valid and its name is new or stands for an equal unit. -/
  register_iff : ∀ u, (UnitCall.register u).Succeeds now ↔
    u.Valid ∧ ∀ known, now.units.find? u.name = some known → known.same u = true
  /-- A registered unit is there afterwards. -/
  registered : ∀ u, (UnitCall.register u).Succeeds now →
    ∃ known, (UnitCall.after now (.register u)).units.find? u.name = some known ∧
      known.same u = true
  /-- A call that fails leaves the registry as it is. -/
  failed : ∀ call : UnitCall, ¬ call.Succeeds now → (call.after now).units = now.units
  /-- Once a name was looked up other settings under it are in conflict. -/
  conflict : ∀ {call : UnitCall} {name u}, call.LooksUp name → now.Resolves name u → ∀ later v,
    v.Valid → v.name = name → u.same v = false →
      (UnitCall.afterAll (call.after now) later).registerUnit v = .error (.unitConflict name)
  /-- Registering another unit first makes no difference to the answer. -/
  answer_comm : ∀ u v, u.name ≠ v.name →
    ((UnitCall.after now (.register u)).registerUnit v).map (·.2) = (now.registerUnit v).map (·.2)
  /-- Registering another unit first makes no difference to what names stand for. -/
  find?_comm : ∀ u v, u.name ≠ v.name → ∀ name,
    (UnitCall.afterAll now [.register u, .register v]).units.find? name =
      (UnitCall.afterAll now [.register v, .register u]).units.find? name

theorem Orderly.writtenOnce (h : env.Orderly) : env.WrittenOnce where
  valid := h.wellFormed
  kept later := UnitCall.units_prefix_afterAll later env
  resolved {call name u} hcall hu later v := by
    have hfound := UnitCall.find?_afterAll_of_some (hu.find?_after hcall) later
    rw [resolves_iff, hfound]
    simp [eq_comm]
  opened := createSession_opened
  register_iff _ := register_succeeds_iff
  registered _ := register_resolves
  failed _ := h.units_of_failed
  conflict {call name u} hcall hu later v hvalid hname hother := by
    subst hname
    exact registerUnit_conflict hvalid
      (UnitCall.find?_afterAll_of_some (hu.find?_after hcall) later) hother
  answer_comm _ _ hne := registerUnit_congr (find?_register_of_ne env hne)
  find?_comm _ _ hne := find?_register_comm env hne

/-- What the default name resolves to: the unit that is entered under it first, by whichever call,
or else the default unit. -/
theorem resolves_default_iff (env : Environment) (calls : List UnitCall) (u : PersistenceUnit) :
    (UnitCall.afterAll env calls).Resolves PersistenceUnit.defaultName u ↔
      u = ((env.units.find? PersistenceUnit.defaultName).or
        (calls.findSome? (UnitCall.entered? PersistenceUnit.defaultName))).getD .default := by
  rw [resolves_iff, UnitCall.find?_afterAll]
  cases (env.units.find? PersistenceUnit.defaultName).or
    (calls.findSome? (UnitCall.entered? PersistenceUnit.defaultName)) with
  | none => simp
  | some known => simp [eq_comm]

/-- A program starts with an empty registry, or with the default unit in it; and where the default
unit is still missing no transaction is open on its store. -/
theorem Orderly.of_start
    (hstart : env.units = .empty ∨ env.units = ⟨[.default]⟩)
    (hclosed : env.units = .empty →
      (env.storeAt (.shared PersistenceUnit.default.sharedAddress)).writer = none) :
    env.Orderly := by
  rcases hstart with hunits | hunits
  · exact ⟨by simp [hunits, UnitRegistry.WellFormed, UnitRegistry.empty], fun _ => hclosed hunits⟩
  · refine ⟨?_, ?_⟩
    · intro u hu
      rw [hunits] at hu ⊢
      rw [List.mem_singleton.mp hu]
      exact ⟨PersistenceUnit.valid_default, by decide⟩
    · intro hnone
      rw [hunits] at hnone
      exact absurd hnone (by decide)

/-- **The registry is written once**, whatever calls are made from an empty registry or from one
that holds just the default unit.  The default name resolves to the default unit, unless other
settings were registered under it before it was first looked up. -/
theorem registry_write_once (env : Environment)
    (hstart : env.units = .empty ∨ env.units = ⟨[.default]⟩)
    (hclosed : env.units = .empty →
      (env.storeAt (.shared PersistenceUnit.default.sharedAddress)).writer = none)
    (calls : List UnitCall) :
    (UnitCall.afterAll env calls).WrittenOnce ∧
    ∀ u, (UnitCall.afterAll env calls).Resolves PersistenceUnit.defaultName u ↔
      u = ((env.units.find? PersistenceUnit.defaultName).or
        (calls.findSome? (UnitCall.entered? PersistenceUnit.defaultName))).getD .default :=
  ⟨((Orderly.of_start hstart hclosed).afterAll calls).writtenOnce, resolves_default_iff env calls⟩

/-- Other settings are registered under the default name before it is looked up.  Then it is the
default settings that are in conflict. -/
theorem default_settings_in_conflict :
    (UnitCall.afterAll (.empty [])
        [.register (.new PersistenceUnit.defaultName .memory),
          .createSession PersistenceUnit.defaultName]).Resolves
      PersistenceUnit.defaultName (.new PersistenceUnit.defaultName .memory) ∧
    (UnitCall.afterAll (.empty [])
        [.register (.new PersistenceUnit.defaultName .memory),
          .createSession PersistenceUnit.defaultName]).registerUnit .default =
      .error (.unitConflict PersistenceUnit.defaultName) := by
  have hregister := registry_write_once (.empty []) (.inl rfl) (fun _ => rfl)
    [.register (.new PersistenceUnit.defaultName .memory)]
  have hresolves := (hregister.2 (.new PersistenceUnit.defaultName .memory)).mpr (by decide)
  have hlookup : (UnitCall.createSession PersistenceUnit.defaultName).LooksUp
      PersistenceUnit.defaultName := rfl
  exact ⟨(hregister.1.resolved hlookup hresolves [] _).mpr rfl,
    hregister.1.conflict hlookup hresolves [] _ PersistenceUnit.valid_default rfl (by decide)⟩

end Environment

end EntityStore

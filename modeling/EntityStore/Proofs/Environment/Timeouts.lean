import EntityStore.Proofs.Environment.Isolation
/-!
# Timeouts that no session can keep

A unit holds its timeout in 64 bits, and no check looks at it.  A session keeps its timeout in 31
bits, and there is no fault that says that one does not fit: the program is given up.  So a unit may
be registered that no session is ever opened on.

Main statement: `aborted_iff_too_long`, for all units in memory that can be registered, at any later
time, whatever the program has done since.  The timeout decides whether the program is given up,
unless the session is refused before, because another one is altering the tables in shared memory.
-/

namespace EntityStore

/-! ## 1. Timeouts of durations -/

namespace PersistenceUnit

variable {u v : PersistenceUnit}

/-- The timeouts that units are given as durations are all that a unit can hold: every one of them
is a duration, and a longer duration is cut. -/
theorem le_maxTimeout_iff (u : PersistenceUnit) (timeout : Nat) : timeout ≤ maxTimeout ↔
    ∃ seconds nanoseconds, seconds ≤ maxTimeout ∧ nanoseconds < 1000000000 ∧
      (u.withBusyTimeout seconds nanoseconds).busyTimeout = timeout := by
  constructor
  · intro h
    refine ⟨timeout / 1000, timeout % 1000 * 1000000, by omega, by omega, ?_⟩
    simp only [withBusyTimeout]
    omega
  · rintro ⟨seconds, nanoseconds, -, -, rfl⟩
    exact Nat.min_le_right _ _

/-- Cutting a duration does not make it fit: it is cut far above what a session can keep. -/
theorem lt_busyTimeout_iff (u : PersistenceUnit) (seconds nanoseconds : Nat) :
    2147483647 < (u.withBusyTimeout seconds nanoseconds).busyTimeout ↔
      2147483648 * 1000000 ≤ seconds * 1000000000 + nanoseconds := by
  have hmax : maxTimeout = 18446744073709551615 := rfl
  simp only [withBusyTimeout]
  omega

/-- In memory two units with the same settings are one. -/
theorem eq_of_same (h : v.same u = true) (hmemory : ∀ path, u.storage ≠ .file path) : v = u := by
  obtain ⟨name, storage, timeout, keys, mode⟩ := u
  obtain ⟨name', storage', timeout', keys', mode'⟩ := v
  simp only [same, Bool.and_eq_true, beq_iff_eq] at h
  obtain ⟨⟨⟨⟨rfl, hstorage⟩, rfl⟩, rfl⟩, rfl⟩ := h
  cases storage <;> cases storage' <;> simp_all [Storage.same]

end PersistenceUnit

namespace Environment

variable {env env' : Environment} {u : PersistenceUnit} {place : Place} {name : String}
  {fault : StoreFault}

/-! ## 2. Lives of programs -/

/-- A step of a program: a call about units, a session on a unit that need not be registered, or
something that an open session does. -/
inductive Moves (env : Environment) : Environment → Prop
  | calls (call : UnitCall) : Moves env (call.after env)
  | connects (u : PersistenceUnit) : Moves env (env.connect u).environment
  | operates {s : Session} {env' : Environment} :
      s ∈ env.sessions → Operates Session.Does s env env' → Moves env env'

/-- Any number of steps. -/
def Life : Environment → Environment → Prop :=
  Relation.ReflTransGen Moves

/-- What a name stands for it stands for ever after. -/
theorem Life.find? (h : Life env env') (hfound : env.units.find? name = some u) :
    env'.units.find? name = some u := by
  induction h with
  | refl => exact hfound
  | tail _ hmoves ih =>
    cases hmoves with
    | calls call => rw [UnitCall.find?_after, ih, Option.some_or]
    | connects v => rw [units_connect, ih]
    | operates _ hdone => rw [hdone.units, ih]

/-! ## 3. Openings -/

/-- Another session is altering tables in the shared memory of a unit. -/
def Barred (env : Environment) (u : PersistenceUnit) : Prop :=
  u.storage = .sharedMemory ∧ ∃ t, (env.storeAt (.shared u.sharedAddress)).writer = some t ∧
    t.altered = true ∧ t.owner ≠ env.nextId

/-- What keeps the next session of a unit from running a statement. -/
theorem barrier?_eq_some_iff (hmemory : u.storage = .memory ∨ u.storage = .sharedMemory)
    (hplace : env.placeOf u = .ok place) :
    (env.storeAt place).barrier? (env.sessionOf u place) = some fault ↔
      env.Barred u ∧ fault = .schemaLocked := by
  unfold placeOf at hplace
  rcases hmemory with hstorage | hstorage <;> simp only [hstorage, Except.ok.injEq] at hplace <;>
    subst hplace
  · -- Nobody else is in the memory of a session of its own.
    have hnone : (env.storeAt (.own env.nextId)).barrier? (env.sessionOf u (.own env.nextId)) =
        none := by
      simp only [Store.barrier?, sessionOf, Place.isShared, Bool.false_and, Bool.false_eq_true,
        if_false]
      split <;> rfl
    rw [hnone]
    simp [Barred, hstorage]
  · simp only [Barred, hstorage, true_and, Store.barrier?, Store.other?, sessionOf,
      Place.isShared, Bool.true_and]
    cases (env.storeAt (.shared u.sharedAddress)).writer with
    | none => simp
    | some t =>
      by_cases howner : t.owner = env.nextId
      · simp [Option.filter, howner]
      · cases haltered : t.altered with
        | false => simp [Option.filter, howner, haltered]
        | true => simpa [Option.filter, howner, haltered] using eq_comm

/-- **How an opening ends** on a unit in memory: the session is refused, the program is given up, or
the session is opened. -/
theorem connect_in_memory (hmemory : u.storage = .memory ∨ u.storage = .sharedMemory)
    (hplace : env.placeOf u = .ok place) :
    (env.Barred u ∧ (env.connect u).outcome = .refused (.store .schemaLocked)) ∨
    (¬ env.Barred u ∧ largestTimeout < u.busyTimeout ∧ (env.connect u).outcome = .aborted) ∨
    (¬ env.Barred u ∧ u.busyTimeout ≤ largestTimeout ∧
      (env.connect u).outcome = .opened (env.sessionOf u place)) := by
  have hbarred : ∀ fault, (env.store (env.sessionOf u place)).barrier? (env.sessionOf u place) =
      some fault ↔ env.Barred u ∧ fault = .schemaLocked :=
    fun _ => barrier?_eq_some_iff hmemory hplace
  have hsession : (⟨env.nextId, u.name, u.schemaMode, place, u.foreignKeys, u.busyTimeout, 0⟩ :
      Session) = env.sessionOf u place := rfl
  simp only [connect, hplace, hsession]
  cases hbarrier : (env.store (env.sessionOf u place)).barrier? (env.sessionOf u place) with
  | some fault =>
    obtain ⟨hbarred, rfl⟩ := (hbarred fault).mp hbarrier
    exact .inl ⟨hbarred, rfl⟩
  | none =>
    have hfree : ¬ env.Barred u := by
      intro h
      rw [(hbarred _).mpr ⟨h, rfl⟩] at hbarrier
      cases hbarrier
    by_cases hlong : largestTimeout < u.busyTimeout
    · exact .inr (.inl ⟨hfree, hlong, by simp only [if_pos hlong]⟩)
    · exact .inr (.inr ⟨hfree, Nat.le_of_not_lt hlong, by simp only [if_neg hlong]⟩)

/-- Opening a session on a name is opening one of the unit that the name stands for. -/
theorem outcome_createSession (hfound : env.units.find? name = some u) :
    (env.createSession name).outcome = (env.connect u).outcome := by
  simp only [createSession, registeredUnit, UnitRegistry.resolve, hfound, Except.map]

/-- **The program is given up where the timeout is too long.**  Let a unit in memory be registered,
and the program live on in any way.  A session of the unit is refused while another session is
altering the tables of its shared memory.  Otherwise the program is given up if the timeout is
`2 ^ 31` milliseconds or more, and a session with the settings of the unit is opened if it is less.
Every timeout that a unit can hold is given by a duration, and it is too long exactly if the
duration is. -/
theorem aborted_iff_too_long (hregister : (UnitCall.register u).Succeeds env)
    (hmemory : u.storage = .memory ∨ u.storage = .sharedMemory)
    (hlife : Life (UnitCall.after env (.register u)) env') :
    let outcome := (env'.createSession u.name).outcome
    (outcome = .aborted ↔ 2147483647 < u.busyTimeout ∧ ¬ env'.Barred u) ∧
    ((∃ s, outcome = .opened s ∧ s = env'.sessionOf u s.place) ↔
      u.busyTimeout ≤ 2147483647 ∧ ¬ env'.Barred u) ∧
    ((∃ fault, outcome = .refused fault) ↔ env'.Barred u) ∧
    (∀ timeout, timeout ≤ PersistenceUnit.maxTimeout ↔
      ∃ seconds nanoseconds, seconds ≤ PersistenceUnit.maxTimeout ∧ nanoseconds < 1000000000 ∧
        (u.withBusyTimeout seconds nanoseconds).busyTimeout = timeout) ∧
    ∀ seconds nanoseconds,
      2147483647 < (u.withBusyTimeout seconds nanoseconds).busyTimeout ↔
        2147483648 * 1000000 ≤ seconds * 1000000000 + nanoseconds := by
  intro outcome
  have hfile : ∀ path, u.storage ≠ .file path := by
    rcases hmemory with hstorage | hstorage <;> simp [hstorage]
  obtain ⟨known, hfound, hsame⟩ := register_resolves hregister
  obtain rfl := PersistenceUnit.eq_of_same hsame hfile
  obtain ⟨place, hplace⟩ : ∃ place, env'.placeOf known = .ok place := by
    rcases hmemory with hstorage | hstorage <;> simp [placeOf, hstorage]
  have hlargest : largestTimeout = 2147483647 := by decide
  have houtcome : outcome = (env'.connect known).outcome :=
    outcome_createSession (hlife.find? hfound)
  have hunit := And.intro known.le_maxTimeout_iff known.lt_busyTimeout_iff
  rw [houtcome]
  rcases connect_in_memory hmemory hplace with ⟨hbarred, hrefused⟩ | ⟨hfree, hlong, haborted⟩ |
    ⟨hfree, hshort, hopened⟩
  · rw [hrefused]
    exact ⟨by simp [hbarred], by simp [hbarred], by simp [hbarred], hunit⟩
  · rw [haborted]
    exact ⟨by simp [hfree]; omega, by simp; omega, by simp [hfree], hunit⟩
  · rw [hopened]
    exact ⟨by simp; omega, iff_of_true ⟨_, rfl, rfl⟩ ⟨by omega, hfree⟩, by simp [hfree], hunit⟩

/-- A unit in shared memory with the shortest timeout that is too long. -/
def patient : PersistenceUnit :=
  (PersistenceUnit.new "patient" .sharedMemory).withBusyTimeout 2147483 648000000

/-- After it was registered, and a session of another unit opened, the program is given up. -/
theorem aborted_iff_too_long_patient :
    let registered := UnitCall.after (.empty []) (.register patient)
    let later := UnitCall.after registered (.createSession PersistenceUnit.defaultName)
    (UnitCall.register patient).Succeeds (.empty []) ∧ Life registered later ∧
      (later.createSession "patient").outcome = .aborted := by
  intro registered later
  have hregister : (UnitCall.register patient).Succeeds (.empty []) := ⟨_, rfl⟩
  have hlife : Life registered later := .single (.calls _)
  obtain ⟨haborted, -⟩ := aborted_iff_too_long hregister (.inr rfl) hlife
  have hfree : ¬ later.Barred patient := by
    rintro ⟨-, t, ht, -⟩
    have hclosed : (later.storeAt (.shared patient.sharedAddress)).writer = none := by
      simp only [later, registered, UnitCall.storeAt_after]
      rfl
    simp [hclosed] at ht
  exact ⟨hregister, hlife, haborted.mpr ⟨by decide, hfree⟩⟩

/-- A unit that can be registered, but not opened: its timeout is cut down to the largest that a
unit can hold, and this is no timeout of a session. -/
theorem aborted_although_registered :
    let endless := (PersistenceUnit.new "endless" .memory).withBusyTimeout
      18446744073709551615 999999999
    (UnitCall.register endless).Succeeds (.empty []) ∧
      endless.busyTimeout ≤ PersistenceUnit.maxTimeout ∧
      ((UnitCall.after (.empty []) (.register endless)).createSession "endless").outcome =
        .aborted :=
  ⟨⟨_, rfl⟩, by decide, rfl⟩

end Environment

end EntityStore

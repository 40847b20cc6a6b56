import EntityStore.Logging
import Mathlib
/-!
# Logging is set up once

Setting logging up is a call with a level, a target, and a disk that says of each directory whether
it can be created.  The first call in which nothing is wrong sets logging up, and its level and
target stay for good: a later call can only ask for the same again.

What can be wrong with a call is told by one relation, each fault by itself, whatever else is wrong
(`HasFault`).  A call that has faults is answered with the one of the earliest stage
(`result_eq_error_iff`); one that has none is done.  `set_up_once` adds what any sequence of calls
leaves behind.
-/

namespace EntityStore

/-! ## 1. Trimmed texts -/

/-- `core` is the text without the blanks around it: blanks stand before and after, and neither the
first nor the last character of `core` is one. -/
structure Trimmed (text core : List Char) : Prop where
  around : ∃ before after, text = before ++ (core ++ after) ∧
    (∀ c ∈ before, isBlank c = true) ∧ ∀ c ∈ after, isBlank c = true
  first : ∀ c, core.head? = some c → isBlank c = false
  last : ∀ c, core.getLast? = some c → isBlank c = false

theorem trimBlanks_eq (text : List Char) :
    trimBlanks text = (text.dropWhile isBlank).rdropWhile isBlank := rfl

theorem trimmed_trimBlanks (text : List Char) : Trimmed text (trimBlanks text) := by
  rw [trimBlanks_eq]
  refine ⟨⟨text.takeWhile isBlank, (text.dropWhile isBlank).rtakeWhile isBlank, ?_, ?_, ?_⟩, ?_, ?_⟩
  · rw [List.rdropWhile_append_rtakeWhile, List.takeWhile_append_dropWhile]
  · exact fun c hc => List.mem_takeWhile_imp hc
  · exact fun c hc => List.mem_rtakeWhile_imp hc
  · -- Trimming the end of a text does not touch its first character.
    intro c hc
    obtain ⟨rest, hrest⟩ := List.head?_eq_some_iff.mp hc
    obtain ⟨after, hafter⟩ := List.rdropWhile_prefix isBlank (l := text.dropWhile isBlank)
    have hnot := List.head?_dropWhile_not isBlank text
    rw [← hafter, hrest] at hnot
    exact hnot
  · intro c hc
    obtain ⟨before, hbefore⟩ := List.getLast?_eq_some_iff.mp hc
    have hne : (text.dropWhile isBlank).rdropWhile isBlank ≠ [] := by simp [hbefore]
    have hnot := List.rdropWhile_last_not isBlank _ hne
    simpa [hbefore] using hnot

/-- **There is one way to trim a text.** -/
theorem trimmed_iff {text core : List Char} : Trimmed text core ↔ trimBlanks text = core := by
  constructor
  · rintro ⟨⟨before, after, rfl, hbefore, hafter⟩, hfirst, hlast⟩
    rw [trimBlanks_eq, List.dropWhile_append_of_pos hbefore]
    have hend : (core ++ after).rdropWhile isBlank = core := by
      induction after using List.reverseRecOn with
      | nil =>
        rw [List.append_nil, List.rdropWhile_eq_self_iff]
        intro hne
        simpa using hlast _ (List.getLast?_eq_some_getLast hne)
      | append_singleton after c ih =>
        rw [← List.append_assoc, List.rdropWhile_concat_pos _ _ _ (hafter c (by simp))]
        exact ih fun d hd => hafter d (List.mem_append_left _ hd)
    cases core with
    | nil => rw [List.nil_append, List.dropWhile_eq_nil_iff.mpr hafter, List.rdropWhile_nil]
    | cons c rest =>
      rw [List.cons_append, List.dropWhile_cons_of_neg (by simp [hfirst c rfl]),
        ← List.cons_append, hend]
  · rintro rfl
    exact trimmed_trimBlanks text

/-! ## 2. Levels and targets -/

namespace LogLevel

/-- The names of a level. -/
def names : LogLevel → List String
  | .warn => ["warn", "warning"]
  | level => [level.label]

/-- A text names a level: blanks around the name and the case of its letters do not count. -/
def NamedBy (level : LogLevel) (text : String) : Prop :=
  ∃ core, Trimmed text.toList core ∧ String.ofList (core.map Char.toLower) ∈ level.names

theorem ofName?_eq_some_iff {name : String} {level : LogLevel} :
    ofName? name = some level ↔ name ∈ level.names := by
  constructor
  · intro h
    unfold ofName? at h
    split at h <;> cases h <;> simp [names, label]
  · intro h
    cases level <;> simp only [names, label, List.mem_cons, List.not_mem_nil, or_false] at h
    case warn => rcases h with rfl | rfl <;> rfl
    all_goals (subst h; rfl)

/-- A text is read as the level that it names. -/
theorem parse_eq_ok_iff {text : String} {level : LogLevel} :
    parse text = .ok level ↔ level.NamedBy text := by
  simp only [NamedBy, trimmed_iff, exists_eq_left', ← ofName?_eq_some_iff, parse]
  cases ofName? (String.ofList ((trimBlanks text.toList).map Char.toLower)) <;> simp

/-- A text that names no level is refused as it was read. -/
theorem parse_eq_error_iff {text : String} {fault : LogFault} :
    parse text = .error fault ↔ (∀ level : LogLevel, ¬ level.NamedBy text) ∧
      ∃ core, Trimmed text.toList core ∧
        fault = .unsupportedLevel (String.ofList (core.map Char.toLower)) := by
  simp only [NamedBy, trimmed_iff, exists_eq_left', ← ofName?_eq_some_iff, parse]
  cases ofName? (String.ofList ((trimBlanks text.toList).map Char.toLower)) <;> simp [eq_comm]

theorem NamedBy.unique {text : String} {level other : LogLevel} (h : level.NamedBy text)
    (h' : other.NamedBy text) : level = other :=
  Except.ok.inj ((parse_eq_ok_iff.mpr h).symm.trans (parse_eq_ok_iff.mpr h'))

end LogLevel

namespace LogTarget

/-- A target that logging can be set up with: a directory has to be given from the root. -/
def WellFormed : LogTarget → Prop
  | .stderr => True
  | .directory path => ∃ rest, path.toList = '/' :: rest

/-- Two targets are the same: directories are compared by the components of their paths. -/
inductive Alike : LogTarget → LogTarget → Prop
  | stderr : Alike .stderr .stderr
  | directory {a b : String} : Path.components a = Path.components b →
      Alike (.directory a) (.directory b)

theorem same_iff {a b : LogTarget} : a.same b = true ↔ a.Alike b := by
  constructor
  · intro h
    cases a <;> cases b <;> simp only [same, Bool.false_eq_true] at h
    case stderr.stderr => exact .stderr
    case directory.directory => exact .directory (eq_of_beq h)
  · rintro (_ | h)
    · rfl
    · exact beq_iff_eq.mpr h

instance (a b : LogTarget) : Decidable (a.Alike b) :=
  decidable_of_iff _ same_iff

theorem isAbsolute_iff {path : String} :
    Path.isAbsolute path = true ↔ ∃ rest, path.toList = '/' :: rest := by
  simp [Path.isAbsolute, List.head?_eq_some_iff]

/-- Only the first component of a path can be the root. -/
theorem head?_components (path : String) :
    (Path.components path).head? = some .root ↔ Path.isAbsolute path = true := by
  have hpart : ∀ part, Path.component? part ≠ some .root := by
    intro part
    unfold Path.component?
    split <;> simp
  have hparts : ((Path.segments path.toList).filterMap Path.component?).head? ≠ some .root := by
    intro h
    obtain ⟨part, -, h⟩ := List.mem_filterMap.mp (List.mem_of_mem_head? h)
    exact hpart part h
  unfold Path.components
  dsimp only
  split
  · rename_i habsolute
    simp [habsolute]
  · rename_i hrelative
    refine iff_of_false ?_ hrelative
    split
    · simp
    · rwa [List.nil_append]

/-- What a well-formed target is alike to is well-formed itself. -/
theorem Alike.wellFormed {a b : LogTarget} (h : a.Alike b) (ha : a.WellFormed) : b.WellFormed := by
  cases h with
  | stderr => trivial
  | directory h =>
    rw [WellFormed, ← isAbsolute_iff, ← head?_components] at ha ⊢
    rw [← h]
    exact ha

theorem check_eq_ok_iff {target : LogTarget} : target.check = .ok () ↔ target.WellFormed := by
  cases target with
  | stderr => simp [check, WellFormed]
  | directory path =>
    rw [WellFormed, ← isAbsolute_iff, check]
    by_cases hempty : path = ""
    · subst hempty
      decide
    · cases Path.isAbsolute path <;> simp [hempty]

end LogTarget

/-! ## 3. What is wrong with a call -/

namespace Logging

/-- A call that sets logging up, and why the directories of the disk it is made on cannot be
created, where that is so. -/
structure Call where
  level : String
  target : LogTarget
  refusal? : String → Option String

variable {logging : Logging} {call : Call} {fault : LogFault} {level : LogLevel}
  {target : LogTarget}

/-- A fault of a call, whatever else is wrong with it. -/
inductive HasFault (logging : Logging) (call : Call) : LogFault → Prop
  | level {core : List Char} : (∀ level : LogLevel, ¬ level.NamedBy call.level) →
      Trimmed call.level.toList core →
      HasFault logging call (.unsupportedLevel (String.ofList (core.map Char.toLower)))
  | empty : call.target = .directory "" → HasFault logging call .emptyDirectory
  | relative {path : String} : call.target = .directory path → path ≠ "" →
      ¬ call.target.WellFormed → HasFault logging call (.relativeDirectory path)
  | creation {path reason : String} : logging.active = none → call.target = .directory path →
      call.refusal? path = some reason → HasFault logging call (.cannotCreate path reason)
  | target {level : LogLevel} {target : LogTarget} : logging.active = some (level, target) →
      ¬ target.Alike call.target → HasFault logging call (.otherTarget target call.target)
  | conflict {level requested : LogLevel} {target : LogTarget} :
      logging.active = some (level, target) → requested.NamedBy call.level → level ≠ requested →
      HasFault logging call (.otherLevel level requested)

end Logging

/-- When a fault is looked for: the level first, then the form of the target, the directory, and
last what logging was set up with. -/
def LogFault.stage : LogFault → Nat
  | .unsupportedLevel _ => 0
  | .emptyDirectory => 1
  | .relativeDirectory _ => 1
  | .cannotCreate _ _ => 2
  | .otherTarget _ _ => 3
  | .otherLevel _ _ => 4

namespace Logging

variable {logging : Logging} {call : Call} {fault other : LogFault} {level : LogLevel}
  {target : LogTarget}

/-- What comes of a call. -/
def Call.result (call : Call) (logging : Logging) : Except LogFault Logging :=
  init call.refusal? logging call.level call.target

/-- Nothing can be wrong before the target is looked at, once the level is known. -/
theorem HasFault.one_le_stage (h : HasFault logging call fault)
    (hnamed : level.NamedBy call.level) : 1 ≤ fault.stage := by
  cases h with
  | level hnone _ => exact absurd hnamed (hnone level)
  | _ => simp [LogFault.stage]

/-- Nothing can be wrong before the directory is created, once the target is well-formed, too. -/
theorem HasFault.two_le_stage (h : HasFault logging call fault)
    (hnamed : level.NamedBy call.level) (hform : call.target.WellFormed) : 2 ≤ fault.stage := by
  cases h with
  | level hnone _ => exact absurd hnamed (hnone level)
  | empty htarget =>
    rw [htarget] at hform
    obtain ⟨rest, hrest⟩ := hform
    cases hrest
  | relative _ _ hnot => exact absurd hform hnot
  | _ => simp [LogFault.stage]

/-- Where logging is set up no directory has to be created. -/
theorem HasFault.three_le_stage (h : HasFault logging call fault)
    (hnamed : level.NamedBy call.level) (hform : call.target.WellFormed)
    (hactive : logging.active ≠ none) : 3 ≤ fault.stage := by
  have htwo := h.two_le_stage hnamed hform
  cases h with
  | level _ _ | empty _ | relative _ _ _ => simp [LogFault.stage] at htwo
  | creation hnone _ _ => exact absurd hnone hactive
  | _ => simp [LogFault.stage]

/-- Once the target is the active one, nothing but the level can be wrong. -/
theorem HasFault.four_le_stage (h : HasFault logging call fault)
    (hnamed : level.NamedBy call.level) (hform : call.target.WellFormed)
    {activeLevel : LogLevel} (hactive : logging.active = some (activeLevel, target))
    (hsame : target.Alike call.target) : 4 ≤ fault.stage := by
  have hthree := h.three_le_stage hnamed hform (by simp [hactive])
  cases h with
  | target hactive' hnot =>
    cases hactive.symm.trans hactive'
    exact absurd hsame hnot
  | conflict _ _ _ => simp [LogFault.stage]
  | _ => simp [LogFault.stage] at hthree

/-- A call has one fault at most of each stage. -/
theorem HasFault.eq_of_stage_eq (h : HasFault logging call fault)
    (h' : HasFault logging call other) (hstage : fault.stage = other.stage) : fault = other := by
  cases h with
  | level _ hcore =>
    cases h' with
    | level _ hcore' => rw [(trimmed_iff.mp hcore).symm.trans (trimmed_iff.mp hcore')]
    | _ => cases hstage
  | empty htarget =>
    cases h' with
    | empty _ => rfl
    | relative htarget' hne _ =>
      cases htarget.symm.trans htarget'
      exact absurd rfl hne
    | _ => cases hstage
  | relative htarget hne _ =>
    cases h' with
    | empty htarget' =>
      cases htarget.symm.trans htarget'
      exact absurd rfl hne
    | relative htarget' _ _ =>
      cases htarget.symm.trans htarget'
      rfl
    | _ => cases hstage
  | creation _ htarget hreason =>
    cases h' with
    | creation _ htarget' hreason' =>
      cases htarget.symm.trans htarget'
      cases hreason.symm.trans hreason'
      rfl
    | _ => cases hstage
  | target hactive _ =>
    cases h' with
    | target hactive' _ =>
      cases hactive.symm.trans hactive'
      rfl
    | _ => cases hstage
  | conflict hactive hnamed _ =>
    cases h' with
    | conflict hactive' hnamed' _ =>
      cases hactive.symm.trans hactive'
      rw [hnamed.unique hnamed']
    | _ => cases hstage

/-! ## 4. What is reported -/

theorem check_eq_error {fault : LogFault} (h : call.target.check = .error fault) :
    HasFault logging call fault ∧ fault.stage = 1 := by
  have hform : ¬ call.target.WellFormed := by
    rw [← LogTarget.check_eq_ok_iff, h]
    simp
  cases htarget : call.target with
  | stderr => simp [htarget, LogTarget.WellFormed] at hform
  | directory path =>
    simp only [htarget, LogTarget.check] at h
    split at h
    · rename_i hempty
      cases h
      exact ⟨.empty (hempty ▸ htarget), rfl⟩
    · rename_i hne
      split at h <;> cases h
      exact ⟨.relative htarget hne hform, rfl⟩

theorem prepare_eq_ok_iff {refusal? : String → Option String} :
    prepare refusal? target = .ok () ↔ ∀ path, target = .directory path → refusal? path = none := by
  cases target with
  | stderr => simp [prepare]
  | directory path => cases hreason : refusal? path <;> simp [prepare, hreason]

/-- Where logging is on a call is compared with what it was set up with, the target first. -/
theorem start_of_on {refusal? : String → Option String} {activeLevel : LogLevel}
    (hactive : logging.active = some (activeLevel, target)) (requested : LogTarget) :
    start refusal? logging level requested =
      if target.Alike requested then
        if activeLevel = level then .ok logging else .error (.otherLevel activeLevel level)
      else .error (.otherTarget target requested) := by
  simp only [start, hactive, Bool.not_eq_true', ← LogTarget.same_iff]
  cases target.same requested <;> simp

/-- A call that finds nothing wrong with its level and its target. -/
theorem result_of_wellFormed (hnamed : level.NamedBy call.level)
    (hform : call.target.WellFormed) :
    call.result logging = start call.refusal? logging level call.target := by
  simp only [Call.result, init, LogLevel.parse_eq_ok_iff.mpr hnamed,
    LogTarget.check_eq_ok_iff.mpr hform]

/-- A directory that cannot be created is the first fault of a call that finds logging off. -/
theorem hasFault_of_off (hnamed : level.NamedBy call.level) (hform : call.target.WellFormed)
    (hactive : logging.active = none)
    (h : start call.refusal? logging level call.target = .error fault) :
    HasFault logging call fault ∧
      ∀ other, HasFault logging call other → fault.stage ≤ other.stage := by
  cases htarget : call.target with
  | stderr => simp [start, hactive, htarget, prepare] at h
  | directory path =>
    cases hreason : call.refusal? path with
    | none => simp [start, hactive, htarget, prepare, hreason] at h
    | some reason =>
      simp only [start, hactive, htarget, prepare, hreason] at h
      cases h
      exact ⟨.creation hactive htarget hreason, fun _ hother => hother.two_le_stage hnamed hform⟩

/-- Of what logging was set up with the target is compared first. -/
theorem hasFault_of_on (hnamed : level.NamedBy call.level) (hform : call.target.WellFormed)
    {activeLevel : LogLevel} (hactive : logging.active = some (activeLevel, target))
    (h : start call.refusal? logging level call.target = .error fault) :
    HasFault logging call fault ∧
      ∀ other, HasFault logging call other → fault.stage ≤ other.stage := by
  rw [start_of_on hactive] at h
  split at h
  · rename_i hsame
    split at h <;> cases h
    rename_i hdiffers
    exact ⟨.conflict hactive hnamed hdiffers,
      fun _ hother => hother.four_le_stage hnamed hform hactive hsame⟩
  · rename_i hdiffers
    cases h
    exact ⟨.target hactive hdiffers,
      fun _ hother => hother.three_le_stage hnamed hform (by simp [hactive])⟩

/-- **A fault that is reported is there, and it is an earliest one.** -/
theorem hasFault_of_result (h : call.result logging = .error fault) :
    HasFault logging call fault ∧
      ∀ other, HasFault logging call other → fault.stage ≤ other.stage := by
  cases hparse : LogLevel.parse call.level with
  | error unread =>
    simp only [Call.result, init, hparse] at h
    cases h
    obtain ⟨hnone, core, hcore, rfl⟩ := LogLevel.parse_eq_error_iff.mp hparse
    exact ⟨.level hnone hcore, fun _ _ => Nat.zero_le _⟩
  | ok level =>
    have hnamed := LogLevel.parse_eq_ok_iff.mp hparse
    cases hcheck : call.target.check with
    | error unfit =>
      simp only [Call.result, init, hparse, hcheck] at h
      cases h
      obtain ⟨hfault, hstage⟩ : HasFault logging call fault ∧ fault.stage = 1 :=
        check_eq_error hcheck
      exact ⟨hfault, fun other hother => hstage ▸ hother.one_le_stage hnamed⟩
    | ok _ =>
      have hform := LogTarget.check_eq_ok_iff.mp hcheck
      rw [result_of_wellFormed hnamed hform] at h
      cases hactive : logging.active with
      | none => exact hasFault_of_off hnamed hform hactive h
      | some active => exact hasFault_of_on hnamed hform hactive h

/-- What a call asks for that can set logging up. -/
structure Call.Starts (call : Call) (level : LogLevel) (target : LogTarget) : Prop where
  named : level.NamedBy call.level
  asked : call.target = target
  wellFormed : target.WellFormed
  creatable : ∀ path, target = .directory path → call.refusal? path = none

/-- A call is done only if its level has a name and its target is well-formed. -/
theorem wellFormed_of_result {after : Logging} (h : call.result logging = .ok after) :
    call.target.WellFormed ∧ ∃ level : LogLevel, level.NamedBy call.level := by
  cases hparse : LogLevel.parse call.level with
  | error unread => simp [Call.result, init, hparse] at h
  | ok level =>
    cases hcheck : call.target.check with
    | error unfit => simp [Call.result, init, hparse, hcheck] at h
    | ok _ => exact ⟨LogTarget.check_eq_ok_iff.mp hcheck, level, LogLevel.parse_eq_ok_iff.mp hparse⟩

/-- **Logging that is off is set up** by the calls that can. -/
theorem result_of_off (hactive : logging.active = none) {after : Logging} :
    call.result logging = .ok after ↔
      ∃ level target, call.Starts level target ∧ after = ⟨some (level, target)⟩ := by
  constructor
  · intro h
    obtain ⟨hform, level, hnamed⟩ := wellFormed_of_result h
    rw [result_of_wellFormed hnamed hform] at h
    cases hprepare : prepare call.refusal? call.target with
    | error fault => simp [start, hactive, hprepare] at h
    | ok _ =>
      simp only [start, hactive, hprepare, Except.ok.injEq] at h
      exact ⟨level, _, ⟨hnamed, rfl, hform, prepare_eq_ok_iff.mp hprepare⟩, h.symm⟩
  · rintro ⟨level, target, hstarts, rfl⟩
    obtain rfl := hstarts.asked
    rw [result_of_wellFormed hstarts.named hstarts.wellFormed]
    simp only [start, hactive, prepare_eq_ok_iff.mpr hstarts.creatable]

/-- **Logging that is on can only be asked for again.** -/
theorem result_of_on {activeLevel : LogLevel} {after : Logging}
    (hactive : logging.active = some (activeLevel, target)) : call.result logging = .ok after ↔
      activeLevel.NamedBy call.level ∧ call.target.WellFormed ∧ target.Alike call.target ∧
        after = logging := by
  constructor
  · intro h
    obtain ⟨hform, level, hnamed⟩ := wellFormed_of_result h
    rw [result_of_wellFormed hnamed hform] at h
    rw [start_of_on hactive] at h
    split at h
    · rename_i hsame
      split at h <;> cases h
      rename_i hlevel
      exact ⟨hlevel ▸ hnamed, hform, hsame, rfl⟩
    · cases h
  · rintro ⟨hnamed, hform, hsame, rfl⟩
    rw [result_of_wellFormed hnamed hform, start_of_on hactive, if_pos hsame, if_pos rfl]

/-- A call that is done has no fault. -/
theorem not_hasFault_of_result {after : Logging} (h : call.result logging = .ok after) :
    ¬ HasFault logging call fault := by
  intro hfault
  obtain ⟨hform, level, hnamed⟩ := wellFormed_of_result h
  have htwo := hfault.two_le_stage hnamed hform
  cases hactive : logging.active with
  | none =>
    obtain ⟨level, target, hstarts, -⟩ := (result_of_off hactive).mp h
    cases hfault with
    | level _ _ | empty _ | relative _ _ _ => simp [LogFault.stage] at htwo
    | creation _ htarget hreason =>
      rw [hstarts.creatable _ (hstarts.asked.symm.trans htarget)] at hreason
      cases hreason
    | target hactive' _ | conflict hactive' _ _ => simp [hactive] at hactive'
  | some active =>
    obtain ⟨hnamed', -, hsame, -⟩ := (result_of_on hactive).mp h
    have hfour := hfault.four_le_stage hnamed hform hactive hsame
    cases hfault with
    | conflict hactive' hrequested hdiffers =>
      cases hactive.symm.trans hactive'
      exact hdiffers (hnamed'.unique hrequested)
    | _ => simp [LogFault.stage] at hfour

/-- **The fault that is reported is the earliest.** -/
theorem result_eq_error_iff : call.result logging = .error fault ↔ HasFault logging call fault ∧
    ∀ other, HasFault logging call other → fault.stage ≤ other.stage := by
  refine ⟨hasFault_of_result, fun ⟨hfault, hfirst⟩ => ?_⟩
  cases hresult : call.result logging with
  | ok after => exact absurd hfault (not_hasFault_of_result hresult)
  | error reported =>
    obtain ⟨hreported, hfirst'⟩ := hasFault_of_result hresult
    rw [hreported.eq_of_stage_eq hfault
      (Nat.le_antisymm (hfirst' _ hfault) (hfirst _ hreported))]

/-! ## 5. Sequences of calls -/

/-- Logging after a call; one that fails changes nothing. -/
def after (logging : Logging) (call : Call) : Logging :=
  match call.result logging with
  | .ok changed => changed
  | .error _ => logging

/-- Logging after calls, made one after another. -/
def afterAll (logging : Logging) (calls : List Call) : Logging :=
  calls.foldl after logging

/-- The first of some calls that can set logging up, and what it asks for. -/
def FirstStart (calls : List Call) (level : LogLevel) (target : LogTarget) : Prop :=
  ∃ before call later, calls = before ++ call :: later ∧
    (∀ earlier ∈ before, ∀ level target, ¬ earlier.Starts level target) ∧
    call.Starts level target

/-- What is set up stays as it is. -/
theorem after_of_on (h : logging.active ≠ none) (call : Call) : after logging call = logging := by
  unfold after
  cases hresult : call.result logging with
  | error fault => rfl
  | ok changed =>
    obtain ⟨active, hactive⟩ := Option.ne_none_iff_exists'.mp h
    exact ((result_of_on hactive).mp hresult).2.2.2

theorem afterAll_of_on (h : logging.active ≠ none) (calls : List Call) :
    afterAll logging calls = logging := by
  induction calls with
  | nil => rfl
  | cons call rest ih =>
    rw [afterAll, List.foldl_cons, after_of_on h]
    exact ih

/-- A call that can set logging up does so, and no other call does. -/
theorem active_after_of_off (h : logging.active = none) (call : Call) :
    (∃ level target, call.Starts level target ∧
      (after logging call).active = some (level, target)) ∨
    (∀ level target, ¬ call.Starts level target) ∧ after logging call = logging := by
  unfold after
  cases hresult : call.result logging with
  | ok changed =>
    obtain ⟨level, target, hstarts, rfl⟩ := (result_of_off h).mp hresult
    exact .inl ⟨level, target, hstarts, rfl⟩
  | error fault =>
    refine .inr ⟨fun level target hstarts => ?_, rfl⟩
    rw [(result_of_off h).mpr ⟨level, target, hstarts, rfl⟩] at hresult
    cases hresult

theorem Call.Starts.unique {level' : LogLevel} {target' : LogTarget}
    (h : call.Starts level target) (h' : call.Starts level' target') :
    level = level' ∧ target = target' :=
  ⟨h.named.unique h'.named, h.asked.symm.trans h'.asked⟩

/-- **The first call that can set logging up settles what it is.** -/
theorem active_afterAll_iff (hoff : logging.active = none) (calls : List Call) :
    (afterAll logging calls).active = some (level, target) ↔ FirstStart calls level target := by
  induction calls with
  | nil =>
    refine iff_of_false (by simp [afterAll, hoff]) ?_
    rintro ⟨before, call, later, hcalls, -⟩
    simp at hcalls
  | cons call rest ih =>
    rw [afterAll, List.foldl_cons]
    rcases active_after_of_off hoff call with ⟨level', target', hstarts, hafter⟩ | ⟨hnot, hafter⟩
    · have hkept : rest.foldl after (after logging call) = after logging call :=
        afterAll_of_on (by simp [hafter]) rest
      rw [hkept, hafter, Option.some.injEq, Prod.mk.injEq]
      constructor
      · rintro ⟨rfl, rfl⟩
        exact ⟨[], call, rest, rfl, by simp, hstarts⟩
      · rintro ⟨before, first, later, hcalls, hbefore, hfirst⟩
        cases before with
        | nil =>
          cases hcalls
          exact hstarts.unique hfirst
        | cons c before =>
          cases hcalls
          exact absurd hstarts (hbefore call List.mem_cons_self _ _)
    · rw [hafter, show rest.foldl after logging = afterAll logging rest from rfl, ih]
      constructor
      · rintro ⟨before, first, later, rfl, hbefore, hfirst⟩
        exact ⟨call :: before, first, later, rfl, by simpa using ⟨hnot, hbefore⟩, hfirst⟩
      · rintro ⟨before, first, later, hcalls, hbefore, hfirst⟩
        cases before with
        | nil =>
          cases hcalls
          exact absurd hfirst (hnot _ _)
        | cons c before =>
          cases hcalls
          exact ⟨before, first, later, rfl,
            fun earlier hmem => hbefore earlier (List.mem_cons_of_mem _ hmem), hfirst⟩

/-- What logging is after some calls were made from the start, and what any further call comes
to. -/
structure SetUpOnce (calls : List Call) (now : Logging) : Prop where
  /-- Logging is off until the first call that can set it up, and then as this call asks. -/
  active_iff : ∀ level target, now.active = some (level, target) ↔ FirstStart calls level target
  /-- Once it is on it stays as it is. -/
  kept : now.active ≠ none → ∀ later, afterAll now later = now
  /-- While it is off the calls that can set it up are done. -/
  off : now.active = none → ∀ call : Call,
    (∃ changed, call.result now = .ok changed) ↔ ∃ level target, call.Starts level target
  /-- Once it is on the calls are done that ask for its level and its target again. -/
  on : ∀ level target, now.active = some (level, target) → ∀ call : Call,
    (∃ changed, call.result now = .ok changed) ↔
      level.NamedBy call.level ∧ target.Alike call.target
  /-- A call that fails changes nothing. -/
  failed : ∀ call fault, call.result now = .error fault → after now call = now
  /-- It is answered with the earliest of its faults. -/
  reported : ∀ call fault, call.result now = .error fault ↔
    HasFault now call fault ∧ ∀ other, HasFault now call other → fault.stage ≤ other.stage

/-- **Logging is set up once**, whatever calls are made. -/
theorem set_up_once (calls : List Call) : SetUpOnce calls (afterAll off calls) where
  active_iff _ _ := active_afterAll_iff rfl calls
  kept := afterAll_of_on
  off hoff call := by
    constructor
    · rintro ⟨changed, hresult⟩
      obtain ⟨level, target, hstarts, -⟩ := (result_of_off hoff).mp hresult
      exact ⟨level, target, hstarts⟩
    · rintro ⟨level, target, hstarts⟩
      exact ⟨_, (result_of_off hoff).mpr ⟨level, target, hstarts, rfl⟩⟩
  on level target hon call := by
    have hform : target.WellFormed := by
      obtain ⟨_, _, _, -, -, hstarts⟩ := (active_afterAll_iff rfl calls).mp hon
      exact hstarts.wellFormed
    constructor
    · rintro ⟨changed, hresult⟩
      obtain ⟨hnamed, -, hsame, -⟩ := (result_of_on hon).mp hresult
      exact ⟨hnamed, hsame⟩
    · rintro ⟨hnamed, hsame⟩
      exact ⟨_, (result_of_on hon).mpr ⟨hnamed, hsame.wellFormed hform, hsame, rfl⟩⟩
  failed call fault hfault := by simp [after, hfault]
  reported _ _ := result_eq_error_iff

/-- A directory that cannot be created leaves logging off, and the next call sets it up. -/
example :
    afterAll off [⟨"INFO", .directory "/dev/null/x", refusal?⟩, ⟨" Warning ", .stderr, refusal?⟩,
      ⟨"info", .stderr, refusal?⟩] = ⟨some (.warn, .stderr)⟩ := by
  decide

end Logging

end EntityStore

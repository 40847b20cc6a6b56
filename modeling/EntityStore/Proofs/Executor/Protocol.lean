import EntityStore.Executor.Scripted
import Mathlib
/-!
# The protocol of a run

What a run of an executor does, on any control, with any past of the executor and any unit of work.
The unit may do to the state whatever it likes, and that includes calls of the control, so every
answer is that of the state which the acts before it have left (`Executor.moments`).

After its recovery a run takes one of five courses (`Moments.Course`): it is refused its
transaction, it commits, or its unit of work has failed, and then it is rolled back, or cannot be,
or need not be because the transaction is over already.  There is no other (`exists_course`), and
the course says all that the run does (`run_of_course`).

Main statement: `run_follows_protocol`.  The acts of a run are those of the same run on a control
that notes them (`Control.observed`), which is shown to be no different otherwise.
-/

namespace EntityStore

variable {σ α : Type}

/-! ## 1. Acts -/

/-- What a run does: it calls its control, or its unit of work. -/
inductive Act where
  | call (name : ControlCall)
  | work
  deriving DecidableEq, Repr

/-- The state that an act leaves behind. -/
def Act.perform (c : Control σ) (work : Work σ α) (s : σ) : Act → σ
  | .call .begin => (c.begin s).2
  | .call .commit => (c.commit s).2
  | .call .rollback => (c.rollback s).2
  | .work => (work s).state

/-- The same control, on which each call is noted after the acts before. -/
def Control.observed (c : Control σ) : Control (σ × List Act) where
  begin p := ((c.begin p.1).1, (c.begin p.1).2, p.2 ++ [.call .begin])
  commit p := ((c.commit p.1).1, (c.commit p.1).2, p.2 ++ [.call .commit])
  rollback p := ((c.rollback p.1).1, (c.rollback p.1).2, p.2 ++ [.call .rollback])
  isActive p := c.isActive p.1

/-- A reply with the acts noted so far beside its state. -/
def Reply.withActs (reply : Reply σ α) (acts : List Act) : Reply (σ × List Act) α :=
  ⟨reply.result, (reply.state, acts), reply.log⟩

/-- The same unit of work, noted as one act.  What it does to the control itself is not noted. -/
def Work.observed (work : Work σ α) : Work (σ × List Act) α :=
  fun p => (work p.1).withActs (p.2 ++ [.work])

/-- Acts on a control that notes them are the same acts, and they are noted. -/
theorem Act.foldl_observed (c : Control σ) (work : Work σ α) (acts : List Act) (s : σ)
    (made : List Act) :
    acts.foldl (Act.perform c.observed (Work.observed work)) (s, made) =
      (acts.foldl (Act.perform c work) s, made ++ acts) := by
  induction acts generalizing s made with
  | nil => simp
  | cons act rest ih =>
    have hact : Act.perform c.observed (Work.observed work) (s, made) act =
        (Act.perform c work s act, made ++ [act]) := by
      rcases act with (_ | _ | _) | _ <;> rfl
    rw [List.foldl_cons, hact, ih, List.foldl_cons, List.append_assoc, List.singleton_append]

/-! ## 2. What a run meets -/

/-- What a run meets: the answer of the rollback that recovers, if it is called, and the answers of
begin, of the work and of commit, each in the state that the one before has left.  After a begin
that is refused, and after work that fails, the others are what would have come next. -/
structure Moments (σ α : Type) where
  recovery : Option (Except SessionFault Unit × σ)
  begun : Except SessionFault Unit × σ
  done : Reply σ α
  sealed : Except SessionFault Unit × σ

namespace Moments

/-- Why the unit of work failed, if it did: for a reason of its own, or because its commit did. -/
def failure? (m : Moments σ α) : Option RepositoryFault :=
  match m.done.result with
  | .error fault => some fault
  | .ok _ =>
    match m.sealed.1 with
    | .error source => some (.transaction .commit source)
    | .ok () => none

/-- The state in which a unit of work that failed is to be undone. -/
def closing (m : Moments σ α) : σ :=
  match m.done.result with
  | .ok _ => m.sealed.2
  | .error _ => m.done.state

/-- The rollback that recovers, if it is called. -/
def recoveryActs (m : Moments σ α) : List Act :=
  if m.recovery.isSome then [.call .rollback] else []

/-- The event of the recovery, if there is one. -/
def recoveryLog (m : Moments σ α) : List Event :=
  match m.recovery.map Prod.fst with
  | none => []
  | some (.ok ()) => [.recovered]
  | some (.error source) => [.recoveryFailed source.message]

/-- The commit, which is called after work that succeeds. -/
def commitActs (m : Moments σ α) : List Act :=
  if m.done.result.isOk then [.call .commit] else []

/-- What is reported of undoing a unit of work. -/
def undoEvent (c : Control σ) (m : Moments σ α) (fault : RepositoryFault) : Event :=
  if c.isActive m.closing then
    match (c.rollback m.closing).1 with
    | .ok () => .rolledBack fault.code
    | .error source => .rollbackFailed fault.code source.message
  else .rollbackSkipped fault.code

/-- The events of the work, if it is called. -/
def workLog (m : Moments σ α) : List Event :=
  if m.begun.1.isOk then m.done.log else []

/-- The rollback of a unit of work that failed is called, and fails. -/
def LeftOpen (c : Control σ) (m : Moments σ α) : Prop :=
  m.begun.1 = .ok () ∧ m.failure?.isSome ∧ c.isActive m.closing = true ∧
    ∃ source, (c.rollback m.closing).1 = .error source

variable {c : Control σ} {m : Moments σ α} {fault : RepositoryFault}

theorem failure?_eq_some :
    m.failure? = some fault ↔ m.done.result = .error fault ∨
      ∃ value source, m.done.result = .ok value ∧ m.sealed.1 = .error source ∧
        fault = .transaction .commit source := by
  unfold failure?
  cases m.done.result with
  | error fault' => simp
  | ok value =>
    cases m.sealed.1 with
    | error source => simp [eq_comm]
    | ok _ => simp

theorem failure?_eq_none :
    m.failure? = none ↔ (∃ value, m.done.result = .ok value) ∧ m.sealed.1 = .ok () := by
  unfold failure?
  cases m.done.result with
  | error fault => simp
  | ok value => cases m.sealed.1 <;> simp

/-! ## 3. The courses of a run -/

/-- The five courses of a run after its recovery: the acts, the result, the state of the executor
and the last event. -/
inductive Course (c : Control σ) (m : Moments σ α) :
    List Act → Except RepositoryFault α → ExecutorState → Event → Prop
  | refused {source : SessionFault} : m.begun.1 = .error source →
      Course c m [.call .begin] (.error (.transaction .begin source)) .idle
        (.beginFailed source.message)
  | committed {value : α} : m.begun.1 = .ok () → m.done.result = .ok value →
      m.sealed.1 = .ok () →
      Course c m [.call .begin, .work, .call .commit] (.ok value) .committed .committed
  | skipped {fault : RepositoryFault} : m.begun.1 = .ok () → m.failure? = some fault →
      c.isActive m.closing = false →
      Course c m ([.call .begin, .work] ++ m.commitActs) (.error fault) .rolledBack
        (.rollbackSkipped fault.code)
  | rolledBack {fault : RepositoryFault} : m.begun.1 = .ok () → m.failure? = some fault →
      c.isActive m.closing = true → (c.rollback m.closing).1 = .ok () →
      Course c m ([.call .begin, .work] ++ m.commitActs ++ [.call .rollback]) (.error fault)
        .rolledBack (.rolledBack fault.code)
  | leftOpen {fault : RepositoryFault} {source : SessionFault} : m.begun.1 = .ok () →
      m.failure? = some fault → c.isActive m.closing = true →
      (c.rollback m.closing).1 = .error source →
      Course c m ([.call .begin, .work] ++ m.commitActs ++ [.call .rollback]) (.error fault)
        .active (.rollbackFailed fault.code source.message)

/-- **There is no other course.** -/
theorem exists_course (c : Control σ) (m : Moments σ α) :
    ∃ acts result state event, m.Course c acts result state event := by
  cases hbegun : m.begun.1 with
  | error source => exact ⟨_, _, _, _, .refused hbegun⟩
  | ok _ =>
    cases hfailure : m.failure? with
    | none =>
      obtain ⟨⟨value, hdone⟩, hsealed⟩ := failure?_eq_none.mp hfailure
      exact ⟨_, _, _, _, .committed hbegun hdone hsealed⟩
    | some fault =>
      cases hopen : c.isActive m.closing with
      | false => exact ⟨_, _, _, _, .skipped hbegun hfailure hopen⟩
      | true =>
        cases hrollback : (c.rollback m.closing).1 with
        | ok _ => exact ⟨_, _, _, _, .rolledBack hbegun hfailure hopen hrollback⟩
        | error source => exact ⟨_, _, _, _, .leftOpen hbegun hfailure hopen hrollback⟩

namespace Course

variable {acts : List Act} {result : Except RepositoryFault α} {state : ExecutorState}
  {event : Event}

/-- A course depends on what is answered only. -/
theorem congr {σ' : Type} {c' : Control σ'} {m' : Moments σ' α}
    (h : m.Course c acts result state event)
    (hbegun : m'.begun.1 = m.begun.1) (hdone : m'.done.result = m.done.result)
    (hsealed : m'.sealed.1 = m.sealed.1) (hopen : c'.isActive m'.closing = c.isActive m.closing)
    (hrollback : (c'.rollback m'.closing).1 = (c.rollback m.closing).1) :
    m'.Course c' acts result state event := by
  have hfailure : m'.failure? = m.failure? := by
    rw [failure?, failure?, hdone, hsealed]
  have hcommit : m'.commitActs = m.commitActs := by
    rw [commitActs, commitActs, hdone]
  cases h with
  | refused hrefused => exact .refused (hbegun.trans hrefused)
  | committed hok hvalue hcommitted =>
    exact .committed (hbegun.trans hok) (hdone.trans hvalue) (hsealed.trans hcommitted)
  | skipped hok hfault hclosed =>
    rw [← hcommit]
    exact .skipped (hbegun.trans hok) (hfailure.trans hfault) (hopen.trans hclosed)
  | rolledBack hok hfault hstill hundone =>
    rw [← hcommit]
    exact .rolledBack (hbegun.trans hok) (hfailure.trans hfault) (hopen.trans hstill)
      (hrollback.trans hundone)
  | leftOpen hok hfault hstill hstuck =>
    rw [← hcommit]
    exact .leftOpen (hbegun.trans hok) (hfailure.trans hfault) (hopen.trans hstill)
      (hrollback.trans hstuck)

theorem acts_eq (h : m.Course c acts result state event) :
    acts = .call .begin :: if m.begun.1.isOk then .work :: (m.commitActs ++
      (if m.failure?.isSome && c.isActive m.closing then [.call .rollback] else [])) else [] := by
  cases h with
  | refused hrefused => simp [hrefused, Except.isOk, Except.toBool]
  | committed hok hvalue hcommitted =>
    have hnone : m.failure? = none := failure?_eq_none.mpr ⟨⟨_, hvalue⟩, hcommitted⟩
    simp [hok, hnone, hvalue, commitActs, Except.isOk, Except.toBool]
  | skipped hok hfault hclosed => simp [hok, hfault, hclosed, Except.isOk, Except.toBool]
  | rolledBack hok hfault hopen _ => simp [hok, hfault, hopen, Except.isOk, Except.toBool]
  | leftOpen hok hfault hopen _ => simp [hok, hfault, hopen, Except.isOk, Except.toBool]

/-- How a run comes by its result. -/
theorem result_cases (h : m.Course c acts result state event) :
    (∃ source, m.begun.1 = .error source ∧ result = .error (.transaction .begin source) ∧
      state = .idle) ∨
    (m.begun.1 = .ok () ∧ m.failure? = none ∧ m.done.result = result ∧ state = .committed) ∨
    (m.begun.1 = .ok () ∧ ∃ fault, m.failure? = some fault ∧ result = .error fault ∧
      (state = .active ∧ m.LeftOpen c ∨ state = .rolledBack ∧ ¬ m.LeftOpen c)) := by
  cases h with
  | refused hrefused => exact .inl ⟨_, hrefused, rfl, rfl⟩
  | committed hok hvalue hcommitted =>
    exact .inr (.inl ⟨hok, failure?_eq_none.mpr ⟨⟨_, hvalue⟩, hcommitted⟩, hvalue, rfl⟩)
  | skipped hok hfault hclosed =>
    refine .inr (.inr ⟨hok, _, hfault, rfl, .inr ⟨rfl, ?_⟩⟩)
    simp [LeftOpen, hclosed]
  | rolledBack hok hfault hopen hrolled =>
    refine .inr (.inr ⟨hok, _, hfault, rfl, .inr ⟨rfl, ?_⟩⟩)
    simp [LeftOpen, hrolled]
  | leftOpen hok hfault hopen hstuck =>
    refine .inr (.inr ⟨hok, _, hfault, rfl, .inl ⟨rfl, hok, ?_, hopen, _, hstuck⟩⟩)
    rw [hfault]
    rfl

theorem result_ok (h : m.Course c acts result state event) (value : α) :
    result = .ok value ↔
      m.begun.1 = .ok () ∧ m.done.result = .ok value ∧ m.sealed.1 = .ok () := by
  have hsealed : m.done.result = .ok value ∧ m.sealed.1 = .ok () → m.failure? = none :=
    fun h => failure?_eq_none.mpr ⟨⟨value, h.1⟩, h.2⟩
  rcases h.result_cases with ⟨source, hrefused, rfl, -⟩ | ⟨hok, hnone, hdone, -⟩ |
    ⟨hok, fault, hfault, rfl, -⟩
  · simp [hrefused]
  · simp [hok, hdone, (failure?_eq_none.mp hnone).2]
  · rw [hfault] at hsealed
    simpa [hok] using hsealed

theorem result_error (h : m.Course c acts result state event) (fault : RepositoryFault) :
    result = .error fault ↔
      (∃ source, m.begun.1 = .error source ∧ fault = .transaction .begin source) ∨
        m.begun.1 = .ok () ∧ m.failure? = some fault := by
  rcases h.result_cases with ⟨source, hrefused, rfl, -⟩ | ⟨hok, hnone, hdone, -⟩ |
    ⟨hok, fault', hfault, rfl, -⟩
  · simp [hrefused, eq_comm]
  · obtain ⟨value, hvalue⟩ := (failure?_eq_none.mp hnone).1
    simp [hok, hnone, ← hdone, hvalue]
  · simp [hok, hfault]

theorem state_idle (h : m.Course c acts result state event) :
    state = .idle ↔ ∃ source, m.begun.1 = .error source := by
  rcases h.result_cases with ⟨source, hrefused, -, rfl⟩ | ⟨hok, -, -, rfl⟩ |
    ⟨hok, _, _, _, ⟨rfl, -⟩ | ⟨rfl, -⟩⟩
  · simp [hrefused]
  · simp [hok]
  · simp [hok]
  · simp [hok]

theorem state_committed (h : m.Course c acts result state event) :
    state = .committed ↔ ∃ value, result = .ok value := by
  rcases h.result_cases with ⟨_, -, rfl, rfl⟩ | ⟨-, hnone, hdone, rfl⟩ |
    ⟨-, _, -, rfl, ⟨rfl, -⟩ | ⟨rfl, -⟩⟩
  · simp
  · simpa [← hdone] using (failure?_eq_none.mp hnone).1
  · simp
  · simp

theorem state_active (h : m.Course c acts result state event) :
    state = .active ↔ m.LeftOpen c := by
  rcases h.result_cases with ⟨source, hrefused, -, rfl⟩ | ⟨-, hnone, -, rfl⟩ |
    ⟨-, _, -, -, ⟨rfl, hopen⟩ | ⟨rfl, hopen⟩⟩
  · simp [LeftOpen, hrefused]
  · simp [LeftOpen, hnone]
  · simp [hopen]
  · simp [hopen]

theorem state_rolledBack (h : m.Course c acts result state event) :
    state = .rolledBack ↔
      m.begun.1 = .ok () ∧ (∃ fault, result = .error fault) ∧ ¬ m.LeftOpen c := by
  rcases h.result_cases with ⟨source, hrefused, -, rfl⟩ | ⟨-, hnone, hdone, rfl⟩ |
    ⟨hok, _, -, rfl, ⟨rfl, hopen⟩ | ⟨rfl, hopen⟩⟩
  · simp [hrefused]
  · obtain ⟨value, hvalue⟩ := (failure?_eq_none.mp hnone).1
    simp [← hdone, hvalue]
  · simp [hopen]
  · simp [hok, hopen]

theorem event_eq (h : m.Course c acts result state event) :
    (∀ source, m.begun.1 = .error source → event = .beginFailed source.message) ∧
      (∀ value, result = .ok value → event = .committed) ∧
      (∀ fault, m.begun.1 = .ok () → m.failure? = some fault → event = m.undoEvent c fault) := by
  cases h with
  | refused hrefused => simp [hrefused]
  | committed hok hvalue hcommitted =>
    have hnone : m.failure? = none := failure?_eq_none.mpr ⟨⟨_, hvalue⟩, hcommitted⟩
    simp [hok, hnone]
  | skipped hok hfault hclosed => simp [hok, hfault, undoEvent, hclosed]
  | rolledBack hok hfault hopen hrolled => simp [hok, hfault, undoEvent, hopen, hrolled]
  | leftOpen hok hfault hopen hstuck => simp [hok, hfault, undoEvent, hopen, hstuck]

end Course

end Moments

/-! ## 4. Runs -/

namespace Executor

/-- What a run meets on its way.  It recovers if the executor is in the middle of a transaction, and
one is open. -/
def moments (c : Control σ) (x : Executor) (work : Work σ α) (s : σ) : Moments σ α :=
  let recovery := if x.state = .active ∧ c.isActive s = true then some (c.rollback s) else none
  let begun := c.begin ((recovery.map (·.2)).getD s)
  let done := work begun.2
  ⟨recovery, begun, done, c.commit done.state⟩

variable {c : Control σ} {x : Executor} {work : Work σ α} {s : σ} {m : Moments σ α}

/-- Each moment is an answer in the state that the acts before it have left. -/
theorem moments_eq (hm : moments c x work s = m) :
    c.begin (m.recoveryActs.foldl (Act.perform c work) s) = m.begun ∧ work m.begun.2 = m.done ∧
      c.commit m.done.state = m.sealed := by
  subst hm
  refine ⟨?_, rfl, rfl⟩
  by_cases howing : x.state = .active ∧ c.isActive s = true
  · simp [moments, Moments.recoveryActs, howing, Act.perform]
  · simp [moments, Moments.recoveryActs, howing]

/-- A recovery calls what the moments say, and reports it. -/
theorem recover_eq (hm : moments c x work s = m) :
    recover c x s = (m.recoveryActs.foldl (Act.perform c work) s, m.recoveryLog) := by
  subst hm
  unfold recover Moments.recoveryActs Moments.recoveryLog
  by_cases howing : x.state = .active ∧ c.isActive s = true
  · have hrecovery : (moments c x work s).recovery = some (c.rollback s) := if_pos howing
    simp only [hrecovery, howing, decide_true, Bool.and_true, Option.isSome_some, Option.map_some,
      if_true, List.foldl_cons, List.foldl_nil, Act.perform]
    rcases c.rollback s with ⟨_ | _, s'⟩ <;> rfl
  · have hrecovery : (moments c x work s).recovery = none := if_neg howing
    simp [hrecovery, howing]

/-- A unit of work is undone in the state that it left, or that its commit left. -/
theorem closing_eq (hm : moments c x work s = m) :
    m.closing = m.commitActs.foldl (Act.perform c work) m.done.state := by
  unfold Moments.closing Moments.commitActs
  rw [← (moments_eq hm).2.2]
  cases m.done.result <;> rfl

/-- The end of a unit of work that has failed. -/
theorem finish_of_failure (hm : moments c x work s = m) {fault : RepositoryFault}
    (h : m.failure? = some fault) :
    finish c m.done =
      ((undo c fault m.closing).1, ⟨.error fault, (undo c fault m.closing).2.1,
        m.done.log ++ [(undo c fault m.closing).2.2]⟩) := by
  unfold finish Moments.closing
  rcases Moments.failure?_eq_some.mp h with hdone | ⟨value, source, hdone, hrefused, rfl⟩
  · simp only [hdone]
  · have hcommit : c.commit m.done.state = (.error source, m.sealed.2) :=
      (moments_eq hm).2.2.trans (Prod.ext hrefused rfl)
    simp only [hdone, hcommit]

/-- After a begin that was not refused a run ends as its unit of work does. -/
theorem run_of_begun (hm : moments c x work s = m) (h : m.begun.1 = .ok ()) :
    run c x work s =
      ((finish c m.done).1,
        { (finish c m.done).2 with log := m.recoveryLog ++ (finish c m.done).2.log }) := by
  obtain ⟨hbegun, hdone, -⟩ := moments_eq hm
  have hbegin : c.begin (m.recoveryActs.foldl (Act.perform c work) s) = (.ok (), m.begun.2) :=
    hbegun.trans (Prod.ext h rfl)
  unfold run
  rw [recover_eq hm]
  dsimp only
  rw [hbegin]
  dsimp only
  rw [hdone]

/-- **A run is what its course says**: its acts lead to the state that it leaves, and its events
are those of the recovery and of the work, and one more. -/
theorem run_of_course (hm : moments c x work s = m) {acts : List Act}
    {result : Except RepositoryFault α} {state : ExecutorState} {event : Event}
    (h : m.Course c acts result state event) :
    run c x work s = (⟨state⟩, ⟨result,
      (m.recoveryActs ++ acts).foldl (Act.perform c work) s,
      m.recoveryLog ++ m.workLog ++ [event]⟩) := by
  obtain ⟨hbegun, hdone, hsealed⟩ := moments_eq hm
  have hundone : ∀ last : List Act,
      (m.recoveryActs ++ ([Act.call .begin, .work] ++ m.commitActs ++ last)).foldl
        (Act.perform c work) s = last.foldl (Act.perform c work) m.closing := by
    intro last
    simp [Act.perform, hbegun, hdone, closing_eq hm]
  have hlog : m.begun.1 = .ok () → m.workLog = m.done.log := by
    intro hok
    simp [Moments.workLog, hok, Except.isOk, Except.toBool]
  cases h with
  | refused hrefused =>
    have hbegin : c.begin (m.recoveryActs.foldl (Act.perform c work) s) = (.error _, m.begun.2) :=
      hbegun.trans (Prod.ext hrefused rfl)
    unfold run
    rw [recover_eq hm]
    dsimp only
    rw [hbegin]
    simp [Act.perform, hbegin, Moments.workLog, hrefused, Except.isOk, Except.toBool]
  | committed hok hvalue hcommitted =>
    have hcommit : c.commit m.done.state = (.ok (), m.sealed.2) :=
      hsealed.trans (Prod.ext hcommitted rfl)
    rw [run_of_begun hm hok, finish, hvalue]
    simp [Act.perform, hbegun, hdone, hcommit, hlog hok]
  | skipped hok hfault hclosed =>
    have hleft := hundone []
    rw [List.append_nil] at hleft
    rw [run_of_begun hm hok, finish_of_failure hm hfault, hleft, hlog hok]
    simp [undo, hclosed]
  | rolledBack hok hfault hopen hrolled =>
    have hrollback : c.rollback m.closing = (.ok (), (c.rollback m.closing).2) :=
      Prod.ext hrolled rfl
    rw [run_of_begun hm hok, finish_of_failure hm hfault, hundone, hlog hok]
    simp only [undo, hopen, if_true]
    rw [hrollback]
    simp [Act.perform]
  | leftOpen hok hfault hopen hstuck =>
    have hrollback : c.rollback m.closing = (.error _, (c.rollback m.closing).2) :=
      Prod.ext hstuck rfl
    rw [run_of_begun hm hok, finish_of_failure hm hfault, hundone, hlog hok]
    simp only [undo, hopen, if_true]
    rw [hrollback]
    simp [Act.perform]

/-! ## 5. Runs that are observed -/

/-- On a control that notes the acts a run meets the same answers, in the same states. -/
theorem moments_observed (c : Control σ) (x : Executor) (work : Work σ α) (s : σ)
    (made : List Act) :
    let m := moments c x work s
    let m' := moments c.observed x (Work.observed work) (s, made)
    m'.recovery.map Prod.fst = m.recovery.map Prod.fst ∧ m'.begun.1 = m.begun.1 ∧
      (∃ acts, m'.done = m.done.withActs acts) ∧ m'.sealed.1 = m.sealed.1 ∧
      m'.sealed.2.1 = m.sealed.2 := by
  intro m m'
  have hbegun : m'.recovery.map Prod.fst = m.recovery.map Prod.fst ∧
      m'.begun.1 = m.begun.1 ∧ m'.begun.2.1 = m.begun.2 := by
    by_cases howing : x.state = .active ∧ c.isActive s = true
    · simp [m, m', moments, howing, Control.observed]
    · simp [m, m', moments, howing, Control.observed]
  have hdone : m'.done = m.done.withActs (m'.begun.2.2 ++ [.work]) :=
    congrArg (fun s => (work s).withActs (m'.begun.2.2 ++ [Act.work])) hbegun.2.2
  have hsealed : m'.sealed = c.observed.commit m'.done.state := rfl
  rw [hdone] at hsealed
  refine ⟨hbegun.1, hbegun.2.1, ⟨_, hdone⟩, ?_, ?_⟩ <;> rw [hsealed] <;> rfl

/-- **A run on the control that notes the acts is the run itself**, with the acts of its course
noted. -/
theorem run_observed (hm : moments c x work s = m) {acts : List Act}
    {result : Except RepositoryFault α} {state : ExecutorState} {event : Event}
    (h : m.Course c acts result state event) (made : List Act) :
    run c.observed x (Work.observed work) (s, made) =
      ((run c x work s).1, (run c x work s).2.withActs (made ++ (m.recoveryActs ++ acts))) := by
  obtain ⟨hrecovery, hbegun, ⟨noted, hdone⟩, hsealed, hsealed'⟩ := moments_observed c x work s made
  rw [hm] at hrecovery hbegun hdone hsealed hsealed'
  generalize hm' : moments c.observed x (Work.observed work) (s, made) = m' at *
  have hclosing : m'.closing.1 = m.closing := by
    unfold Moments.closing
    rw [hdone]
    simp only [Reply.withActs]
    cases m.done.result with
    | ok value => exact hsealed'
    | error fault => rfl
  have hcourse : m'.Course c.observed acts result state event := by
    refine h.congr hbegun (by rw [hdone]; rfl) hsealed ?_ ?_
    · exact congrArg c.isActive hclosing
    · exact congrArg (fun s => (c.rollback s).1) hclosing
  have hacts : m'.recoveryActs = m.recoveryActs := by
    have hsome := congrArg Option.isSome hrecovery
    simp only [Option.isSome_map] at hsome
    rw [Moments.recoveryActs, Moments.recoveryActs, hsome]
  have hlog : m'.recoveryLog = m.recoveryLog ∧ m'.workLog = m.workLog := by
    constructor
    · rw [Moments.recoveryLog, Moments.recoveryLog, hrecovery]
    · rw [Moments.workLog, Moments.workLog, hbegun, hdone]
      rfl
  rw [run_of_course hm h, run_of_course hm' hcourse, hacts, hlog.1, hlog.2, Act.foldl_observed]
  rfl

/-! ## 6. The protocol -/

/-- The protocol of a run: what it does, returns, remembers and reports, by what it meets. -/
structure Protocol (c : Control σ) (x : Executor) (work : Work σ α) (s : σ) (m : Moments σ α)
    (acts : List Act) (x' : Executor) (reply : Reply σ α) : Prop where
  /-- One rollback comes first, exactly if the executor is in the middle of a transaction and one is
  open.  Begin is called once.  The work is called once, exactly if begin succeeds; commit is called
  once, exactly if the work succeeds; and rollback is called once after that, exactly if the work
  or its commit fails and a transaction is open at that moment. -/
  acts_eq : acts =
    (if x.state = .active ∧ c.isActive s = true then [.call .rollback] else []) ++
      .call .begin :: if m.begun.1.isOk then .work ::
        ((if m.done.result.isOk then [.call .commit] else []) ++
          (if m.failure?.isSome && c.isActive m.closing then [.call .rollback] else []))
      else []
  /-- The state that is left is the one that the acts lead to. -/
  left : reply.state = acts.foldl (Act.perform c work) s
  /-- The run succeeds exactly if begin, the work and commit do, with the value of the work. -/
  result_ok : ∀ value, reply.result = .ok value ↔
    m.begun.1 = .ok () ∧ m.done.result = .ok value ∧ m.sealed.1 = .ok ()
  /-- Otherwise its error is that of begin, of the work or of commit, and no other. -/
  result_error : ∀ fault, reply.result = .error fault ↔
    (∃ source, m.begun.1 = .error source ∧ fault = .transaction .begin source) ∨
      m.begun.1 = .ok () ∧ (m.done.result = .error fault ∨
        ∃ value source, m.done.result = .ok value ∧ m.sealed.1 = .error source ∧
          fault = .transaction .commit source)
  idle : x'.state = .idle ↔ ∃ source, m.begun.1 = .error source
  committed : x'.state = .committed ↔ ∃ value, reply.result = .ok value
  active : x'.state = .active ↔ m.LeftOpen c
  rolledBack : x'.state = .rolledBack ↔
    m.begun.1 = .ok () ∧ (∃ fault, reply.result = .error fault) ∧ ¬ m.LeftOpen c
  outcome_committed : x'.lastOutcome = some .committed ↔ x'.state = .committed
  outcome_rolledBack : x'.lastOutcome = some .rolledBack ↔ x'.state = .rolledBack
  /-- Besides what the recovery and the work report there is exactly one event. -/
  log : ∃ event, reply.log = m.recoveryLog ++ m.workLog ++ [event] ∧
    (∀ source, m.begun.1 = .error source → event = .beginFailed source.message) ∧
    (∀ value, reply.result = .ok value → event = .committed) ∧
    (∀ fault, m.begun.1 = .ok () → m.failure? = some fault → event = m.undoEvent c fault)

theorem lastOutcome_eq (x : Executor) :
    (x.lastOutcome = some .committed ↔ x.state = .committed) ∧
      (x.lastOutcome = some .rolledBack ↔ x.state = .rolledBack) := by
  unfold lastOutcome
  cases x.state <;> simp

/-- **A run follows the protocol exactly**, whatever the control answers, whatever the executor
remembers and whatever the unit of work does.  The acts of the run are those that are noted when the
control and the unit of work note them, which makes no other difference. -/
theorem run_follows_protocol (c : Control σ) (x : Executor) (work : Work σ α) (s : σ) :
    ∃ acts,
      (∀ made, run c.observed x (Work.observed work) (s, made) =
        ((run c x work s).1, (run c x work s).2.withActs (made ++ acts))) ∧
      Protocol c x work s (moments c x work s) acts (run c x work s).1 (run c x work s).2 := by
  obtain ⟨acts, result, state, event, h⟩ := Moments.exists_course c (moments c x work s)
  refine ⟨_, run_observed rfl h, ?_⟩
  have hrecovery : (moments c x work s).recoveryActs =
      if x.state = .active ∧ c.isActive s = true then [.call .rollback] else [] := by
    by_cases howing : x.state = .active ∧ c.isActive s = true
    · simp [moments, Moments.recoveryActs, howing]
    · simp [moments, Moments.recoveryActs, howing]
  rw [run_of_course rfl h]
  exact {
    acts_eq := by rw [hrecovery, h.acts_eq]; rfl
    left := rfl
    result_ok := h.result_ok
    result_error := by
      intro fault
      rw [← Moments.failure?_eq_some]
      exact h.result_error fault
    idle := h.state_idle
    committed := h.state_committed
    active := h.state_active
    rolledBack := h.state_rolledBack
    outcome_committed := (lastOutcome_eq _).1
    outcome_rolledBack := (lastOutcome_eq _).2
    log := ⟨event, rfl, h.event_eq⟩ }

end Executor

end EntityStore

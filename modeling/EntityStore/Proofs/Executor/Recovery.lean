import EntityStore.Executor.Scripted
import Mathlib
/-!
# Which runs recover

A run whose rollback fails leaves its transaction open, and the next run of the same executor is
to roll it back before it begins its own.  The executor remembers this in its state only, and a
run that is refused its transaction sets the state to idle.  So the memory lasts for one run:

* a run calls rollback before begin exactly if the run before it ended with its own rollback
  failing and a transaction is open (`recovers_iff`, on any control);
* if that rollback fails as well, and a control does not begin a transaction in another, then the
  run is refused, the transaction is abandoned, and nothing that the executor runs later ever calls
  rollback again or gets as far as its work (`Abandoned`, `abandoned_later`).

Main statement: `recovered_next_or_never`.  The calls of a run are those of the same run on a
control that records them (`Control.recorded`), which is shown to change nothing else
(`run_recorded_eq`).
-/

namespace EntityStore

variable {σ α : Type}

/-! ## 1. The calls of a run -/

/-- The same control with a record of the calls made on it, the first one first. -/
def Control.recorded (c : Control σ) : Control (σ × List ControlCall) where
  begin s := ((c.begin s.1).1, (c.begin s.1).2, s.2 ++ [.begin])
  commit s := ((c.commit s.1).1, (c.commit s.1).2, s.2 ++ [.commit])
  rollback s := ((c.rollback s.1).1, (c.rollback s.1).2, s.2 ++ [.rollback])
  isActive s := c.isActive s.1

/-- A reply with a record of calls beside its state. -/
def Reply.withCalls (reply : Reply σ α) (calls : List ControlCall) :
    Reply (σ × List ControlCall) α :=
  ⟨reply.result, (reply.state, calls), reply.log⟩

namespace Executor

/-- The calls that a run makes on its control, those of its work left out. -/
def calls (c : Control σ) (x : Executor) (work : Work σ α) (s : σ) : List ControlCall :=
  (run c.recorded x (fun p => (work p.1).withCalls p.2) (s, [])).2.state.2

/-- The calls of a recovery. -/
def recoveryCalls (c : Control σ) (x : Executor) (s : σ) : List ControlCall :=
  if x.state = .active && c.isActive s then [.rollback] else []

/-- The calls that undo a unit of work. -/
def undoCalls (c : Control σ) (s : σ) : List ControlCall :=
  if c.isActive s then [.rollback] else []

/-- The calls that commit a unit of work or undo it. -/
def finishCalls (c : Control σ) (done : Reply σ α) : List ControlCall :=
  match done.result with
  | .error _ => undoCalls c done.state
  | .ok _ =>
    match c.commit done.state with
    | (.ok (), _) => [.commit]
    | (.error _, s) => .commit :: undoCalls c s

/-- The calls after a recovery. -/
def unitCalls (c : Control σ) (work : Work σ α) (s : σ) : List ControlCall :=
  match c.begin s with
  | (.error _, _) => [.begin]
  | (.ok (), s) => .begin :: finishCalls c (work s)

theorem recover_recorded (c : Control σ) (x : Executor) (s : σ) (made : List ControlCall) :
    recover c.recorded x (s, made) =
      (((recover c x s).1, made ++ recoveryCalls c x s), (recover c x s).2) := by
  unfold recover recoveryCalls
  simp only [Control.recorded]
  by_cases howing : (x.state = .active && c.isActive s) = true
  · simp only [howing, if_true]
    rcases c.rollback s with ⟨_ | _, s'⟩ <;> rfl
  · simp only [howing, Bool.false_eq_true, if_false, List.append_nil]

theorem undo_recorded (c : Control σ) (fault : RepositoryFault) (s : σ)
    (made : List ControlCall) :
    undo c.recorded fault (s, made) =
      ((undo c fault s).1, ((undo c fault s).2.1, made ++ undoCalls c s),
        (undo c fault s).2.2) := by
  unfold undo undoCalls
  simp only [Control.recorded]
  by_cases hopen : c.isActive s = true
  · simp only [hopen, if_true]
    rcases c.rollback s with ⟨_ | _, s'⟩ <;> rfl
  · simp only [hopen, Bool.false_eq_true, if_false, List.append_nil]

theorem finish_recorded (c : Control σ) (done : Reply σ α) (made : List ControlCall) :
    finish c.recorded (done.withCalls made) =
      ((finish c done).1, (finish c done).2.withCalls (made ++ finishCalls c done)) := by
  unfold finish finishCalls
  simp only [Reply.withCalls]
  cases done.result with
  | error fault => simp only [undo_recorded]
  | ok value =>
    simp only [Control.recorded]
    cases h : c.commit done.state with
    | mk result s' =>
      cases result with
      | ok _ => rfl
      | error source =>
        have hundo := undo_recorded c (.transaction .commit source) s' (made ++ [.commit])
        simp only [Control.recorded] at hundo
        simp only [hundo, List.append_assoc, List.singleton_append]

/-- **A record changes nothing else**, and grows by the calls of the run. -/
theorem run_recorded_eq (c : Control σ) (x : Executor) (work : Work σ α) (s : σ)
    (made : List ControlCall) :
    run c.recorded x (fun p => (work p.1).withCalls p.2) (s, made) =
      ((run c x work s).1, (run c x work s).2.withCalls
        (made ++ (recoveryCalls c x s ++ unitCalls c work (recover c x s).1))) := by
  unfold run unitCalls
  rw [recover_recorded]
  generalize recover c x s = recovered
  obtain ⟨s₁, recovery⟩ := recovered
  dsimp only
  cases h : c.begin s₁ with
  | mk result s₂ =>
    cases result with
    | error source => simp [Control.recorded, h, Reply.withCalls]
    | ok _ =>
      have hbegin : c.recorded.begin (s₁, made ++ recoveryCalls c x s) =
          (.ok (), s₂, made ++ recoveryCalls c x s ++ [.begin]) := by
        simp [Control.recorded, h]
      simp only [hbegin, finish_recorded]
      simp [Reply.withCalls]

/-- The calls of a run: those of the recovery, then those of its own transaction. -/
theorem calls_eq (c : Control σ) (x : Executor) (work : Work σ α) (s : σ) :
    calls c x work s = recoveryCalls c x s ++ unitCalls c work (recover c x s).1 := by
  unfold calls
  rw [run_recorded_eq]
  rfl

/-- After its recovery a run calls begin. -/
theorem begin_prefix_unitCalls (c : Control σ) (work : Work σ α) (s : σ) :
    [.begin] <+: unitCalls c work s := by
  unfold unitCalls
  split
  · exact List.prefix_rfl
  · exact ⟨_, rfl⟩

/-- A run calls rollback before begin exactly if its executor is in the middle of a transaction
that is still open. -/
theorem rollback_prefix_calls (c : Control σ) (x : Executor) (work : Work σ α) (s : σ) :
    [.rollback, .begin] <+: calls c x work s ↔ x.state = .active ∧ c.isActive s = true := by
  obtain ⟨rest, hrest⟩ := begin_prefix_unitCalls c work (recover c x s).1
  rw [calls_eq, ← hrest]
  unfold recoveryCalls
  by_cases howing : (x.state = .active && c.isActive s) = true
  · simp only [howing, if_true]
    simpa using howing
  · simp only [howing, Bool.false_eq_true, if_false]
    simpa using howing

end Executor

/-! ## 2. Runs that end with their rollback failing -/

/-- The run was ended by a rollback of its own that failed. -/
def Reply.EndedOwing (reply : Reply σ α) : Prop :=
  ∃ code message, reply.log.getLast? = some (.rollbackFailed code message)

/-- The run was refused its transaction, and its work was not started. -/
def Reply.Refused (reply : Reply σ α) : Prop :=
  ∃ source, reply.result = .error (.transaction .begin source) ∧
    reply.log.getLast? = some (.beginFailed source.message)

namespace Executor

/-- How a unit of work ends: the state of the executor and the last event. -/
inductive Ending : ExecutorState → Event → Prop
  | committed : Ending .committed .committed
  | rolledBack (code : String) : Ending .rolledBack (.rolledBack code)
  | skipped (code : String) : Ending .rolledBack (.rollbackSkipped code)
  | owing (code message : String) : Ending .active (.rollbackFailed code message)

theorem ending_undo (c : Control σ) (fault : RepositoryFault) (s : σ) :
    Ending (undo c fault s).1.state (undo c fault s).2.2 := by
  unfold undo
  split
  · split
    · exact .rolledBack _
    · exact .owing _ _
  · exact .skipped _

theorem ending_finish (c : Control σ) (done : Reply σ α) :
    ∃ event, Ending (finish c done).1.state event ∧
      (finish c done).2.log = done.log ++ [event] := by
  unfold finish
  cases done.result with
  | error fault => exact ⟨_, ending_undo c fault done.state, rfl⟩
  | ok value =>
    dsimp only
    split
    · exact ⟨_, .committed, rfl⟩
    · exact ⟨_, ending_undo c _ _, rfl⟩

/-- A run is refused its transaction, or it ends as its unit of work does. -/
theorem ending_run (c : Control σ) (x : Executor) (work : Work σ α) (s : σ) :
    (∃ source, (c.begin (recover c x s).1).1 = .error source ∧
      (run c x work s).1.state = .idle ∧
      (run c x work s).2.result = .error (.transaction .begin source) ∧
      (run c x work s).2.state = (c.begin (recover c x s).1).2 ∧
      (run c x work s).2.log.getLast? = some (.beginFailed source.message)) ∨
    ((c.begin (recover c x s).1).1 = .ok () ∧
      ∃ event, Ending (run c x work s).1.state event ∧
        (run c x work s).2.log.getLast? = some event) := by
  unfold run
  generalize recover c x s = recovered
  obtain ⟨s₁, recovery⟩ := recovered
  dsimp only
  split
  · rename_i source s₂ h
    exact .inl ⟨source, by rw [h], rfl, rfl, by rw [h], List.getLast?_concat⟩
  · rename_i s₂ h
    obtain ⟨event, hevent, hlog⟩ := ending_finish c (work s₂)
    refine .inr ⟨by rw [h], event, hevent, ?_⟩
    dsimp only
    rw [hlog, ← List.append_assoc, List.getLast?_concat]

/-- The executor remembers a transaction exactly if the run was ended by its own rollback
failing. -/
theorem state_run_active (c : Control σ) (x : Executor) (work : Work σ α) (s : σ) :
    (run c x work s).1.state = .active ↔ (run c x work s).2.EndedOwing := by
  unfold Reply.EndedOwing
  rcases ending_run c x work s with ⟨source, -, hstate, -, -, hlog⟩ | ⟨-, event, hending, hlog⟩
  · rw [hstate, hlog]
    simp
  · rw [hlog]
    generalize (run c x work s).1.state = state at hending ⊢
    cases hending <;> simp

/-- A run is refused exactly if its begin fails. -/
theorem refused_run (c : Control σ) (x : Executor) (work : Work σ α) (s : σ) :
    (run c x work s).2.Refused ↔ ∃ source, (c.begin (recover c x s).1).1 = .error source := by
  unfold Reply.Refused
  rcases ending_run c x work s with ⟨source, hbegin, -, hresult, -, hlog⟩ |
    ⟨hbegin, event, hending, hlog⟩
  · exact ⟨fun _ => ⟨source, hbegin⟩, fun _ => ⟨source, hresult, hlog⟩⟩
  · rw [hbegin, hlog]
    generalize (run c x work s).1.state = state at hending
    cases hending <;> simp

/-- **Which runs recover.**  Of two runs of one executor, the second calls rollback before begin
exactly if the first was ended by its own rollback failing and a transaction is open when the
second starts, whatever happened to the state in between. -/
theorem recovers_iff (c : Control σ) (x : Executor) (first : Work σ α) (s : σ) {β : Type}
    (second : Work σ β) (s' : σ) :
    [.rollback, .begin] <+: calls c (run c x first s).1 second s' ↔
      (run c x first s).2.EndedOwing ∧ c.isActive s' = true := by
  rw [rollback_prefix_calls, state_run_active]

end Executor

/-! ## 3. One transaction at a time -/

/-- The promises of a control that holds one transaction at a time.  `begin` fails exactly while
a transaction is open, and a call that fails neither opens nor ends one. -/
structure Control.Exclusive (c : Control σ) : Prop where
  begin_open : ∀ s, c.isActive s = true → ∃ source, (c.begin s).1 = .error source
  begin_closed : ∀ s, c.isActive s = false → (c.begin s).1 = .ok ()
  begin_error : ∀ s source, (c.begin s).1 = .error source →
    c.isActive (c.begin s).2 = c.isActive s
  rollback_ok : ∀ s, (c.rollback s).1 = .ok () → c.isActive (c.rollback s).2 = false
  rollback_error : ∀ s source, (c.rollback s).1 = .error source →
    c.isActive (c.rollback s).2 = c.isActive s

namespace Executor

/-- A transaction is open, and the executor does not know of it. -/
structure Abandoned (c : Control σ) (x : Executor) (s : σ) : Prop where
  idle : x.state = .idle
  isActive : c.isActive s = true

/-- What later runs of an executor lead to.  Between two runs the state may change in any way that
neither opens nor ends a transaction. -/
inductive Later (c : Control σ) (x : Executor) (s : σ) : Executor → σ → Prop
  | now : Later c x s x s
  | run {x' : Executor} {s' : σ} {β : Type} (work : Work σ β) : Later c x s x' s' →
    Later c x s (run c x' work s').1 (run c x' work s').2.state
  | meanwhile {x' : Executor} {s' : σ} (s'' : σ) : Later c x s x' s' →
    c.isActive s'' = c.isActive s' → Later c x s x' s''

variable {c : Control σ} {x : Executor} {s : σ}

/-- A recovery leaves the state of the control as it is, or as a rollback makes it. -/
theorem state_recover (c : Control σ) (x : Executor) (s : σ) :
    (recover c x s).1 =
      if x.state = .active && c.isActive s then (c.rollback s).2 else s := by
  unfold recover
  split
  · rcases c.rollback s with ⟨_ | _, s'⟩ <;> rfl
  · rfl

/-- A run that comes to begin with a transaction open is refused and abandons that transaction. -/
theorem abandoned_of_open (hc : c.Exclusive) (hopen : c.isActive (recover c x s).1 = true)
    (work : Work σ α) :
    calls c x work s = recoveryCalls c x s ++ [.begin] ∧ (run c x work s).2.Refused ∧
      Abandoned c (run c x work s).1 (run c x work s).2.state := by
  obtain ⟨source, hbegin⟩ := hc.begin_open _ hopen
  have hunit : unitCalls c work (recover c x s).1 = [.begin] := by
    unfold unitCalls
    rcases hb : c.begin (recover c x s).1 with ⟨result, s'⟩
    rw [hb] at hbegin
    subst hbegin
    rfl
  refine ⟨by rw [calls_eq, hunit], (refused_run c x work s).mpr ⟨source, hbegin⟩, ?_⟩
  rcases ending_run c x work s with ⟨refusal, hfailed, hidle, -, hleft, -⟩ | ⟨hok, -⟩
  · refine ⟨hidle, ?_⟩
    rw [hleft, hc.begin_error _ refusal hfailed]
    exact hopen
  · rw [hbegin] at hok
    cases hok

/-- A run of an executor that does not remember the open transaction calls begin only, is refused,
and leaves it open. -/
theorem Abandoned.run (hc : c.Exclusive) (h : Abandoned c x s) (work : Work σ α) :
    calls c x work s = [.begin] ∧ (run c x work s).2.Refused ∧
      Abandoned c (run c x work s).1 (run c x work s).2.state := by
  have hrecover : (recover c x s).1 = s := by
    simp [state_recover, h.idle]
  have hrun := abandoned_of_open hc (hrecover.symm ▸ h.isActive) work
  simpa [recoveryCalls, h.idle] using hrun

/-- **An abandoned transaction stays abandoned**, whatever is run later. -/
theorem abandoned_later (hc : c.Exclusive) (h : Abandoned c x s) {x' : Executor} {s' : σ}
    (hlater : Later c x s x' s') : Abandoned c x' s' := by
  induction hlater with
  | now => exact h
  | run work _ ih => exact (ih.run hc work).2.2
  | meanwhile s'' _ hsame ih => exact ⟨ih.idle, hsame.trans ih.isActive⟩

/-- A recovery that fails abandons its transaction: the begin after it is refused, and the
executor is idle from then on. -/
theorem abandoned_of_recovery_failed (hc : c.Exclusive) (hstate : x.state = .active)
    (hopen : c.isActive s = true) {source : SessionFault}
    (hrollback : (c.rollback s).1 = .error source) (work : Work σ α) :
    (run c x work s).2.Refused ∧ Abandoned c (run c x work s).1 (run c x work s).2.state := by
  have hrecover : (recover c x s).1 = (c.rollback s).2 := by
    simp [state_recover, hstate, hopen]
  have hstill : c.isActive (recover c x s).1 = true := by
    rw [hrecover, hc.rollback_error s source hrollback, hopen]
  exact (abandoned_of_open hc hstill work).2

/-- A recovery that succeeds lets its run begin. -/
theorem not_refused_of_recovered (hc : c.Exclusive) (hstate : x.state = .active)
    (hopen : c.isActive s = true) (hrollback : (c.rollback s).1 = .ok ()) (work : Work σ α) :
    ¬(run c x work s).2.Refused := by
  have hrecover : (recover c x s).1 = (c.rollback s).2 := by
    simp [state_recover, hstate, hopen]
  rw [refused_run, hrecover, hc.begin_closed _ (hc.rollback_ok s hrollback)]
  rintro ⟨source, h⟩
  cases h

/-- **A transaction left open is recovered by the next run or never.**  After a run that was ended
by its own rollback failing, the next run that finds the transaction open calls rollback before
begin.  If this rollback succeeds, the run is not refused.  If it fails, the run is refused, and
so is every run that follows: none of them calls rollback, although the transaction stays
open, and it makes no difference whether the control could roll it back by then. -/
theorem recovered_next_or_never (hc : c.Exclusive) {x₀ : Executor} {first : Work σ α} {s₀ : σ}
    (howing : (run c x₀ first s₀).2.EndedOwing) (hopen : c.isActive s = true) {β : Type}
    (next : Work σ β) :
    [.rollback, .begin] <+: calls c (run c x₀ first s₀).1 next s ∧
    ((c.rollback s).1 = .ok () → ¬(run c (run c x₀ first s₀).1 next s).2.Refused) ∧
    ∀ source, (c.rollback s).1 = .error source →
      (run c (run c x₀ first s₀).1 next s).2.Refused ∧
      ∀ x' s', Later c (run c (run c x₀ first s₀).1 next s).1
          (run c (run c x₀ first s₀).1 next s).2.state x' s' →
        c.isActive s' = true ∧ ∀ (γ : Type) (later : Work σ γ),
          calls c x' later s' = [.begin] ∧ (run c x' later s').2.Refused := by
  have hstate := (state_run_active c x₀ first s₀).mpr howing
  refine ⟨(recovers_iff c x₀ first s₀ next s).mpr ⟨howing, hopen⟩, ?_, ?_⟩
  · intro hrollback
    exact not_refused_of_recovered hc hstate hopen hrollback next
  · intro source hrollback
    obtain ⟨hrefused, habandoned⟩ :=
      abandoned_of_recovery_failed hc hstate hopen hrollback next
    refine ⟨hrefused, ?_⟩
    intro x' s' hlater
    have hstill := abandoned_later hc habandoned hlater
    refine ⟨hstill.isActive, ?_⟩
    intro γ later
    obtain ⟨hcalls, hlost, -⟩ := hstill.run hc later
    exact ⟨hcalls, hlost⟩

end Executor

/-! ## 4. A control that can be told to fail

The promises are kept by the control of flags whose begin looks at the open transaction only.  Its
rollback fails for as long as the flag says so. -/

namespace Scripted

/-- The control with a begin that fails exactly while a transaction is open. -/
def strict : Control Scripted where
  begin s := s.call .begin s.flags.active true
  commit := control.commit
  rollback := control.rollback
  isActive := control.isActive

/-- A call leaves the flags as they are if it fails. -/
theorem active_call_error {s : Scripted} {name : ControlCall} {fails active : Bool}
    {source : SessionFault} (h : (s.call name fails active).1 = .error source) :
    (s.call name fails active).2.flags.active = s.flags.active := by
  unfold call at h ⊢
  cases fails with
  | true => rfl
  | false => cases h

/-- A call that succeeds sets whether a transaction is open. -/
theorem active_call_ok {s : Scripted} {name : ControlCall} {fails active : Bool}
    (h : (s.call name fails active).1 = .ok ()) :
    (s.call name fails active).2.flags.active = active := by
  unfold call at h ⊢
  cases fails with
  | true => cases h
  | false => rfl

theorem exclusive_strict : strict.Exclusive where
  begin_open s hopen := ⟨fault .begin, by
    have hflag : s.flags.active = true := hopen
    simp [strict, call, hflag]⟩
  begin_closed s hclosed := by
    have hflag : s.flags.active = false := hclosed
    simp [strict, call, hflag]
  begin_error _ _ h := active_call_error h
  rollback_ok _ h := active_call_ok h
  rollback_error _ _ h := active_call_error h

/-- A control on which begin fails while a transaction is open. -/
def jammed (failRollback : Bool) : ControlFlags :=
  ⟨false, true, false, failRollback, false⟩

/-- A unit of work that fails. -/
def refusedWork : Work Scripted Int :=
  work 0 [.fail (.invalidData "refused")]

/-- The first run cannot roll back, the second cannot recover.  When rollback works again it is no
longer called, and the third run is refused. -/
theorem recovered_next_or_never_jammed :
    let first := Executor.run strict .new refusedWork ⟨jammed true, []⟩
    let second := Executor.run strict first.1 (work 0 []) first.2.state
    let mended : Scripted :=
      { second.2.state with flags.failRollback := false }
    first.2.EndedOwing ∧ Executor.calls strict second.1 (work 0 []) mended = [.begin] ∧
      (Executor.run strict second.1 (work 0 []) mended).2.Refused := by
  intro first second mended
  have howing : first.2.EndedOwing := ⟨_, _, rfl⟩
  obtain ⟨-, -, hfailed⟩ :=
    Executor.recovered_next_or_never exclusive_strict howing (s := first.2.state) rfl (work 0 [])
  have hlater := (hfailed _ rfl).2 _ mended (.meanwhile mended .now rfl)
  exact ⟨howing, hlater.2 Int (work 0 [])⟩

/-- A transaction that is left open is not recovered by every later run that finds it open.  The
control refuses begin only while a transaction is open.  The second run calls rollback, which
fails as that of the first did.  The third finds the transaction still open and rollback working
again, yet calls begin at once, and is refused. -/
theorem recovery_forgotten :
    let first := Executor.run control .new refusedWork ⟨jammed true, []⟩
    let second := Executor.run control first.1 (work 0 []) first.2.state
    let mended : Scripted :=
      { second.2.state with flags.failRollback := false }
    first.2.EndedOwing ∧
      Executor.calls control first.1 (work 0 []) first.2.state = [.rollback, .begin] ∧
      mended.flags = { jammed false with active := true } ∧
      (control.rollback mended).1.isOk = true ∧
      Executor.calls control second.1 (work 0 []) mended = [.begin] ∧
      (Executor.run control second.1 (work 0 []) mended).2.Refused :=
  ⟨⟨_, _, rfl⟩, rfl, rfl, rfl, rfl, ⟨_, rfl, rfl⟩⟩

end Scripted

end EntityStore

import EntityStore.Proofs.Executor.Recovery
import EntityStore.Proofs.Executor.History
/-!
# Whose transaction a run ends

The control that an executor runs on may be used directly, too: between the runs the caller begins,
commits and rolls back other transactions.  A run that finds one of these open is to be refused, and
to leave it alone.

An executor cannot tell whose transaction is open.  It remembers from its last run that the run
ended with its own rollback failing, and takes whatever is open for the transaction of that run.
So what a run does to a transaction of the caller depends on the run before it alone:

* unless that run ended with its own rollback failing, the run calls begin, which is refused, and
  nothing else: the work is not started, and what the control shows is as before
  (`run_of_open`);
* if it did, the run rolls the caller's transaction back and goes on as if there had been none
  (`run_of_owing`).

Main statement: `spared_unless_owing`, for every history of runs and calls.
-/

namespace EntityStore

variable {σ κ α : Type}

/-! ## 1. Histories -/

/-- The promise of a control whose transactions do not nest: inside a transaction begin fails, and
neither the transaction nor anything else that a state shows is changed by it. -/
structure Control.RefusesNested (c : Control σ) (view : σ → κ) : Prop where
  begin_open : ∀ s, c.isActive s = true → ∃ source, (c.begin s).1 = .error source
  isActive_begin : ∀ s, c.isActive s = true → c.isActive (c.begin s).2 = true
  view_begin : ∀ s, c.isActive s = true → view (c.begin s).2 = view s

/-- Who has begun the transaction that is open. -/
inductive Holder where
  | nobody
  | caller
  | executor
  deriving DecidableEq, Repr

namespace Holder

/-- The holder of a transaction, if the transaction is still open. -/
def ifOpen (c : Control σ) (holder : Holder) (s : σ) : Holder :=
  if c.isActive s then holder else .nobody

/-- Who holds the transaction after the caller has begun one, or was refused. -/
def afterBegin (c : Control σ) (holder : Holder) (s : σ) : Holder :=
  Holder.ifOpen c (if (c.begin s).1.isOk then .caller else holder) (c.begin s).2

/-- Who holds the transaction after a run: an executor, unless the run was refused. -/
def afterRun (c : Control σ) (holder : Holder) (x : Executor) (work : Work σ α) (s : σ) : Holder :=
  let recovered := (Executor.recover c x s).1
  Holder.ifOpen c
    (if (c.begin recovered).1.isOk then .executor else Holder.ifOpen c holder recovered)
    (Executor.run c x work s).2.state

end Holder

namespace Executor

/-- The histories of a new executor on a control: the executor, the state, who holds the open
transaction, and whether the last run of the executor was ended by its own rollback failing.
Between the runs the caller begins, commits and rolls back at any time, and uses other executors;
and meanwhile the state may change in any way that neither opens nor ends a transaction, as when
the caller works inside a transaction. -/
inductive History (c : Control σ) : Executor → σ → Holder → Prop → Prop
  | new {s : σ} : c.isActive s = false → History c .new s .nobody False
  | run {x : Executor} {s : σ} {holder : Holder} {owing : Prop} {β : Type} (work : Work σ β) :
      History c x s holder owing →
      History c (run c x work s).1 (run c x work s).2.state (holder.afterRun c x work s)
        (run c x work s).2.EndedOwing
  | begin {x : Executor} {s : σ} {holder : Holder} {owing : Prop} :
      History c x s holder owing →
      History c x (c.begin s).2 (holder.afterBegin c s) owing
  | commit {x : Executor} {s : σ} {holder : Holder} {owing : Prop} :
      History c x s holder owing → History c x (c.commit s).2 (holder.ifOpen c (c.commit s).2) owing
  | rollback {x : Executor} {s : σ} {holder : Holder} {owing : Prop} :
      History c x s holder owing →
      History c x (c.rollback s).2 (holder.ifOpen c (c.rollback s).2) owing
  | another {x : Executor} {s : σ} {holder : Holder} {owing : Prop} {β : Type} (y : Executor)
      (work : Work σ β) : History c x s holder owing →
      History c x (Executor.run c y work s).2.state (holder.afterRun c y work s) owing
  | meanwhile {x : Executor} {s : σ} {holder : Holder} {owing : Prop} (s' : σ) :
      History c x s holder owing → c.isActive s' = c.isActive s → History c x s' holder owing

variable {c : Control σ} {view : σ → κ} {x : Executor} {s : σ} {holder : Holder} {owing : Prop}

/-! ## 2. What a history says of its last moment -/

theorem isActive_of_ifOpen (h : holder.ifOpen c s = .caller) : c.isActive s = true := by
  unfold Holder.ifOpen at h
  split at h
  · assumption
  · cases h

/-- A transaction that the caller holds is open. -/
theorem History.isActive (h : History c x s holder owing) (hcaller : holder = .caller) :
    c.isActive s = true := by
  induction h with
  | new _ => cases hcaller
  | run _ _ _ => exact isActive_of_ifOpen hcaller
  | begin _ _ => exact isActive_of_ifOpen hcaller
  | commit _ _ => exact isActive_of_ifOpen hcaller
  | rollback _ _ => exact isActive_of_ifOpen hcaller
  | another _ _ _ _ => exact isActive_of_ifOpen hcaller
  | meanwhile s' _ hsame ih =>
    rw [hsame]
    exact ih hcaller

/-- **All that an executor remembers** is whether its last run was ended by its own rollback
failing, whatever the caller has done since. -/
theorem History.state_iff (h : History c x s holder owing) : x.state = .active ↔ owing := by
  induction h with
  | new _ => simp [Executor.new]
  | run work _ _ => exact state_run_active c _ work _
  | begin _ ih => exact ih
  | commit _ ih => exact ih
  | rollback _ ih => exact ih
  | another _ _ _ ih => exact ih
  | meanwhile _ _ _ ih => exact ih

/-! ## 3. Runs that find a transaction open -/

/-- A run of an executor that remembers nothing calls begin, is refused, and does nothing else. -/
theorem run_of_open (hc : c.RefusesNested view) (hstate : x.state ≠ .active)
    (hopen : c.isActive s = true) : ∃ source, (c.begin s).1 = .error source ∧
      ∀ (β : Type) (work : Work σ β), calls c x work s = [.begin] ∧
        run c x work s = (⟨.idle⟩, ⟨.error (.transaction .begin source), (c.begin s).2,
          [.beginFailed source.message]⟩) := by
  obtain ⟨source, hrefused⟩ := hc.begin_open s hopen
  have hbegin : c.begin s = (.error source, (c.begin s).2) := Prod.ext hrefused rfl
  have hrecover : recover c x s = (s, []) := by
    simp [recover, hstate]
  refine ⟨source, hrefused, ?_⟩
  intro β work
  constructor
  · have hrecovery : recoveryCalls c x s = [] := by
      simp [recoveryCalls, hstate]
    rw [calls_eq, hrecovery, hrecover]
    unfold unitCalls
    rw [hbegin]
    rfl
  · unfold run
    rw [hrecover]
    simp only
    rw [hbegin]
    rfl

/-- A run of an executor that remembers a transaction rolls back whatever is open, and is then a
run of one that remembers nothing. -/
theorem run_of_owing (hstate : x.state = .active) (hopen : c.isActive s = true)
    (work : Work σ α) :
    calls c x work s = .rollback :: calls c .new work (c.rollback s).2 ∧
      (run c x work s).1 = (run c .new work (c.rollback s).2).1 ∧
      (run c x work s).2.result = (run c .new work (c.rollback s).2).2.result ∧
      (run c x work s).2.state = (run c .new work (c.rollback s).2).2.state := by
  have hrecover : (recover c x s).1 = (c.rollback s).2 := by
    simp [state_recover, hstate, hopen]
  have hnew : recover c .new (c.rollback s).2 = ((c.rollback s).2, []) := by
    simp [recover, Executor.new]
  constructor
  · have hrecovery : recoveryCalls c x s = [.rollback] := by
      simp [recoveryCalls, hstate, hopen]
    have hnone : recoveryCalls c .new (c.rollback s).2 = [] := by
      simp [recoveryCalls, Executor.new]
    rw [calls_eq, calls_eq, hrecovery, hnone, hnew, hrecover]
    rfl
  · unfold run
    rw [hnew]
    simp only
    rw [hrecover]
    rcases c.begin (c.rollback s).2 with ⟨_ | _, s'⟩ <;> simp

/-! ## 4. The caller's transaction -/

/-- **A run spares the caller's transaction, unless the run before it ended owing.**  Let the
caller hold the open transaction, after any history on a control whose transactions do not nest.

* If the executor's last run was not ended by its own rollback failing, or there was none, a run
  calls begin and nothing else, whatever its work is.  It returns the refusal, and the caller's
  transaction is open with all that it shows.
* If the last run was ended so, a run calls rollback first, on the caller's transaction, and
  then does all that a run of a new executor does after that rollback. -/
theorem spared_unless_owing (hc : c.RefusesNested view) (h : History c x s .caller owing) :
    (¬owing → c.isActive (c.begin s).2 = true ∧ view (c.begin s).2 = view s ∧
      ∃ source, ∀ (β : Type) (work : Work σ β), calls c x work s = [.begin] ∧
        run c x work s = (⟨.idle⟩, ⟨.error (.transaction .begin source), (c.begin s).2,
          [.beginFailed source.message]⟩)) ∧
      (owing → ∀ (β : Type) (work : Work σ β),
        calls c x work s = .rollback :: calls c .new work (c.rollback s).2 ∧
        (run c x work s).2.result = (run c .new work (c.rollback s).2).2.result ∧
        (run c x work s).2.state = (run c .new work (c.rollback s).2).2.state) := by
  have hopen := h.isActive rfl
  constructor
  · intro howing
    have hstate : x.state ≠ .active := fun hstate => howing (h.state_iff.mp hstate)
    obtain ⟨source, -, hrun⟩ := run_of_open hc hstate hopen
    exact ⟨hc.isActive_begin s hopen, hc.view_begin s hopen, source, hrun⟩
  · intro howing β work
    obtain ⟨hcalls, -, hresult, hleft⟩ := run_of_owing (h.state_iff.mpr howing) hopen work
    exact ⟨hcalls, hresult, hleft⟩

end Executor

/-! ## 5. The same on two controls

On a ledger the caller begins a transaction and writes a number in it.  What becomes of the number
depends on the executor's last run. -/

namespace Ledger

/-- The transactions of a ledger do not nest. -/
theorem refusesNested : control.RefusesNested contents := by
  have hrefused : ∀ l : Ledger, control.isActive l = true →
      control.begin l = l.refuse l.contents := by
    intro l hopen
    obtain ⟨content, hpending⟩ := Option.isSome_iff_exists.mp hopen
    simp [control, hpending]
  constructor
  · intro l hopen
    exact ⟨_, by rw [hrefused l hopen]; rfl⟩
  · intro l hopen
    rw [hrefused l hopen]
    exact hopen
  · intro l hopen
    rw [hrefused l hopen]
    rfl

/-- The ledger after the caller has begun a transaction and written a number in it. -/
def written (n : Nat) (l : Ledger) : Ledger :=
  { (control.begin l).2 with contents.pending := some [n] }

/-- The number that the caller has written is pending after the run of a new executor.  It is gone
if a run before it could not roll back: although the caller has ended the transaction of that run
and begun another, the next run rolls this one back and commits its own number. -/
theorem spared_unless_owing_ledger :
    let fresh := written 5 ⟨⟨[], none⟩, []⟩
    let first := Executor.run control .new (write 1 true).work ⟨⟨[], none⟩, [.done, .fails]⟩
    let begun := written 5 (control.rollback first.2.state).2
    (Executor.run control .new (write 2 false).work fresh).2.state.contents = ⟨[], some [5]⟩ ∧
      Executor.calls control first.1 (write 2 false).work begun = [.rollback, .begin, .commit] ∧
      (Executor.run control first.1 (write 2 false).work begun).2.state.contents = ⟨[2], none⟩ := by
  intro fresh first begun
  have hnew : Executor.History control .new ⟨⟨[], none⟩, []⟩ .nobody False := .new rfl
  have hfresh : Executor.History control .new fresh .caller False :=
    .meanwhile fresh hnew.begin rfl
  have hfirst : Executor.History control first.1 first.2.state .executor first.2.EndedOwing :=
    .run (s := ⟨⟨[], none⟩, [.done, .fails]⟩) (write 1 true).work (.new rfl)
  have hbegun : Executor.History control first.1 begun .caller first.2.EndedOwing :=
    .meanwhile begun hfirst.rollback.begin rfl
  have howing : first.2.EndedOwing := ⟨_, _, rfl⟩
  obtain ⟨-, -, source, hspared⟩ := (Executor.spared_unless_owing refusesNested hfresh).1 id
  obtain ⟨hcalls, -, hleft⟩ :=
    (Executor.spared_unless_owing refusesNested hbegun).2 howing _ (write 2 false).work
  refine ⟨?_, hcalls.trans rfl, ?_⟩
  · rw [(hspared _ (write 2 false).work).2]
    rfl
  · rw [hleft]
    rfl

end Ledger

namespace Scripted

/-- A run ends a transaction that the caller began.  The first run cannot roll back.  The caller
rolls that transaction back, and begins another.  The second run calls rollback, begin and
commit, and succeeds: the caller's transaction is no longer open. -/
theorem callers_transaction_ended :
    let first := Executor.run strict .new refusedWork ⟨jammed true, []⟩
    let mended : Scripted :=
      { first.2.state with flags.failRollback := false }
    let begun := (strict.begin (strict.rollback mended).2).2
    let second := Executor.run strict first.1 (work 0 []) begun
    strict.RefusesNested (·.flags) ∧
      Executor.History strict first.1 begun .caller first.2.EndedOwing ∧
      (strict.begin begun).1.isOk = false ∧
      Executor.calls strict first.1 (work 0 []) begun = [.rollback, .begin, .commit] ∧
      second.2.result.toOption = some 0 ∧ strict.isActive second.2.state = false := by
  intro first mended begun second
  have hnested : strict.RefusesNested (·.flags) := by
    have hrefused : ∀ s : Scripted, strict.isActive s = true →
        strict.begin s = (.error (fault .begin), ⟨s.flags, .begin :: s.calls⟩) := by
      intro s hopen
      have hflag : s.flags.active = true := hopen
      simp [strict, call, hflag]
    constructor
    · intro s hopen
      exact ⟨_, by rw [hrefused s hopen]⟩
    · intro s hopen
      rw [hrefused s hopen]
      exact hopen
    · intro s hopen
      rw [hrefused s hopen]
  have hfirst : Executor.History strict first.1 first.2.state .executor first.2.EndedOwing :=
    .run (s := ⟨jammed true, []⟩) refusedWork (.new rfl)
  have hmended : Executor.History strict first.1 mended .executor first.2.EndedOwing :=
    .meanwhile mended hfirst rfl
  exact ⟨hnested, hmended.rollback.begin, rfl, rfl, rfl, rfl⟩

end Scripted

end EntityStore

import EntityStore.Proofs.Executor.Protocol
import EntityStore.Proofs.Repository.Transaction
/-!
# What a reported rollback says

An executor that finds no transaction open after its unit of work has failed takes it for discarded
by the store, and reports that the work was rolled back.  But a unit of work may use the session
itself: it may have committed the transaction, or changed rows after it had ended the transaction,
when each statement is committed by itself.  None of this is undone, nor can it be.

So what a reported rollback says depends on the unit of work.  Here units of work are scripts, of
any shape, that read, write and control transactions (`Script`).  If a rollback is reported, then
the store holds what the script itself has committed last; only if it has committed nothing, this
is what the store held before the run.  Section 4 runs a script that commits a tag and then fails:
it is reported as rolled back, and the tag is there.
-/

namespace EntityStore

variable {σ α : Type}

/-! ## 1. Scripts -/

/-- A call of a control. -/
def Control.call (c : Control σ) : ControlCall → σ → Except SessionFault Unit × σ
  | .begin => c.begin
  | .commit => c.commit
  | .rollback => c.rollback

/-- A unit of work on a session, step by step: it looks at the store, controls transactions and
changes rows, each step depending on what came of the steps before, until it has a result. -/
inductive Script (α : Type) where
  | finish (result : Except RepositoryFault α)
  | read (next : Store → Script α)
  | call (name : ControlCall) (next : Except SessionFault Unit → Script α)
  | write (change : Change) (parameters : Parameters)
      (next : Except StoreFault Store.Written → Script α)

namespace Script

/-- The unit of work that a script is for a session. -/
def work (s : Session) : Script α → Work Store α
  | .finish result, st => ⟨result, st, []⟩
  | .read next, st => (next st).work s st
  | .call name next, st => (next (s.control.call name st).1).work s (s.control.call name st).2
  | .write change parameters next, st =>
    (next (st.execute s change parameters).1).work s (st.execute s change parameters).2

/-- What a call commits: all that the transaction has done, if it is a commit and succeeds. -/
def committedBy? (s : Session) : ControlCall → Store → Option Database
  | .commit, st => if (st.commit s).1.isOk then some (st.commit s).2.committed else none
  | .begin, _ => none
  | .rollback, _ => none

/-- What a statement commits: what it leaves, if it is run outside of any transaction of the
session. -/
def committedAlone? (s : Session) (change : Change) (parameters : Parameters) (st : Store) :
    Option Database :=
  if s.isActive st then none else some (st.execute s change parameters).2.committed

/-- What a script commits itself, in the end. -/
def ownCommit? (s : Session) : Script α → Store → Option Database
  | .finish _, _ => none
  | .read next, st => (next st).ownCommit? s st
  | .call name next, st =>
    ((next (s.control.call name st).1).ownCommit? s (s.control.call name st).2).or
      (committedBy? s name st)
  | .write change parameters next, st =>
    ((next (st.execute s change parameters).1).ownCommit? s
      (st.execute s change parameters).2).or (committedAlone? s change parameters st)

end Script

/-! ## 2. What is committed -/

namespace Store

variable {s : Session} {st : Store}

theorem committed_begin (s : Session) (st : Store) : (st.begin s).2.committed = st.committed := by
  unfold Store.begin
  split
  · rfl
  · split <;> rfl

theorem committed_rollback (s : Session) (st : Store) :
    (st.rollback s).2.committed = st.committed := by
  unfold Store.rollback
  split <;> rfl

/-- A commit that is refused changes nothing. -/
theorem commit_of_error {fault : StoreFault} (h : (st.commit s).1 = .error fault) :
    (st.commit s).2 = st := by
  unfold Store.commit at h ⊢
  split at h
  · rfl
  · split at h
    · rw [if_pos ‹_›]
    · cases h

/-- A session that has rolled back is inside no transaction. -/
theorem isActive_rollback (h : (st.rollback s).1 = .ok ()) :
    (st.rollback s).2.isActive s = false := by
  unfold Store.rollback at h ⊢
  split at h
  · cases h
  · rfl

end Store

namespace Script

variable {s : Session}

theorem committed_call (s : Session) (name : ControlCall) (st : Store) :
    (s.control.call name st).2.committed = (committedBy? s name st).getD st.committed := by
  cases name with
  | begin => exact Store.committed_begin s st
  | rollback => exact Store.committed_rollback s st
  | commit =>
    have hleft : (s.control.call .commit st).2 = (st.commit s).2 := rfl
    cases hcommit : (st.commit s).1 with
    | ok _ => simp [hleft, committedBy?, hcommit, Except.isOk, Except.toBool]
    | error fault =>
      rw [hleft, Store.commit_of_error hcommit]
      simp [committedBy?, hcommit, Except.isOk, Except.toBool]

theorem committed_write (s : Session) (change : Change) (parameters : Parameters) (st : Store) :
    (st.execute s change parameters).2.committed =
      (committedAlone? s change parameters st).getD st.committed := by
  unfold committedAlone?
  split
  · exact Store.committed_execute ‹_› change parameters
  · rfl

/-- **A script leaves committed what it has committed last itself.** -/
theorem committed_work (script : Script α) (st : Store) :
    (script.work s st).state.committed = (script.ownCommit? s st).getD st.committed := by
  induction script generalizing st with
  | finish result => rfl
  | read next ih => exact ih st st
  | call name next ih =>
    rw [work, ih, committed_call, ownCommit?, Option.getD_or]
  | write change parameters next ih =>
    rw [work, ih, committed_write, ownCommit?, Option.getD_or]

end Script

/-! ## 3. Reported rollbacks -/

namespace Executor

variable {c : Control σ} {x : Executor} {work : Work σ α} {st : σ} {m : Moments σ α}

/-- Where no transaction is open there is nothing to recover. -/
theorem done_of_closed (hclosed : c.isActive st = false) :
    (moments c x work st).done = work (c.begin st).2 := by
  simp [moments, hclosed]

/-- If a rollback is reported, then the unit of work was begun and has failed, and was undone where
that was needed. -/
theorem exists_undo (hm : moments c x work st = m)
    (h : (run c x work st).1.lastOutcome = some .rolledBack) :
    ∃ fault, m.failure? = some fault ∧ (undo c fault m.closing).1.state = .rolledBack ∧
      (run c x work st).2.state = (undo c fault m.closing).2.1 := by
  rw [(lastOutcome_eq _).2] at h
  obtain ⟨acts, result, state, event, hcourse⟩ := Moments.exists_course c m
  have hrun := run_of_course hm hcourse
  have hstate : state = .rolledBack := by rwa [hrun] at h
  obtain ⟨hbegun, ⟨fault, rfl⟩, -⟩ := hcourse.state_rolledBack.mp hstate
  have hfailure : m.failure? = some fault := by
    obtain ⟨source, hrefused, -⟩ | ⟨-, hfailure⟩ := (hcourse.result_error fault).mp rfl
    · rw [hbegun] at hrefused
      cases hrefused
    · exact hfailure
  have hundone := run_of_begun hm hbegun
  rw [finish_of_failure hm hfailure] at hundone
  refine ⟨fault, hfailure, ?_, ?_⟩
  · rw [hundone] at h
    exact h
  · rw [hundone]

/-- Undoing changes nothing that is committed, and if the executor takes the work for rolled back
then no transaction is open. -/
theorem undo_control (s : Session) (fault : RepositoryFault) (st : Store)
    (h : (undo s.control fault st).1.state = .rolledBack) :
    s.isActive (undo s.control fault st).2.1 = false ∧
      (undo s.control fault st).2.1.committed = st.committed := by
  have hrollback : s.control.rollback st =
      ((st.rollback s).1.mapError .store, (st.rollback s).2) := rfl
  unfold undo at h ⊢
  by_cases hopen : s.control.isActive st = true
  · rw [if_pos hopen, hrollback] at h ⊢
    cases hanswer : (st.rollback s).1 with
    | ok _ => exact ⟨Store.isActive_rollback hanswer, Store.committed_rollback s st⟩
    | error source =>
      rw [hanswer] at h
      cases h
  · rw [if_neg hopen]
    exact ⟨eq_false_of_ne_true hopen, rfl⟩

/-- What is to be undone of a unit of work has the content that the work left committed: a commit
that was refused changes nothing. -/
theorem committed_closing {s : Session} {x : Executor} {work : Work Store α} {st : Store}
    {m : Moments Store α} (hm : moments s.control x work st = m) {fault : RepositoryFault}
    (h : m.failure? = some fault) : m.closing.committed = m.done.state.committed := by
  unfold Moments.closing
  obtain hdone | ⟨value, source, hdone, hrefused, -⟩ := Moments.failure?_eq_some.mp h
  · rw [hdone]
  · have hcommit : (m.done.state.commit s).1.mapError SessionFault.store = .error source := by
      rw [← hrefused, ← (moments_eq hm).2.2]
      rfl
    have hsame : m.sealed.2 = (m.done.state.commit s).2 := by
      rw [← (moments_eq hm).2.2]
      rfl
    simp only [hdone]
    cases hanswer : (m.done.state.commit s).1 with
    | ok _ =>
      rw [hanswer] at hcommit
      cases hcommit
    | error fault => rw [hsame, Store.commit_of_error hanswer]

/-- **A reported rollback goes back to what the work has committed itself.**  Let a unit of work,
written as a script, be run for a session that is inside no transaction, by any executor.  If the
executor then says that the work was rolled back, the session is inside no transaction, and if the
work has committed nothing itself, the store holds what it held before.  Otherwise it holds what the
work has committed last. -/
theorem rolledBack_to_own_commit (s : Session) (x : Executor) (script : Script α) {st : Store}
    (hclosed : s.isActive st = false)
    (h : (run s.control x (script.work s) st).1.lastOutcome = some .rolledBack) :
    let left := (run s.control x (script.work s) st).2.state
    s.isActive left = false ∧
      (script.ownCommit? s (s.begin st).2 = none → left.committed = st.committed) ∧
      ∀ db, script.ownCommit? s (s.begin st).2 = some db → left.committed = db := by
  intro left
  have hdone : (moments s.control x (script.work s) st).done = script.work s (s.begin st).2 :=
    done_of_closed hclosed
  obtain ⟨fault, hfailure, hstate, hleft⟩ := exists_undo rfl h
  obtain ⟨hinactive, hcommitted⟩ := undo_control s fault _ hstate
  rw [← hleft] at hinactive hcommitted
  have hcontent : left.committed = (script.ownCommit? s (s.begin st).2).getD st.committed := by
    calc left.committed
        = (script.work s (s.begin st).2).state.committed := by
          rw [hcommitted, committed_closing rfl hfailure, hdone]
      _ = (script.ownCommit? s (s.begin st).2).getD (s.begin st).2.committed :=
          script.committed_work _
      _ = (script.ownCommit? s (s.begin st).2).getD st.committed :=
          congrArg _ (Store.committed_begin s st)
  refine ⟨hinactive, fun hnone => ?_, fun db hsome => ?_⟩
  · rw [hcontent, hnone, Option.getD_none]
  · rw [hcontent, hsome, Option.getD_some]

end Executor

/-! ## 4. Tags -/

namespace Tags

/-- Adds a tag, ends the transaction, and fails. -/
def addThenFail (ending : ControlCall) : Script Unit :=
  .write (metadata.insertion true) (metadata.attributeValues (tag "x" "one") true) fun _ =>
    .call ending fun _ => .finish (.error (.invalidData "gave up"))

/-- Where the script rolls back before it fails, the tag is not kept. -/
theorem rolledBack_to_own_commit_discarded :
    let script := addThenFail .rollback
    let done := Executor.run session.control .new (script.work session) (store [] [])
    session.isActive (store [] []) = false ∧ done.1.lastOutcome = some .rolledBack ∧
      session.isActive done.2.state = false ∧
      done.2.state.committed = (store [] []).committed := by
  intro script done
  have hclosed : session.isActive (store [] []) = false := rfl
  have houtcome : done.1.lastOutcome = some .rolledBack := rfl
  obtain ⟨hinactive, hkept, -⟩ :=
    Executor.rolledBack_to_own_commit session .new script hclosed houtcome
  exact ⟨hclosed, houtcome, hinactive, hkept rfl⟩

/-- **A rollback is reported, and nothing was rolled back.**  The script adds a tag, commits it and
fails.  The executor finds no transaction open and says that the work was rolled back.  The tag is
in the store. -/
theorem rolledBack_after_commit :
    let script := addThenFail .commit
    let done := Executor.run session.control .new (script.work session) (store [] [])
    session.isActive (store [] []) = false ∧ done.1.lastOutcome = some .rolledBack ∧
      done.2.state.committed ≠ (store [] []).committed ∧
      session.count (store [] []) ⟨"tag", []⟩ [] = .ok 0 ∧
      session.count done.2.state ⟨"tag", []⟩ [] = .ok 1 := by
  intro script done
  have hbefore : session.count (store [] []) ⟨"tag", []⟩ [] = .ok 0 := rfl
  have hafter : session.count done.2.state ⟨"tag", []⟩ [] = .ok 1 := rfl
  have hrows : done.2.state.committed.tables.map (·.rows.length) = [1] := rfl
  refine ⟨rfl, rfl, fun hsame => ?_, hbefore, hafter⟩
  rw [hsame] at hrows
  cases hrows

end Tags

end EntityStore

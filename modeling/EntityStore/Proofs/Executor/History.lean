import EntityStore.Executor
import Mathlib
/-!
# What a history of runs leaves committed

An executor runs units of work one after another on the same control, and every call of the
control may fail: a commit that fails may leave its transaction open or drop it, and a rollback
that fails leaves everything as it was, so that changes of a failed unit can stay pending while
later units are run.  None of them is ever committed.

The control is any one that keeps the promises of `Control.Transactional`.  They speak about what
a state shows (`Contents`): the committed content, and the content that the open transaction would
commit.  Whatever else a state holds, such as a plan of which calls fail, is left free.

Main statement: `committed_runAll`.  After any list of units the committed content is the first
one with the effects of exactly those units that were reported as done, in their order.
-/

namespace EntityStore

/-! ## 1. Transactional controls -/

/-- What a state of a control shows: the committed content and, while a transaction is open, the
content that it would commit. -/
structure Contents (κ : Type) where
  committed : κ
  pending : Option κ

/-- The promises of a control of transactions.  A call that succeeds does what its name says.
`begin` fails while a transaction is open; a call that fails changes nothing, except that a
failed commit may drop the transaction.  Nothing is promised about a commit or a rollback while
no transaction is open. -/
structure Control.Transactional {σ κ : Type} (c : Control σ) (view : σ → Contents κ) : Prop where
  isActive : ∀ s, c.isActive s = (view s).pending.isSome
  begin_active : ∀ s content, (view s).pending = some content →
    ∃ fault, (c.begin s).1 = .error fault
  begin_ok : ∀ s, (view s).pending = none → (c.begin s).1 = .ok () →
    view (c.begin s).2 = ⟨(view s).committed, some (view s).committed⟩
  begin_error : ∀ s fault, (c.begin s).1 = .error fault → view (c.begin s).2 = view s
  commit_ok : ∀ s content, (view s).pending = some content → (c.commit s).1 = .ok () →
    view (c.commit s).2 = ⟨content, none⟩
  commit_error : ∀ s content fault, (view s).pending = some content →
    (c.commit s).1 = .error fault →
    view (c.commit s).2 = view s ∨ view (c.commit s).2 = ⟨(view s).committed, none⟩
  rollback_ok : ∀ s content, (view s).pending = some content → (c.rollback s).1 = .ok () →
    view (c.rollback s).2 = ⟨(view s).committed, none⟩
  rollback_error : ∀ s content fault, (view s).pending = some content →
    (c.rollback s).1 = .error fault → view (c.rollback s).2 = view s

variable {σ κ α : Type}

/-- A unit of work that only reads and writes data: inside a transaction it does not touch the
committed content, and if it succeeds it has turned the pending content into another.  A unit that
fails may leave anything pending, or nothing. -/
def OnlyData (view : σ → Contents κ) (work : Work σ α) (effect : κ → κ) : Prop :=
  ∀ s content, (view s).pending = some content →
    (view (work s).state).committed = (view s).committed ∧
      ∀ value, (work s).result = .ok value →
        (view (work s).state).pending = some (effect content)

namespace Control.Transactional

variable {c : Control σ} {view : σ → Contents κ}

/-- A transaction that has just been opened would commit what is committed already. -/
theorem view_begin (hc : c.Transactional view) {s : σ} (h : (c.begin s).1 = .ok ()) :
    view (c.begin s).2 = ⟨(view s).committed, some (view s).committed⟩ := by
  cases hp : (view s).pending with
  | none => exact hc.begin_ok s hp h
  | some content =>
    obtain ⟨fault, hf⟩ := hc.begin_active s content hp
    rw [h] at hf
    cases hf

/-- A rollback of an open transaction commits nothing, whether it succeeds or not. -/
theorem committed_rollback (hc : c.Transactional view) {s : σ} (hs : c.isActive s = true) :
    (view (c.rollback s).2).committed = (view s).committed := by
  obtain ⟨content, hp⟩ := Option.isSome_iff_exists.mp (hc.isActive s ▸ hs)
  cases h : (c.rollback s).1 with
  | ok done => rw [hc.rollback_ok s content hp h]
  | error fault => rw [hc.rollback_error s content fault hp h]

end Control.Transactional

namespace Executor

/-! ## 2. One run -/

variable {c : Control σ} {view : σ → Contents κ}

/-- A recovery commits nothing, whether it succeeds or not. -/
theorem committed_recover (hc : c.Transactional view) (x : Executor) (s : σ) :
    (view (recover c x s).1).committed = (view s).committed := by
  unfold recover
  split
  · rename_i ha
    have hkeep := hc.committed_rollback (Bool.and_eq_true_iff.mp ha).2
    split <;> rename_i h <;> rw [h] at hkeep <;> exact hkeep
  · rfl

/-- Undoing a unit that failed commits nothing. -/
theorem committed_undo (hc : c.Transactional view) (fault : RepositoryFault) (s : σ) :
    (view (undo c fault s).2.1).committed = (view s).committed := by
  unfold undo
  split
  · rename_i ha
    have hkeep := hc.committed_rollback ha
    split <;> rename_i h <;> rw [h] at hkeep <;> exact hkeep
  · rfl

/-- The content that a unit of work leaves committed: that with its effect if the result says
that it is done, and otherwise the one from before. -/
def settled (effect : κ → κ) (result : Except RepositoryFault α) (content : κ) : κ :=
  match result with
  | .ok _ => effect content
  | .error _ => content

/-- The end of a run, from a unit of work that kept to its data.  `content` is what was committed
when the transaction was opened. -/
theorem committed_finish (hc : c.Transactional view) {effect : κ → κ} {content : κ}
    {done : Reply σ α}
    (hcontent : (view done.state).committed = content)
    (hdone : ∀ value, done.result = .ok value →
      (view done.state).pending = some (effect content)) :
    (view (finish c done).2.state).committed = settled effect (finish c done).2.result content := by
  unfold finish
  cases hr : done.result with
  | error fault =>
    exact (committed_undo hc fault done.state).trans hcontent
  | ok value =>
    have hpending := hdone value hr
    dsimp only
    split
    · rename_i s' h
      have hv := hc.commit_ok done.state _ hpending (by rw [h])
      rw [h] at hv
      exact congrArg Contents.committed hv
    · rename_i source s' h
      have hv := hc.commit_error done.state _ source hpending (by rw [h])
      rw [h] at hv
      have hkept : (view s').committed = (view done.state).committed := by
        rcases hv with hv | hv <;> rw [hv]
      exact (committed_undo hc _ s').trans (hkept.trans hcontent)

/-- **One run is all or nothing.**  Whatever an earlier run left pending, the run of a unit that
keeps to its data commits the unit's effect if it reports success and nothing otherwise. -/
theorem committed_run (hc : c.Transactional view) {work : Work σ α} {effect : κ → κ}
    (hw : OnlyData view work effect) (x : Executor) (s : σ) :
    (view (run c x work s).2.state).committed =
      settled effect (run c x work s).2.result (view s).committed := by
  have hrec := committed_recover hc x s
  unfold run
  generalize recover c x s = recovered at hrec ⊢
  obtain ⟨s₁, recovery⟩ := recovered
  dsimp only at hrec ⊢
  split
  · rename_i source s₂ h
    have hv := hc.begin_error s₁ source (by rw [h])
    rw [h] at hv
    simpa only [settled, hv] using hrec
  · rename_i s₂ h
    have hv := hc.view_begin (s := s₁) (by rw [h])
    rw [h] at hv
    have hpending : (view s₂).pending = some (view s₁).committed := by rw [hv]
    have hcommitted : (view s₂).committed = (view s₁).committed := by rw [hv]
    obtain ⟨hkept, hdone⟩ := hw s₂ _ hpending
    exact (committed_finish hc (hkept.trans hcommitted) hdone).trans (by rw [hrec])

/-! ## 3. Histories -/

/-- A unit of work with the effect that it has on the content. -/
structure Job (σ κ : Type) where
  Value : Type
  work : Work σ Value
  effect : κ → κ

/-- Runs jobs one after another.  The result is the list of those that were reported as done, and
the executor and the state after the last. -/
def runAll (c : Control σ) : List (Job σ κ) → Executor → σ → List (Job σ κ) × Executor × σ
  | [], x, s => ([], x, s)
  | job :: rest, x, s =>
    let (x, reply) := run c x job.work s
    let (done, x, s) := runAll c rest x reply.state
    match reply.result with
    | .ok _ => (job :: done, x, s)
    | .error _ => (done, x, s)

/-- The content after the effects of jobs, the first one first. -/
def afterEffects (done : List (Job σ κ)) (content : κ) : κ :=
  done.foldl (fun content job => job.effect content) content

/-- **No failed unit of work ever reaches the store.**  However the calls of the control fail, a
history of units that keep to their data leaves committed what was committed before it, with the
effects of exactly the units that were reported as done, in their order.  The executor may have
any past, and a transaction may be open at the start. -/
theorem committed_runAll (hc : c.Transactional view) (jobs : List (Job σ κ))
    (hjobs : ∀ job ∈ jobs, OnlyData view job.work job.effect) (x : Executor) (s : σ) :
    (view (runAll c jobs x s).2.2).committed =
      afterEffects (runAll c jobs x s).1 (view s).committed := by
  induction jobs generalizing x s with
  | nil => rfl
  | cons job rest ih =>
    have hstep := committed_run hc (hjobs job List.mem_cons_self) x s
    have hrest := ih (fun other hother => hjobs other (List.mem_cons_of_mem _ hother))
      (run c x job.work s).1 (run c x job.work s).2.state
    rw [hstep] at hrest
    unfold runAll
    dsimp only
    split <;> rename_i hr <;> rw [hr] at hrest <;> exact hrest

end Executor

/-! ## 4. A control that fails by plan

The promises are kept by a small control whose content is a list of numbers.  Its plan says of
each coming call whether it succeeds. -/

/-- What becomes of a call: it is done, or it fails and changes nothing, or it fails and drops
the transaction.  Only a commit can drop it. -/
inductive Fate where
  | done
  | fails
  | drops
  deriving DecidableEq, Repr

/-- A content, the transaction on it, and the plan of the coming calls. -/
structure Ledger where
  contents : Contents (List Nat)
  plan : List Fate

namespace Ledger

/-- What becomes of the next call; a call past the plan is done. -/
def next (l : Ledger) : Fate :=
  l.plan.head?.getD .done

/-- The answer of a call that is done, and the ledger after it. -/
def answer (l : Ledger) (contents : Contents (List Nat)) : Except SessionFault Unit × Ledger :=
  (.ok (), ⟨contents, l.plan.tail⟩)

/-- The answer of a call that fails, and the ledger after it. -/
def refuse (l : Ledger) (contents : Contents (List Nat)) : Except SessionFault Unit × Ledger :=
  (.error (.invalidUnit "ledger" "planned"), ⟨contents, l.plan.tail⟩)

/-- The transactions of a ledger. -/
def control : Control Ledger where
  begin l :=
    match l.contents.pending, l.next with
    | none, .done => l.answer ⟨l.contents.committed, some l.contents.committed⟩
    | _, _ => l.refuse l.contents
  commit l :=
    match l.contents.pending, l.next with
    | some content, .done => l.answer ⟨content, none⟩
    | some _, .drops => l.refuse ⟨l.contents.committed, none⟩
    | _, _ => l.refuse l.contents
  rollback l :=
    match l.contents.pending, l.next with
    | some _, .done => l.answer ⟨l.contents.committed, none⟩
    | _, _ => l.refuse l.contents
  isActive l := l.contents.pending.isSome

/-- The control of a ledger keeps the promises, whatever its plan is. -/
theorem transactional : control.Transactional contents where
  isActive _ := rfl
  begin_active l content h := by simp [control, h, refuse]
  begin_ok l h hok := by
    simp only [control, h] at hok ⊢
    cases hn : l.next with
    | done => rfl
    | fails | drops =>
      rw [hn] at hok
      cases hok
  begin_error l fault herr := by
    simp only [control] at herr ⊢
    cases hp : l.contents.pending with
    | some content => rfl
    | none =>
      cases hn : l.next with
      | fails | drops => rfl
      | done =>
        rw [hp, hn] at herr
        cases herr
  commit_ok l content h hok := by
    simp only [control, h] at hok ⊢
    cases hn : l.next with
    | done => rfl
    | fails | drops =>
      rw [hn] at hok
      cases hok
  commit_error l content fault h herr := by
    simp only [control, h] at herr ⊢
    cases hn : l.next with
    | fails => exact .inl rfl
    | drops => exact .inr rfl
    | done =>
      rw [hn] at herr
      cases herr
  rollback_ok l content h hok := by
    simp only [control, h] at hok ⊢
    cases hn : l.next with
    | done => rfl
    | fails | drops =>
      rw [hn] at hok
      cases hok
  rollback_error l content fault h herr := by
    simp only [control, h] at herr ⊢
    cases hn : l.next with
    | fails | drops => rfl
    | done =>
      rw [hn] at herr
      cases herr

/-- A job that writes a number.  One that fails has written it twice by then. -/
def write (n : Nat) (fails : Bool) : Executor.Job Ledger (List Nat) where
  Value := Unit
  effect content := content ++ [n]
  work l :=
    if fails then ⟨.error (.invalidData "refused"),
      { l with contents.pending := l.contents.pending.map (· ++ [n, n]) }, []⟩
    else ⟨.ok (), { l with contents.pending := l.contents.pending.map (· ++ [n]) }, []⟩

theorem onlyData_write (n : Nat) (fails : Bool) :
    OnlyData contents (write n fails).work (write n fails).effect := by
  intro l content h
  cases fails with
  | true => exact ⟨rfl, nofun⟩
  | false =>
    refine ⟨rfl, ?_⟩
    intro _ _
    simp [write, h]

/-- Three jobs.  The first fails and cannot be rolled back, so its change is still pending when the
second is run, which recovers and is then refused its commit.  Only the third is ever committed. -/
theorem committed_runAll_failed_rollback :
    (Executor.runAll control [write 1 true, write 2 false, write 3 false] .new
      ⟨⟨[], none⟩, [.done, .fails, .done, .done, .drops]⟩).2.2.contents.committed = [3] := by
  refine (Executor.committed_runAll transactional _ ?_ _ _).trans ?_
  · intro job hjob
    simp only [List.mem_cons, List.not_mem_nil, or_false] at hjob
    rcases hjob with rfl | rfl | rfl <;> exact onlyData_write _ _
  · rfl

end Ledger

end EntityStore

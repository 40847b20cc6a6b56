import EntityStore.Event
/-!
# Transaction executors

An executor runs units of work, each between the beginning and the commit of a transaction.  If
the work or the commit fails, the transaction is rolled back.  If the rollback fails too, the
executor remembers that the transaction may still be open, and tries to roll it back before it
begins the next one.

What is begun and committed is given by a `Control` over states of any kind, so that the same
executor runs on a session of a store and on a control that is made to fail.
-/

namespace EntityStore

/-! ## 1. Controls and units of work -/

/-- The transactions of a state: how one is begun, committed and rolled back, and whether one is
open.  A call that fails may change the state, too. -/
structure Control (σ : Type) where
  begin : σ → Except SessionFault Unit × σ
  commit : σ → Except SessionFault Unit × σ
  rollback : σ → Except SessionFault Unit × σ
  isActive : σ → Bool

/-- What comes out of an operation: its result, the state after it, and the events it reported. -/
structure Reply (σ α : Type) where
  result : Except RepositoryFault α
  state : σ
  log : List Event

/-- A unit of work. -/
abbrev Work (σ α : Type) := σ → Reply σ α

/-! ## 2. Executors -/

/-- How far an executor has got. -/
inductive ExecutorState where
  /-- No transaction was begun. -/
  | idle
  /-- A transaction was begun and not ended. -/
  | active
  | committed
  | rolledBack
  deriving DecidableEq, Repr

/-- The name of a state. -/
def ExecutorState.label : ExecutorState → String
  | .idle => "idle"
  | .active => "active"
  | .committed => "committed"
  | .rolledBack => "rolled_back"

/-- How a unit of work ended. -/
inductive WorkOutcome where
  | committed
  | rolledBack
  deriving DecidableEq, Repr

/-- The name of an outcome. -/
def WorkOutcome.label : WorkOutcome → String
  | .committed => "committed"
  | .rolledBack => "rolled_back"

/-- An executor is what it remembers of its last unit of work. -/
structure Executor where
  state : ExecutorState
  deriving DecidableEq, Repr

namespace Executor

/-- An executor that has not run anything. -/
def new : Executor :=
  ⟨.idle⟩

/-- How the last unit of work ended, if it did. -/
def lastOutcome (x : Executor) : Option WorkOutcome :=
  match x.state with
  | .committed => some .committed
  | .rolledBack => some .rolledBack
  | .idle => none
  | .active => none

/-! ## 3. Running a unit of work -/

variable {σ α : Type}

/-- Rolls back a transaction that an earlier unit of work left open. -/
def recover (c : Control σ) (x : Executor) (s : σ) : σ × List Event :=
  if x.state = .active && c.isActive s then
    match c.rollback s with
    | (.ok (), s) => (s, [.recovered])
    | (.error source, s) => (s, [.recoveryFailed source.message])
  else (s, [])

/-- Rolls back the transaction of a unit of work that failed, unless it is over already. -/
def undo (c : Control σ) (fault : RepositoryFault) (s : σ) : Executor × σ × Event :=
  if c.isActive s then
    match c.rollback s with
    | (.ok (), s) => (⟨.rolledBack⟩, s, .rolledBack fault.code)
    | (.error source, s) => (⟨.active⟩, s, .rollbackFailed fault.code source.message)
  else (⟨.rolledBack⟩, s, .rollbackSkipped fault.code)

/-- Commits what a unit of work did, or undoes it. -/
def finish (c : Control σ) (done : Reply σ α) : Executor × Reply σ α :=
  let fail (fault : RepositoryFault) (s : σ) : Executor × Reply σ α :=
    let (x, s, event) := undo c fault s
    (x, ⟨.error fault, s, done.log ++ [event]⟩)
  match done.result with
  | .error fault => fail fault done.state
  | .ok value =>
    match c.commit done.state with
    | (.ok (), s) => (⟨.committed⟩, ⟨.ok value, s, done.log ++ [.committed]⟩)
    | (.error source, s) => fail (.transaction .commit source) s

/-- Runs a unit of work in a transaction. -/
def run (c : Control σ) (x : Executor) (work : Work σ α) (s : σ) : Executor × Reply σ α :=
  let (s, recovery) := recover c x s
  match c.begin s with
  | (.error source, s) =>
    (⟨.idle⟩,
      ⟨.error (.transaction .begin source), s, recovery ++ [.beginFailed source.message]⟩)
  | (.ok (), s) =>
    let (x, reply) := finish c (work s)
    (x, { reply with log := recovery ++ reply.log })

end Executor

end EntityStore

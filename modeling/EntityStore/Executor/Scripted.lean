import EntityStore.Executor
/-!
# A control that fails when told to

A control for trying out executors.  Flags say which of its calls fail; a call that fails
changes nothing.  It also keeps a list of the calls made on it.  Units of work for it are lists
of steps.
-/

namespace EntityStore

/-- A call on a control. -/
inductive ControlCall where
  | begin
  | commit
  | rollback
  deriving DecidableEq, Repr

/-- The name of a call. -/
def ControlCall.label : ControlCall → String
  | .begin => "begin"
  | .commit => "commit"
  | .rollback => "rollback"

/-- The flags of a control. -/
structure ControlFlags where
  failBegin : Bool
  failBeginWhileActive : Bool
  failCommit : Bool
  failRollback : Bool
  active : Bool
  deriving DecidableEq, Repr

/-- The state of a control: its flags and the calls made so far, the last one first. -/
structure Scripted where
  flags : ControlFlags
  calls : List ControlCall
  deriving DecidableEq, Repr

namespace Scripted

/-- The fault of a call that fails. -/
def fault (call : ControlCall) : SessionFault :=
  .invalidUnit "fake" call.label

/-- Makes a call, which fails or sets whether a transaction is open. -/
def call (s : Scripted) (name : ControlCall) (fails active : Bool) :
    Except SessionFault Unit × Scripted :=
  let calls := name :: s.calls
  if fails then (.error (fault name), ⟨s.flags, calls⟩)
  else (.ok (), ⟨{ s.flags with active := active }, calls⟩)

/-- The control. -/
def control : Control Scripted where
  begin s :=
    s.call .begin (s.flags.failBegin || (s.flags.failBeginWhileActive && s.flags.active)) true
  commit s := s.call .commit s.flags.failCommit false
  rollback s := s.call .rollback s.flags.failRollback false
  isActive s := s.flags.active

/-- A step of a unit of work. -/
inductive Step where
  | call (name : ControlCall)
  | set (change : ControlFlags → ControlFlags)
  | value (n : Int)
  | fail (fault : RepositoryFault)

/-- Makes a call from inside a unit of work. -/
def invoke (s : Scripted) : ControlCall → Except SessionFault Unit × Scripted
  | .begin => control.begin s
  | .commit => control.commit s
  | .rollback => control.rollback s

/-- The unit of work that takes steps in order, up to the first that fails.  Its value is the
last one set. -/
def work (value : Int) : List Step → Work Scripted Int
  | [], s => ⟨.ok value, s, []⟩
  | .call name :: rest, s =>
    match s.invoke name with
    | (.ok (), s) => work value rest s
    | (.error source, s) => ⟨.error (.session source), s, []⟩
  | .set change :: rest, s => work value rest { s with flags := change s.flags }
  | .value n :: rest, s => work n rest s
  | .fail fault :: _, s => ⟨.error fault, s, []⟩

end Scripted

end EntityStore

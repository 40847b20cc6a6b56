import EntityStore.Fault.Repository
/-!
# Events

What a repository reports while it works.  An event is a value; `Event.level` says how loud it
is and `Event.text` renders it as one line of `key=value` pairs.  How long an opening took is
not measured here: its place in the line holds an underscore.
-/

namespace EntityStore

/-- How loud an event is. -/
inductive Level where
  | error
  | warn
  | info
  | debug
  deriving DecidableEq, Repr

/-- The name of a level. -/
def Level.label : Level → String
  | .error => "ERROR"
  | .warn => "WARN"
  | .info => "INFO"
  | .debug => "DEBUG"

/-- The step of an opening that failed. -/
inductive OpeningStep where
  | connect
  | configure
  deriving DecidableEq, Repr

/-- The code of a failed step of an opening. -/
def OpeningStep.code : OpeningStep → String
  | .connect => "db_open_failed"
  | .configure => "db_bootstrap_failed"

/-- Something worth reporting. -/
inductive Event where
  | unitRegistered (unit storage : String) (byDefault : Bool)
  | sessionOpening (mode : String)
  | sessionOpened (mode : String)
  | sessionRefused (mode : String) (step : OpeningStep) (reason : String)
  | tablePrepared (entity table : String)
  | repositoryReady (entity unit : String)
  | repositoryRefused (code reason : String)
  | queryRegistered (entity key : String) (form : Query.Form) (attributes : List String)
  | saved (entity outcome : String)
  | saveFailed (entity code reason : String)
  | deletedById (entity : String)
  | deletedAll (entity : String) (removed : Nat)
  | deletedByQuery (entity key : String) (removed : Nat)
  | nothingToDelete (entity : String)
  | recovered
  | recoveryFailed (reason : String)
  | beginFailed (reason : String)
  | committed
  | rolledBack (code : String)
  | rollbackSkipped (code : String)
  | rollbackFailed (code reason : String)
  deriving DecidableEq, Repr

namespace Event

/-- How loud an event is. -/
def level : Event → Level
  | .sessionRefused .. => .error
  | .repositoryRefused .. => .error
  | .saveFailed .. => .error
  | .recoveryFailed .. => .warn
  | .beginFailed .. => .warn
  | .rollbackFailed .. => .warn
  | .saved .. => .debug
  | .deletedById .. => .debug
  | .deletedAll .. => .debug
  | .deletedByQuery .. => .debug
  | .nothingToDelete .. => .debug
  | .committed => .debug
  | .rollbackSkipped .. => .debug
  | _ => .info

/-- The line of an event. -/
def text : Event → String
  | .unitRegistered unit storage false =>
    s!"event=unit_register module=db status=ok unit={unit} storage={storage}"
  | .unitRegistered unit storage true =>
    s!"event=unit_register module=db status=ok unit={unit} storage={storage} source=default"
  | .sessionOpening mode => s!"event=session_open module=db status=start mode={mode}"
  | .sessionOpened mode => s!"event=session_open module=db status=ok mode={mode} duration_ms=_"
  | .sessionRefused mode step reason =>
    s!"event=session_open module=db status=error mode={mode} duration_ms=_ error_code={step.code} error={reason}"
  | .tablePrepared entity table =>
    s!"event=table_prepare module=db status=ok entity={entity} table={table} mode=create"
  | .repositoryReady entity unit =>
    s!"event=repo_init module=repo status=ok entity={entity} unit={unit}"
  | .repositoryRefused code reason =>
    s!"event=repo_init module=repo status=error error_code={code} error={reason}"
  | .queryRegistered entity key form attributes =>
    s!"event=query_register module=repo status=ok entity={entity} query={key} form={form.label} attributes=" ++
      String.intercalate "," attributes
  | .saved entity outcome =>
    s!"event=repo_save module=repo status=ok entity={entity} outcome={outcome}"
  | .saveFailed entity code reason =>
    s!"event=repo_save module=repo status=error entity={entity} error_code={code} error={reason}"
  | .deletedById entity => s!"event=repo_delete module=repo status=ok entity={entity} scope=id"
  | .deletedAll entity removed =>
    s!"event=repo_delete module=repo status=ok entity={entity} scope=all removed={removed}"
  | .deletedByQuery entity key removed =>
    s!"event=repo_delete module=repo status=ok entity={entity} query={key} removed={removed}"
  | .nothingToDelete entity =>
    s!"event=repo_delete module=repo status=skipped entity={entity} reason=not_found"
  | .recovered => "event=tx_recover module=repo status=ok"
  | .recoveryFailed reason => s!"event=tx_recover module=repo status=error error={reason}"
  | .beginFailed reason => s!"event=tx_begin module=repo status=error error={reason}"
  | .committed => "event=tx_commit module=repo status=ok"
  | .rolledBack code => s!"event=tx_rollback module=repo status=ok error_code={code}"
  | .rollbackSkipped code =>
    s!"event=tx_rollback module=repo status=skipped reason=inactive error_code={code}"
  | .rollbackFailed code reason =>
    s!"event=tx_rollback module=repo status=error error_code={code} error={reason}"

/-- The line of an event with its level in front. -/
def line (event : Event) : String :=
  event.level.label ++ " " ++ event.text

end Event

end EntityStore

import EntityStore.Path
import EntityStore.Text.Blank
/-!
# Setting logging up

Logging is set up once, with a level and a target.  Setting it up again in the same way changes
nothing; setting it up in another way is refused.  `Logging.init` is that step, for any way of
creating directories: its first argument says of each path why no directory can be created
there, if that is so.
-/

namespace EntityStore

/-! ## 1. Levels and targets -/

/-- How loud an event has to be to be written. -/
inductive LogLevel where
  | trace
  | debug
  | info
  | warn
  | error
  deriving DecidableEq, Repr

namespace LogLevel

/-- The name of a level. -/
def label : LogLevel → String
  | .trace => "trace"
  | .debug => "debug"
  | .info => "info"
  | .warn => "warn"
  | .error => "error"

/-- The level with a name; one of them has a longer name, too. -/
def ofName? : String → Option LogLevel
  | "trace" => some .trace
  | "debug" => some .debug
  | "info" => some .info
  | "warn" => some .warn
  | "warning" => some .warn
  | "error" => some .error
  | _ => none

/-- The level of a program that does not choose one. -/
def default : LogLevel :=
  .debug

end LogLevel

/-- Where events are written. -/
inductive LogTarget where
  /-- To the standard error stream. -/
  | stderr
  /-- To files in a directory. -/
  | directory (path : String)
  deriving DecidableEq, Repr

namespace LogTarget

/-- The target in messages. -/
def describe : LogTarget → String
  | .stderr => "stderr"
  | .directory path => "`" ++ path ++ "`"

/-- Whether two targets are the same. -/
def same : LogTarget → LogTarget → Bool
  | .stderr, .stderr => true
  | .directory a, .directory b => Path.same a b
  | _, _ => false

end LogTarget

/-! ## 2. Faults -/

/-- Why logging cannot be set up. -/
inductive LogFault where
  | unsupportedLevel (given : String)
  | emptyDirectory
  | relativeDirectory (path : String)
  | cannotCreate (path reason : String)
  | otherTarget (active requested : LogTarget)
  | otherLevel (active requested : LogLevel)
  deriving DecidableEq, Repr

/-- The message of a fault. -/
def LogFault.message : LogFault → String
  | .unsupportedLevel given =>
    s!"unsupported log level `{given}`; expected trace|debug|info|warn|error"
  | .emptyDirectory => "log directory cannot be empty"
  | .relativeDirectory path => s!"log directory must be absolute, got `{path}`"
  | .cannotCreate path reason => s!"failed to create log directory `{path}`: {reason}"
  | .otherTarget active requested =>
    s!"logging already initialized for {active.describe}; refusing to switch to {requested.describe}"
  | .otherLevel active requested =>
    s!"logging already initialized with level `{active.label}`; refusing to switch to `{requested.label}`"

/-! ## 3. Checks -/

/-- The level that a text names; blanks around it and the case of its letters do not count. -/
def LogLevel.parse (text : String) : Except LogFault LogLevel :=
  let name := String.ofList ((trimBlanks text.toList).map Char.toLower)
  match ofName? name with
  | some level => .ok level
  | none => .error (.unsupportedLevel name)

/-- A directory has to be given by an absolute path. -/
def LogTarget.check : LogTarget → Except LogFault Unit
  | .stderr => .ok ()
  | .directory path =>
    if path = "" then .error .emptyDirectory
    else if !Path.isAbsolute path then .error (.relativeDirectory path)
    else .ok ()

/-! ## 4. The state of logging -/

/-- How logging was set up, if it was. -/
structure Logging where
  active : Option (LogLevel × LogTarget)
  deriving DecidableEq, Repr

namespace Logging

/-- Logging that is not set up. -/
def off : Logging :=
  ⟨none⟩

/-- Prepares a target. -/
def prepare (refusal? : String → Option String) : LogTarget → Except LogFault Unit
  | .stderr => .ok ()
  | .directory path =>
    match refusal? path with
    | some reason => .error (.cannotCreate path reason)
    | none => .ok ()

/-- Sets logging up with a checked level and target, or compares them with those it was set up
with. -/
def start (refusal? : String → Option String) (logging : Logging) (level : LogLevel)
    (target : LogTarget) : Except LogFault Logging :=
  match logging.active with
  | none =>
    match prepare refusal? target with
    | .error fault => .error fault
    | .ok () => .ok ⟨some (level, target)⟩
  | some (activeLevel, activeTarget) =>
    if !activeTarget.same target then .error (.otherTarget activeTarget target)
    else if activeLevel ≠ level then .error (.otherLevel activeLevel level)
    else .ok logging

/-- Sets logging up. -/
def init (refusal? : String → Option String) (logging : Logging) (level : String)
    (target : LogTarget) : Except LogFault Logging :=
  match LogLevel.parse level with
  | .error fault => .error fault
  | .ok level =>
    match target.check with
    | .error fault => .error fault
    | .ok () => start refusal? logging level target

/-! ## 5. Directories -/

/-- The null device. -/
def nullDevice : List Component :=
  [.root, .named "dev", .named "null"]

/-- Why no directory can be created at a path, on a disk on which nothing but the null device is
in the way. -/
def refusal? (path : String) : Option String :=
  let components := Path.components path
  if path.toList.any (·.toNat = 0) then some "file name contained an unexpected NUL byte"
  else if components = nullDevice then some "File exists (os error 17)"
  else if nullDevice.isPrefixOf components then some "Not a directory (os error 20)"
  else none

end Logging

end EntityStore

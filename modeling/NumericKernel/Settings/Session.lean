import NumericKernel.Settings.Basic

/-!
# Settings over time

The settings of the process are loaded once and kept; a failed attempt is not kept.
Logging is set up from given settings or from those of the process.
-/

namespace NumericKernel

/-- The levels of log records, the most severe first. -/
inductive LogLevel where
  | critical
  | error
  | warning
  | info
  | debug
  | notSet
  deriving DecidableEq, Repr

namespace LogLevel

/-- The name of a level. -/
def name : LogLevel → String
  | critical => "CRITICAL"
  | error => "ERROR"
  | warning => "WARNING"
  | info => "INFO"
  | debug => "DEBUG"
  | notSet => "NOTSET"

/-- The levels by all their names; two levels have a second one. -/
def names : List (String × LogLevel) := [
  ("CRITICAL", critical), ("FATAL", critical), ("ERROR", error), ("WARNING", warning),
  ("WARN", warning), ("INFO", info), ("DEBUG", debug), ("NOTSET", notSet)]

/-- Names that stand for a text instead of a level. -/
def textNames : List (String × String) := [("BASIC_FORMAT", "%(levelname)s:%(name)s:%(message)s")]

/-- The level of a name.  A name that stands for a text is refused; one that stands
for nothing gives a warning level. -/
def ofName (s : String) : Except Fault LogLevel :=
  match textNames.lookup s with
  | some meaning => .error (.unknownLevel meaning)
  | none => .ok ((names.lookup s).getD warning)

end LogLevel

/-- The logger of the package after it has been set up. -/
structure LoggerSetup where
  level : LogLevel
  format : LogFormat

namespace LoggerSetup

/-- The name of the one logger. -/
def loggerName : String := "osabie_numeric"

/-- The name of the formatter that writes a format. -/
def formatterName (s : LoggerSetup) : String :=
  match s.format with
  | .text => "TextFormatter"
  | .json => "StructuredFormatter"

/-- Records are not handed on to the logger above. -/
def propagates (_ : LoggerSetup) : Bool := false

/-- The setup that settings ask for. -/
def ofSettings (s : Settings) : Except Fault LoggerSetup := do
  return ⟨← LogLevel.ofName s.logLevel, s.logFormat⟩

end LoggerSetup

namespace Settings

/-- The environment and the settings of the process, once they are loaded. -/
structure Store where
  env : Environment := []
  loaded : Option Settings := none

/-- What a host can do with the settings. -/
inductive Action where
  /-- Sets or removes environment variables. -/
  | setVariables (changes : List (String × Option String))
  /-- Makes settings of their own. -/
  | make (arguments : List (String × Value))
  | get
  /-- Forgets the settings of the process. -/
  | clear
  | assign (field : String)
  /-- Sets up logging from settings of their own, or from those of the process. -/
  | setUpLogging (arguments : Option (List (String × Value)))

/-- What comes of an action. -/
inductive Outcome where
  | done
  | settings (s : Settings)
  | logger (s : LoggerSetup)
  | refused (vs : List Violation)
  | failed (fault : Fault)

namespace Outcome

/-- The outcome of setting up logging from settings. -/
def ofSetup (s : Settings) : Outcome :=
  match LoggerSetup.ofSettings s with
  | .ok setup => .logger setup
  | .error fault => .failed fault

end Outcome

namespace Store

/-- The settings of the process, loaded now unless they were before. -/
def settings (store : Store) : Except (List Violation) Settings × Store :=
  match store.loaded with
  | some s => (.ok s, store)
  | none =>
    match load store.env [] with
    | .ok s => (.ok s, { store with loaded := some s })
    | .error vs => (.error vs, store)

/-- Settings as an outcome, by way of what is done with them. -/
def outcome (use : Settings → Outcome) : Except (List Violation) Settings → Outcome
  | .ok s => use s
  | .error vs => .refused vs

/-- One action, with what comes of it. -/
def act (store : Store) : Action → Outcome × Store
  | .setVariables changes =>
    match store.env.change changes with
    | (env, none) => (.done, { store with env })
    | (env, some fault) => (.failed fault, { store with env })
  | .make arguments => (outcome .settings (load store.env arguments), store)
  | .get =>
    let (answer, next) := store.settings
    (outcome .settings answer, next)
  | .clear => (.done, { store with loaded := none })
  | .assign field => (.refused [⟨field, .frozen⟩], store)
  | .setUpLogging (some arguments) =>
    (outcome .ofSetup (load store.env arguments), store)
  | .setUpLogging none =>
    let (answer, next) := store.settings
    (outcome .ofSetup answer, next)

/-- The outcomes of the actions of a host, in turn. -/
def run (store : Store) : List Action → List Outcome
  | [] => []
  | action :: rest =>
    let (answer, next) := store.act action
    answer :: run next rest

end Store

end Settings

end NumericKernel

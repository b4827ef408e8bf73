import NumericKernel.Fault
import NumericKernel.Text.LetterCase
import NumericKernel.Validation

/-!
# Settings

Three settings govern logging and the prime cache.  Each is taken from an argument,
else from an environment variable, else it has its default.  The letter case of the
names of arguments and variables does not matter.
-/

namespace NumericKernel

/-- The format of the lines of a log. -/
inductive LogFormat where
  | text
  | json
  deriving DecidableEq, Repr

namespace LogFormat

/-- The name of a format. -/
def name : LogFormat → String
  | text => "text"
  | json => "json"

/-- The format of a name. -/
def ofName? (s : String) : Option LogFormat := [text, json].find? (·.name == s)

end LogFormat

/-- Settings that passed validation. -/
structure Settings where
  logLevel : String
  logFormat : LogFormat
  primeCacheLock : Bool
  deriving Repr

/-- Environment variables in the order in which they were first set. -/
abbrev Environment := List (String × String)

namespace Environment

/-- A variable is written over in its place, and a new one comes last. -/
def put (env : Environment) (name text : String) : Environment :=
  if env.any (·.1 == name) then
    env.map fun (other, old) => if other == name then (name, text) else (other, old)
  else env ++ [(name, text)]

/-- What is wrong with setting a variable, if anything is. -/
def refusal? (name text : String) : Option Fault :=
  if name.contains '\x00' || text.contains '\x00' then some .nullInVariable
  else if name.contains '=' then some .illegalVariableName
  else none

/-- The environment after changes, each of which sets or removes a variable, up to
the first one that is refused. -/
def change (env : Environment) : List (String × Option String) → Environment × Option Fault
  | [] => (env, none)
  | (name, none) :: rest => change (env.filter (·.1 != name)) rest
  | (name, some text) :: rest =>
    match refusal? name text with
    | some fault => (env, some fault)
    | none => change (env.put name text) rest

/-- The variable of a name in any letter case; the one set last counts. -/
def find? (env : Environment) (name : String) : Option String :=
  (env.filter fun (other, _) => Text.toLower other == Text.toLower name).getLast?.map (·.2)

end Environment

namespace Settings

/-- What the names of the environment variables begin with. -/
def variableStem : String := "OSABIE_NUMERIC_"

/-- The names of the settings, in the order in which they are checked. -/
def fields : List String := ["log_level", "log_format", "prime_cache_lock"]

/-- The argument for a setting, whose name may be in any letter case; the first one
counts. -/
def argument? (arguments : List (String × Value)) (field : String) : Option Value :=
  (arguments.find? fun (name, _) => Text.toLower name == field).map (·.2)

/-- The value given for a field: by an argument, or else by a variable. -/
def given? (env : Environment) (arguments : List (String × Value)) (field : String) : Option Value :=
  (argument? arguments field).or ((env.find? (variableStem ++ field)).map .text)

/-- The log level in upper case. -/
def readLevel (given : Option Value) : Except Flaw String :=
  match given with
  | none => .ok "WARNING"
  | some v => do return Text.toUpper (← Flaw.requireText v)

/-- The log format by its name in any letter case. -/
def readFormat (given : Option Value) : Except Flaw LogFormat :=
  match given with
  | none => .ok .text
  | some v => do
    let name := Text.toLower (← Flaw.requireText v)
    match LogFormat.ofName? name with
    | some format => return format
    | none => .error (.unknownLogFormat name)

/-- The setting of the lock, which is on unless it is given. -/
def readLock (given : Option Value) : Except Flaw Bool :=
  match given with
  | none => .ok true
  | some v => Flaw.requireBoolean v

/-- The violation of a field, if reading it fails. -/
def violation {α : Type} (field : String) : Except Flaw α → List Violation
  | .ok _ => []
  | .error flaw => [⟨field, flaw⟩]

/-- The settings made from an environment and arguments, or what is wrong with
them; an argument of another name is a violation too. -/
def load (env : Environment) (arguments : List (String × Value)) : Except (List Violation) Settings :=
  let level := readLevel (given? env arguments "log_level")
  let format := readFormat (given? env arguments "log_format")
  let lock := readLock (given? env arguments "prime_cache_lock")
  let unknown := (arguments.filter fun (name, _) => !fields.contains (Text.toLower name)).map
    fun (name, _) => (⟨name, .unknownField⟩ : Violation)
  match level, format, lock, unknown with
  | .ok logLevel, .ok logFormat, .ok primeCacheLock, [] => .ok { logLevel, logFormat, primeCacheLock }
  | _, _, _, _ =>
    .error (violation "log_level" level ++ violation "log_format" format ++
      violation "prime_cache_lock" lock ++ unknown)

end Settings

end NumericKernel

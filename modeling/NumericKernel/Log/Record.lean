import NumericKernel.Log.Date
import NumericKernel.Log.Message
import NumericKernel.Settings.Basic

/-!
# Log records

A record is written as a line of text or as a line of JSON in ASCII.
-/

namespace NumericKernel.Log

/-- An exception that a record tells of. -/
structure Exception where
  kind : String
  text : String

namespace Exception

/-- The kind, and the text after it unless there is none.  A key is shown quoted. -/
def describe (e : Exception) : String :=
  let shown := if e.kind == "KeyError" then Text.quote e.text else e.text
  if shown.isEmpty then e.kind else e.kind ++ ": " ++ shown

end Exception

/-- What there is to write about one event. -/
structure Record where
  logger : String
  level : String
  path : String
  line : Int
  pattern : String
  arguments : List Value := []
  function : Option String := none
  created : Int := 0
  exception : Option Exception := none

namespace Record

/-- The last component of the path. -/
def fileName (r : Record) : List Char :=
  (r.path.toList.reverse.takeWhile (· != '/')).reverse

/-- The file name up to its last dot, unless only dots stand before that. -/
def moduleName (r : Record) : String :=
  let name := r.fileName
  let stem := (name.reverse.dropWhile (· != '.')).drop 1 |>.reverse
  String.ofList (if stem.all (· == '.') then name else stem)

/-! ## Text -/

/-- The record as a line of text; an exception follows on a line of its own. -/
def text (r : Record) : Except Fault String := do
  let line := (DateTime.ofSeconds r.created).text ++ " - " ++ r.logger ++ " - " ++ r.level ++ " - " ++
    (← message r.pattern r.arguments)
  match r.exception with
  | none => return line
  | some e => return (if line.endsWith "\n" then line else line ++ "\n") ++ e.describe

/-! ## JSON -/

/-- A unit of UTF-16 as an escape. -/
def unitEscape (unit : Nat) : List Char := '\\' :: 'u' :: Text.hexDigits 4 unit

/-- A character as it stands in a JSON text in ASCII. -/
def jsonChar (c : Char) : List Char :=
  if c = '"' ∨ c = '\\' then ['\\', c]
  else if c = '\n' then ['\\', 'n']
  else if c = '\r' then ['\\', 'r']
  else if c = '\t' then ['\\', 't']
  else if c.toNat = 0x8 then ['\\', 'b']
  else if c.toNat = 0xC then ['\\', 'f']
  else if 0x20 ≤ c.toNat ∧ c.toNat ≤ 0x7E then [c]
  else if c.toNat < 0x10000 then unitEscape c.toNat
  else
    let offset := c.toNat - 0x10000
    unitEscape (0xD800 + offset / 0x400) ++ unitEscape (0xDC00 + offset % 0x400)

/-- A text as a quoted JSON string. -/
def jsonString (s : String) : String :=
  String.ofList ('"' :: s.toList.flatMap jsonChar ++ ['"'])

/-- What is shown for the time at which the line is written. -/
def timeMark : String := "T"

/-- The record as a JSON object on one line. -/
def json (r : Record) : Except Fault String := do
  let members := [
    ("timestamp", jsonString timeMark),
    ("level", jsonString r.level),
    ("logger", jsonString r.logger),
    ("message", jsonString (← message r.pattern r.arguments)),
    ("module", jsonString r.moduleName),
    ("function", (r.function.map jsonString).getD "null"),
    ("line", toString r.line)] ++
    (r.exception.map fun e => ("exception", jsonString e.describe)).toList
  let shown := members.map fun (key, value) => jsonString key ++ ": " ++ value
  return "\x7b" ++ ", ".intercalate shown ++ "\x7d"

/-- The record in a format. -/
def format (f : LogFormat) (r : Record) : Except Fault String :=
  match f with
  | .text => r.text
  | .json => r.json

end Record

end NumericKernel.Log

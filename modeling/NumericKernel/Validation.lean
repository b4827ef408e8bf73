import NumericKernel.Value
import NumericKernel.Text.LooseInteger

/-!
# Validation of fields

A record is made from named values.  Each field has its own demands, and all
violations are reported together, in the order of the fields.
-/

namespace NumericKernel

/-- What is wrong with the value of a field. -/
inductive Flaw where
  | missing
  | notPositive
  | notInteger
  | notIntegerText
  | fractional
  | notFinite
  | integerTooLarge
  | notText
  | tooShort (least : Nat)
  | tooLong (most : Nat)
  | notBoolean
  | notBooleanText
  | unknownLogFormat (given : String)
  | unknownField
  | frozen

/-- A field and what is wrong with its value. -/
structure Violation where
  field : String
  flaw : Flaw

namespace Flaw

/-- The short name of a flaw. -/
def label : Flaw → String
  | missing => "missing"
  | notPositive => "greater_than"
  | notInteger => "int_type"
  | notIntegerText => "int_parsing"
  | fractional => "int_from_float"
  | notFinite => "finite_number"
  | integerTooLarge => "int_parsing_size"
  | notText => "string_type"
  | tooShort _ => "string_too_short"
  | tooLong _ => "string_too_long"
  | notBoolean => "bool_type"
  | notBooleanText => "bool_parsing"
  | unknownLogFormat _ => "value_error"
  | unknownField => "extra_forbidden"
  | frozen => "frozen_instance"

/-- A number of characters. -/
def characters (n : Nat) : String := toString n ++ (if n = 1 then " character" else " characters")

/-- What a flaw says to a reader. -/
def description : Flaw → String
  | missing => "Field required"
  | notPositive => "Input should be greater than 0"
  | notInteger => "Input should be a valid integer"
  | notIntegerText => "Input should be a valid integer, unable to parse string as an integer"
  | fractional => "Input should be a valid integer, got a number with a fractional part"
  | notFinite => "Input should be a finite number"
  | integerTooLarge => "Unable to parse input string as an integer, exceeded maximum size"
  | notText => "Input should be a valid string"
  | tooShort least => "String should have at least " ++ characters least
  | tooLong most => "String should have at most " ++ characters most
  | notBoolean => "Input should be a valid boolean"
  | notBooleanText => "Input should be a valid boolean, unable to interpret input"
  | unknownLogFormat given =>
    "Value error, log_format must be one of ('text', 'json'), got " ++ Text.quote given
  | unknownField => "Extra inputs are not permitted"
  | frozen => "Instance is frozen"

end Flaw

namespace Violation

/-- The wording of a violation, behind the name of its field. -/
def message (v : Violation) : String :=
  v.field ++ ": " ++ v.flaw.description ++ " [" ++ v.flaw.label ++ "]"

/-- All violations in one text. -/
def report (vs : List Violation) : String := "; ".intercalate (vs.map message)

end Violation

/-! ## Demands on values -/

namespace Flaw

/-- The integers of a signed word of 64 bits reach from minus this one up to it,
which is the first one beyond. -/
def wordBound : Int := 9223372036854775808

/-- Whether a number fits a signed word of 64 bits.  The least integer that does so
is refused as a double. -/
def fitsWord : Number → Bool
  | .int n => -wordBound ≤ n && n < wordBound
  | .real x => (Number.real x.abs).less (.int wordBound)

/-- The integer that a value is or writes. -/
def requireInteger : Value → Except Flaw Int
  | .bool b => .ok (if b then 1 else 0)
  | .number (.int n) => .ok n
  | .number (.real x) =>
    match x.units? with
    | none => .error .notFinite
    | some units =>
      if !x.isIntegral then .error .fractional
      else if !fitsWord (.real x) then .error .integerTooLarge
      else .ok (Double.truncUnits units)
  | .text s =>
    match Text.looseInteger? s with
    | some n => .ok n
    | none => .error .notIntegerText
  | .null | .list _ => .error .notInteger

/-- A value as a text, if it is one. -/
def requireText : Value → Except Flaw String
  | .text s => .ok s
  | _ => .error .notText

/-- The texts that stand for a truth value, in lower case. -/
def booleanWords : List (String × Bool) := [
  ("1", true), ("true", true), ("yes", true), ("on", true), ("t", true), ("y", true),
  ("0", false), ("false", false), ("no", false), ("off", false), ("f", false), ("n", false)]

/-- The truth value that a value is or stands for.  Of the numbers only integers
that fit a word are looked at. -/
def requireBoolean : Value → Except Flaw Bool
  | .bool b => .ok b
  | .number n =>
    if !n.isIntegral || !fitsWord n then .error .notBoolean
    else if n.equal (.int 1) then .ok true
    else if n.isZero then .ok false
    else .error .notBooleanText
  | .text s =>
    match booleanWords.lookup s.toLower with
    | some b => .ok b
    | none => .error .notBooleanText
  | .null | .list _ => .error .notBoolean

end Flaw

end NumericKernel

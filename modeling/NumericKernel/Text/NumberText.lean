import NumericKernel.Fault
import NumericKernel.Text.Blank
import NumericKernel.Text.DecimalDigit

/-!
# Numbers written as text

An integer is an optional sign and digits.  A Real may also have a decimal point,
with digits on at least one side of it, and an exponent.  The digits may come from
any script, and blanks around the number are ignored.  An integer with too many digits
is refused, and a Real is not, however many it has.
-/

namespace NumericKernel.Text

/-- Whether a sign is negative, and the text after it. -/
def splitSign : List Char → Bool × List Char
  | '-' :: rest => (true, rest)
  | '+' :: rest => (false, rest)
  | cs => (false, cs)

/-- A text that consists of digits and has one at least. -/
def isDigits (cs : List Char) : Bool := !cs.isEmpty && cs.all isDigit

/-- The integer that a sign and digits write, however many they are. -/
def integerValue? (cs : List Char) : Option Int :=
  let (negative, body) := splitSign cs
  if isDigits body then
    some (if negative then -digitsValue body else digitsValue body)
  else none

/-- The integer that a text writes, if it writes one and has few enough digits. -/
def readInteger? (cs : List Char) : Except Fault (Option Int) :=
  match integerValue? cs with
  | none => .ok none
  | some n =>
    let digits := (splitSign cs).2.length
    if digits ≤ Number.maxDigits then .ok (some n) else .error (.tooManyDigits digits)

/-- The exponent that the end of a text writes; it may be missing. -/
def readExponent? : List Char → Option Int
  | [] => some 0
  | c :: rest => if c = 'e' ∨ c = 'E' then integerValue? rest else none

/-- The digits after a decimal point, if there is one, and the text after them. -/
def splitFraction : List Char → List Char × List Char
  | '.' :: rest => rest.span isDigit
  | cs => ([], cs)

/-- The double nearest to a number with a point or an exponent. -/
def readReal? (cs : List Char) : Option Double := do
  let (negative, body) := splitSign cs
  let (whole, afterWhole) := body.span isDigit
  let (fraction, afterFraction) := splitFraction afterWhole
  let exponent ← readExponent? afterFraction
  let digits := whole ++ fraction
  if digits.isEmpty then none
  else some (Double.Decimal.toDouble negative ⟨digitsValue digits, exponent - fraction.length⟩)

/-- The number that a text writes between its blanks, if it writes one. -/
def readNumber? (s : String) : Except Fault (Option Number) := do
  let body := trim s.toList
  match ← readInteger? body with
  | some n => return some (.int n)
  | none => return (readReal? body).map .real

end NumericKernel.Text

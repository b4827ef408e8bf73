import NumericKernel.Fault

/-!
# Operations on numbers

Two integers give an exact integer.  As soon as a double takes part the other
operand is rounded to a double as well, which fails for an integer beyond the
finite doubles.
-/

namespace NumericKernel

namespace Number

/-! ## Conversion -/

/-- A number as a double, which an integer beyond the finite doubles does not have. -/
def toDouble : Number → Except Fault Double
  | .int n =>
    match Double.ofInt? n with
    | some x => .ok x
    | none => .error .integerTooLarge
  | .real x => .ok x

theorem toDouble_real (x : Double) : (Number.real x).toDouble = .ok x := rfl

/-- An integer part of a number, by a rule that cuts a count of units. -/
def integerPart (cut : Int → Int) : Number → Except Fault Int
  | .int n => .ok n
  | .real x =>
    match x.value? with
    | some (.finite units) => .ok (cut units)
    | some _ => .error .infinityToInteger
    | none => .error .nanToInteger

/-- The greatest integer that is at most a number. -/
def floor : Number → Except Fault Int := integerPart Double.floorUnits

/-- The least integer that is at least a number. -/
def ceil : Number → Except Fault Int := integerPart Double.ceilUnits

/-- The integer part of a number, cut towards zero. -/
def trunc : Number → Except Fault Int := integerPart Double.truncUnits

/-! ## The four operations -/

/-- An operation that is exact on integers and rounds on doubles. -/
def combine (exact : Int → Int → Int) (rounding : Double → Double → Double) :
    Number → Number → Except Fault Number
  | .int m, .int n => .ok (.int (exact m n))
  | a, b => do return .real (rounding (← a.toDouble) (← b.toDouble))

/-- The sum of two numbers. -/
def add : Number → Number → Except Fault Number := combine (· + ·) (· + ·)

/-- The difference of two numbers. -/
def sub : Number → Number → Except Fault Number := combine (· - ·) (· - ·)

/-- The product of two numbers. -/
def mul : Number → Number → Except Fault Number := combine (· * ·) (· * ·)

/-- The opposite of a number. -/
def neg : Number → Number
  | .int n => .int (-n)
  | .real x => .real (-x)

/-- The size of a number without its sign. -/
def abs : Number → Number
  | .int n => .int n.natAbs
  | .real x => .real x.abs

/-- The true quotient, always a double.  The quotient of two integers is rounded
once, however large they are. -/
def ratio : Number → Number → Except Fault Double
  | .int m, .int n =>
    if n = 0 then .error .realDivisionByZero
    else
      match Double.ofRatio? ((m < 0) != (n < 0)) m.natAbs n.natAbs with
      | some x => .ok x
      | none => .error .quotientTooLarge
  | a, b => do
    let x ← a.toDouble
    let y ← b.toDouble
    if y == 0 then .error .realDivisionByZero else return x / y

theorem add_int (m n : Int) : add (.int m) (.int n) = .ok (.int (m + n)) := rfl

theorem sub_int (m n : Int) : sub (.int m) (.int n) = .ok (.int (m - n)) := rfl

theorem mul_int (m n : Int) : mul (.int m) (.int n) = .ok (.int (m * n)) := rfl

/-- The quotient of two integers is rounded once, from the exact ratio. -/
theorem ratio_int (m : Int) {n : Int} (nonzero : n ≠ 0) : ratio (.int m) (.int n) =
    match Double.ofRatio? ((m < 0) != (n < 0)) m.natAbs n.natAbs with
    | some x => .ok x
    | none => .error .quotientTooLarge := if_neg nonzero

/-! ## Admissible operands -/

/-- Refuses what is infinite or not a number. -/
def requireFinite (n : Number) : Except Fault Unit :=
  if n.isFinite then .ok () else .error (.notFinite n)

/-- The whole number that the parameter of this name has to be; a double without
a fractional part will do. -/
def requireInteger (n : Number) (name : String := "value") : Except Fault Int :=
  if n.isIntegral then n.trunc else .error (.notIntegral name n)

end Number

namespace Value

/-- A value as a number, if it is one. -/
def requireNumber : Value → Except Fault Number
  | .number n => .ok n
  | v => .error (.notNumber v)

/-- The finite number that a value has to be. -/
def requireOperand (v : Value) : Except Fault Number := do
  let n ← v.requireNumber
  n.requireFinite
  return n

/-- A value as an integer: a number that is whole. -/
def requireInteger (v : Value) (name : String := "value") : Except Fault Int := do
  let n ← v.requireNumber
  n.requireInteger name

end Value

end NumericKernel

import NumericKernel.Number.Operations

/-!
# Quotient and remainder

The remainder has the sign of the divisor for operands of every kind and sign,
and on integers it fits the floored quotient.  A Real quotient is cut toward
zero instead.
-/

namespace NumericKernel.Number

/-! ## Remainder -/

/-- The remainder that the divisor leaves on the negated dividend. -/
def complement (remainder divisor : Number) : Except Fault Number :=
  if remainder.isZero then .ok remainder else divisor.sub remainder

/-- The remainder of two integers, from the one of their magnitudes: it is negated with
both operands, and complemented where one of them alone is below zero. -/
def integerMod (dividend divisor : Int) : Except Fault Number := do
  if dividend < 0 ∧ divisor < 0 then
    return (Number.int ((-dividend).fmod (-divisor))).neg
  else if dividend < 0 ∧ 0 < divisor then
    complement (.int ((-dividend).fmod divisor)) (.int divisor)
  else if 0 < dividend ∧ divisor < 0 then
    return (← complement (.int (dividend.fmod (-divisor))) (.int (-divisor))).neg
  else
    return .int (dividend.fmod divisor)

/-- The remainder of a Real by an integer: the integer part, taken toward the
side of the divisor's sign, is reduced exactly and the fraction added back. -/
def modByInteger (x : Double) (divisor : Int) : Except Fault Number := do
  let whole ← if 0 < divisor then (Number.real x).floor else (Number.real x).ceil
  let fraction ← (Number.real x).sub (.int whole)
  (← integerMod whole divisor).add fraction

/-- The remainder of operands of equal sign by a Real: the fraction of the
quotient, as a share of the divisor. -/
def modByReal (dividend : Number) (divisor : Double) : Except Fault Number := do
  let quotient ← dividend.ratio (.real divisor)
  (Number.real quotient).requireFinite
  let share ← modByInteger quotient 1
  share.mul (.real divisor)

/-- The remainder, which is zero or has the sign of the divisor. -/
def mod (dividend divisor : Number) : Except Fault Number := do
  dividend.requireFinite
  divisor.requireFinite
  if divisor.isZero then
    .error (.moduloByZero dividend divisor)
  else
    match dividend, divisor with
    | .int m, .int n => integerMod m n
    | .real x, .int n =>
      if dividend.isNegative && n < 0 then
        return (← modByInteger (-x) (-n)).neg
      else
        modByInteger x n
    | _, .real y =>
      if dividend.isNegative && divisor.isNegative then
        return (← modByReal dividend.neg (-y)).neg
      else if dividend.isNegative then
        complement (← modByReal dividend.neg y) divisor
      else if divisor.isNegative && dividend.isPositive then
        return (← complement (← modByReal dividend (-y)) divisor.neg).neg
      else
        modByReal dividend y

/-! ## Quotient -/

/-- The integer quotient: floored for two integers, cut toward zero otherwise. -/
def divide (dividend divisor : Number) : Except Fault Int := do
  dividend.requireFinite
  divisor.requireFinite
  if divisor.isZero then
    .error (.quotientByZero dividend divisor)
  else
    match dividend, divisor with
    | .int m, .int n => return m.fdiv n
    | _, _ => (Number.real (← dividend.ratio divisor)).trunc

end NumericKernel.Number

import NumericKernel.Number.Tolerance

/-!
# Common divisors and multiples

Integers have a greatest common divisor by Euclid's algorithm.  With a Real
operand the older form by repeated subtraction is used, which allows operands
that are not whole; it stops when the operands agree up to rounding.
-/

namespace NumericKernel

/-- The result of repeated subtraction: what is left of one of the two operands. -/
inductive Remnant where
  | ofFirst (x : Double)
  | ofSecond (y : Double)
  deriving DecidableEq

/-- Repeated subtraction of the smaller from the larger one of two positive
doubles, until they are close or one is nearly zero.  There is no result when a
subtraction is lost in rounding, since it would be repeated for ever. -/
def subtractiveGcd (x y : Double) : Option Remnant :=
  if x.isClose y then some (.ofFirst x)
  else if y < x then
    let rest := x - y
    if rest.isNearZero then some (.ofSecond y)
    else if y.isNearZero then some (.ofFirst rest)
    else if rest.toBits.toNat < x.toBits.toNat then subtractiveGcd rest y
    else none
  else
    let rest := y - x
    if x.isNearZero then some (.ofSecond rest)
    else if rest.isNearZero then some (.ofFirst x)
    else if rest.toBits.toNat < y.toBits.toNat then subtractiveGcd x rest
    else none
termination_by x.toBits.toNat + y.toBits.toNat

namespace Number

/-- An operand as it was given, if repeated subtraction has left it as it was. -/
def remaining (given : Number) (before after : Double) : Number :=
  if before = after then given else .real after

/-- The common divisor of two positive numbers, one of which is Real. -/
def positiveGcd (a b : Number) : Except Fault Number :=
  if a.equal b then .ok a
  else do
    let x ← a.toDouble
    let y ← b.toDouble
    match subtractiveGcd x y with
    | some (.ofFirst rest) => return a.remaining x rest
    | some (.ofSecond rest) => return b.remaining y rest
    | none => .error (.subtractionStalled a b)

/-- The greatest common divisor.  Equal operands, and the other operand of a zero,
are returned as they are. -/
def gcd (a b : Number) : Except Fault Number := do
  a.requireFinite
  b.requireFinite
  if a.equal b then return a
  else if b.isZero then return a
  else if a.isZero then return b
  else
    match a, b with
    | .int m, .int n => return .int (Int.gcd m n)
    | _, _ =>
      if a.isNegative && b.isNegative then return (← positiveGcd a.neg b.neg).neg
      else if a.isNegative then positiveGcd a.neg b
      else if b.isNegative then positiveGcd a b.neg
      else positiveGcd a b

/-- The least common multiple, as the product without its sign over the greatest
common divisor. -/
def lcm (a b : Number) : Except Fault Number := do
  let divisor ← gcd a b
  if divisor.isZero then
    .error (.multipleOfZeros a b)
  else
    let product ← a.mul b
    match product.abs, divisor with
    | .int m, .int n => return .int (m.fdiv n)
    | _, _ => return .real (← product.abs.ratio divisor)

end Number

end NumericKernel

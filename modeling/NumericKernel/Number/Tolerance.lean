import NumericKernel.Number.Operations

/-!
# Comparison up to rounding

Two Reals that should be equal may differ by accumulated rounding.  They are
taken for equal when they differ by no more than a share of the larger one, or
by no more than an absolute amount.
-/

namespace NumericKernel

namespace Double

/-- The share of the larger operand that counts as rounding. -/
def relativeTolerance : Double := 1e-9

/-- The amount that counts as rounding near zero. -/
def absoluteTolerance : Double := 1e-12

/-- Equal up to the tolerances; an infinity is close to itself only. -/
def isClose (x y : Double) (relative : Double := relativeTolerance)
    (absolute : Double := absoluteTolerance) : Bool :=
  if x == y then true
  else if x.isInf || y.isInf then false
  else
    let gap := (y - x).abs
    gap ≤ (relative * y).abs || gap ≤ (relative * x).abs || gap ≤ absolute

/-- Whether a double is zero up to the absolute amount. -/
def isNearZero (x : Double) : Bool := x.abs ≤ absoluteTolerance

end Double

namespace Number

/-- Equal up to the tolerances, which must not be negative. -/
def isClose (a b : Number) (relative : Number := .real Double.relativeTolerance)
    (absolute : Number := .real Double.absoluteTolerance) : Except Fault Bool := do
  let x ← a.toDouble
  let y ← b.toDouble
  let r ← relative.toDouble
  let t ← absolute.toDouble
  if r < 0 || t < 0 then .error .negativeTolerance else return Double.isClose x y r t

/-- Whether a number is zero up to an amount. -/
def isNearZero (a : Number) (tolerance : Number := .real Double.absoluteTolerance) : Bool :=
  a.abs.atMost tolerance

/-- Whether the number is finite as a double. -/
def isFiniteDouble (a : Number) : Except Fault Bool := do
  return (← a.toDouble).isFinite

end Number

end NumericKernel

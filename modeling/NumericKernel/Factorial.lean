import NumericKernel.Arithmetic.Division
import NumericKernel.Arithmetic.Power

/-!
# Factorials and the gamma function

The factorial of an integer is an exact product.  For a Real argument it is the
gamma function one further on, which is computed by a closed formula at half
integers, by reflection to the left of one half, and by the Lanczos series
elsewhere.
-/

namespace NumericKernel

/-- The product of the first `n` positive integers. -/
def factorial : Nat → Nat
  | 0 => 1
  | n + 1 => (n + 1) * factorial n

/-- The factorial of an integer, which a negative one does not have. -/
def integerFactorial (n : Int) : Except Fault Int :=
  if n < 0 then .error (.negativeFactorial n) else .ok (factorial n.toNat)

namespace Gamma

/-! ## Half integers -/

/-- The ratio of a circle to its diameter, rounded to a double. -/
def pi : Double := 3.141592653589793

/-- `Γ(n + 1/2) = (2n)! / (4ⁿ n!) · √π`, the quotient rounded once. -/
def aboveHalf (n : Nat) : Except Fault Double := do
  let quotient ← (Number.int (factorial (2 * n))).ratio (.int (Nat.pow 4 n * factorial n))
  return quotient * pi.sqrt

/-- `Γ(1/2 - n) = (-4)ⁿ n! / (2n)! · √π`, the quotient rounded once. -/
def belowHalf (n : Nat) : Except Fault Double := do
  let quotient ← (Number.int (Int.pow (-4) n * factorial n)).ratio (.int (factorial (2 * n)))
  return quotient * pi.sqrt

/-- The distance from one half, if it is a whole number. -/
def halfOffset? (x : Number) : Except Fault (Option Int) := do
  let shifted ← x.sub (.real 0.5)
  let rest ← shifted.mod (.int 1)
  if rest.isZero then return some (← shifted.trunc) else return none

/-! ## The Lanczos series -/

/-- The shift of the series, for which its coefficients are chosen. -/
def lanczosShift : Double := 7

/-- The constant term of the series. -/
def lanczosBase : Double := 0.99999999999980993

/-- The coefficients of the series behind its constant term. -/
def lanczosCoefficients : List Double := [
  676.5203681218851, -1259.1392167224028, 771.32342877765313, -176.61502916214059,
  12.507343278686905, -0.13857109526572012, 9.9843695780195716e-6, 1.5056327351493116e-7]

/-- The partial fractions of the series, added from left to right. -/
def lanczosSum (x : Number) : Except Fault Double := do
  let terms ← lanczosCoefficients.zipIdx.mapM fun (coefficient, index) => do
    (Number.real coefficient).ratio (← x.add (.int index))
  return lanczosBase + terms.foldl (· + ·) 0

/-- The gamma function by the series. -/
def lanczos (x : Number) : Except Fault Double := do
  let sum ← lanczosSum x
  let shifted ← (← x.add (.real lanczosShift)).sub (.real 0.5)
  let growth ← (← shifted.power (← x.sub (.real 0.5))).toDouble
  let decay := (-(← shifted.toDouble)).exp
  return (2 * pi).sqrt * growth * decay * sum

/-! ## The function -/

/-- The gamma function of an argument that is at least one half. -/
def right (x : Number) : Except Fault Double := do
  match ← halfOffset? x with
  | some n => aboveHalf n.toNat
  | none => lanczos x

/-- The reflection `Γ(x) = π / (sin(πx) Γ(1 - x))`. -/
def reflected (x : Number) : Except Fault Double := do
  let sine := (pi * (← x.toDouble)).sin
  let reflection ← right (← (Number.int 1).sub x)
  (Number.real pi).ratio (.real (sine * reflection))

/-- The gamma function, which has poles at zero and at the negative integers. -/
def gamma (x : Number) : Except Fault Double := do
  if x.atMost (.int 0) && x.isIntegral then
    .error (.gammaPole x)
  else
    match ← halfOffset? x with
    | some n => if 0 ≤ n then aboveHalf n.toNat else belowHalf (-n).toNat
    | none => if x.less (.real 0.5) then reflected x else lanczos x

end Gamma

/-- The factorial, extended to Reals by the gamma function. -/
def Number.factorial : Number → Except Fault Number
  | .int n => do return .int (← integerFactorial n)
  | .real x => do return .real (← Gamma.gamma (← (Number.real x).add (.int 1)))

end NumericKernel

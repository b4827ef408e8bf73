import NumericKernel.Double.Exact

/-!
# The nearest double

One rounding rule serves integers, quotients of integers and decimal texts: the
value is a ratio of naturals, and the double chosen is the nearest one, a tie
going to the even pattern.
-/

namespace NumericKernel.Double

/-- A quotient rounded to the nearest natural, a tie going to the even one. -/
def roundQuotient (num den : Nat) : Nat :=
  let quotient := num / den
  let twice := 2 * (num % den)
  if den < twice ∨ (twice = den ∧ quotient % 2 = 1) then quotient + 1 else quotient

/-- The magnitude bits nearest to a count of units given as a ratio.  A count of
more than 53 bits is rounded to a multiple of a power of two, and a carry runs
from the fraction into the exponent by itself. -/
def nearestBits (num den : Nat) : Nat :=
  let shift := (num / den).log2 - fractionBits
  shift * exponentWeight + roundQuotient num (den <<< shift)

/-- The double nearest to `± num / den`, infinite when the value is too large. -/
def ofRatio (negative : Bool) (num den : Nat) : Double :=
  ofSignBits negative (min (nearestBits (num * unitsPerOne) den) infinityBits)

/-- The double nearest to `± num / den`, if one of finite value is. -/
def ofRatio? (negative : Bool) (num den : Nat) : Option Double :=
  let bits := nearestBits (num * unitsPerOne) den
  if bits < infinityBits then some (ofSignBits negative bits) else none

/-- The double nearest to an integer, unless the integer is too large. -/
def ofInt? (n : Int) : Option Double :=
  ofRatio? (n < 0) n.natAbs 1

end NumericKernel.Double

/-!
# Exact values of doubles

A Real operand is an IEEE 754 double.  Every finite double is a whole number of
units of `2 ^ -1074`, the least positive double, so its value is one integer.
Comparison, integer parts and decimal texts are all read off that integer.
-/

namespace NumericKernel

/-- A Real operand: an IEEE 754 double. -/
abbrev Double := Float

namespace Double

/-! ## The fields of the bit pattern -/

/-- The bits of the fraction, the lowest field of the pattern. -/
def fractionBits : Nat := 52

/-- The unit is `2 ^ -unitBits`. -/
def unitBits : Nat := 1074

/-- How many units make one. -/
def unitsPerOne : Nat := 1 <<< unitBits

/-- The weight of the sign bit in a bit pattern. -/
def signWeight : Nat := 1 <<< 63

/-- The weight of the least exponent bit in a bit pattern. -/
def exponentWeight : Nat := 1 <<< fractionBits

/-- The bit pattern without its sign. -/
def magnitudeBits (x : Double) : Nat := x.toBits.toNat % signWeight

/-- The pattern of the positive infinity; the patterns above it are not numbers. -/
def infinityBits : Nat := 2047 * exponentWeight

/-- The sign bit, which a zero has too. -/
def signBit (x : Double) : Bool := signWeight ≤ x.toBits.toNat

/-- The double with this sign and this pattern below the sign. -/
def ofSignBits (negative : Bool) (bits : Nat) : Double :=
  Float.ofBits (UInt64.ofNat (if negative then bits + signWeight else bits))

/-- The positive infinity. -/
def infinity : Double := ofSignBits false infinityBits

/-- Units in the finite double with these magnitude bits: the subnormal ones
count units directly, the normal ones have an implicit leading bit. -/
def unitsOfBits (bits : Nat) : Nat :=
  let exponent := bits / exponentWeight
  let fraction := bits % exponentWeight
  if exponent = 0 then fraction else (exponentWeight + fraction) <<< (exponent - 1)

/-! ## Exact values -/

/-- The value of a double that is a number. -/
inductive Exact where
  | negInf
  | finite (units : Int)
  | posInf
  deriving DecidableEq, Repr

/-- The exact value, or `none` for a pattern that is not a number. -/
def value? (x : Double) : Option Exact :=
  let bits := x.magnitudeBits
  if bits < infinityBits then
    let units : Int := unitsOfBits bits
    some (.finite (if x.signBit then -units else units))
  else if bits = infinityBits then
    some (if x.signBit then .negInf else .posInf)
  else
    none

namespace Exact

/-- The exact value of an integer. -/
def ofInt (n : Int) : Exact := .finite (n * unitsPerOne)

/-- The order of the extended real line. -/
def compare : Exact → Exact → Ordering
  | .negInf, .negInf => .eq
  | .negInf, _ => .lt
  | .finite _, .negInf => .gt
  | .finite m, .finite n => Ord.compare m n
  | .finite _, .posInf => .lt
  | .posInf, .posInf => .eq
  | .posInf, _ => .gt

end Exact

/-- The units of a finite double. -/
def units? (x : Double) : Option Int :=
  match x.value? with
  | some (.finite units) => some units
  | _ => none

/-! ## Integer parts -/

/-- The greatest integer not above a number of units. -/
def floorUnits (units : Int) : Int := units / unitsPerOne

/-- The least integer not below a number of units. -/
def ceilUnits (units : Int) : Int := -(-units / unitsPerOne)

/-- A number of units cut toward zero. -/
def truncUnits (units : Int) : Int := units.tdiv unitsPerOne

/-- Finite and without a fractional part. -/
def isIntegral (x : Double) : Bool :=
  match x.units? with
  | some units => units % unitsPerOne == 0
  | none => false

end Double

end NumericKernel

import NumericKernel.Number.Operations

/-!
# Bases

A base is an integer of magnitude two or more.  A negative base is usable too: it
writes every integer, whatever its sign, with digits that are not negative.
-/

namespace NumericKernel.Numeral

/-- An integer that digits can be taken to. -/
structure Base where
  val : Int
  two_le : 2 ≤ val.natAbs

namespace Base

/-- A number as a base. -/
def ofNumber (n : Number) : Except Fault Base := do
  match n.requireInteger with
  | .error _ => .error (.baseNotIntegral n)
  | .ok b => if h : 2 ≤ b.natAbs then return ⟨b, h⟩ else .error (.baseTooSmall b)

/-- The base that a number is, when numerals are written with this many symbols. -/
def ofNumberWithin (symbols : Nat) (n : Number) : Except Fault Base := do
  let base ← ofNumber n
  if base.val < 0 then .error (.baseNegative base.val)
  else if symbols < base.val then .error (.baseTooLarge symbols base.val)
  else return base

end Base

end NumericKernel.Numeral

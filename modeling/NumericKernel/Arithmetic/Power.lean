import NumericKernel.Number.Operations

/-!
# Powers

A power of integers with a non-negative exponent is exact; a negative exponent
gives the reciprocal; a Real operand makes the whole power Real.
-/

namespace NumericKernel.Number

/-- An integer power.  The bases whose powers stay small are told apart first, so
that an exponent of any size is allowed for them. -/
def integerPower (base : Int) (exponent : Nat) : Int :=
  if exponent = 0 then 1
  else if base = 0 then 0
  else if base = 1 then 1
  else if base = -1 then (if exponent % 2 = 0 then 1 else -1)
  else Int.pow base exponent

/-- Telling those bases apart changes no power. -/
theorem integerPower_eq (base : Int) (exponent : Nat) :
    integerPower base exponent = Int.pow base exponent := by
  unfold integerPower
  by_cases zeroExponent : exponent = 0
  · rw [if_pos zeroExponent, zeroExponent]
    exact (Int.pow_zero base).symm
  rw [if_neg zeroExponent]
  by_cases zeroBase : base = 0
  · rw [if_pos zeroBase, zeroBase]
    exact (Int.zero_pow zeroExponent).symm
  rw [if_neg zeroBase]
  by_cases one : base = 1
  · rw [if_pos one, one]
    exact Int.one_pow.symm
  rw [if_neg one]
  by_cases minusOne : base = -1
  · have magnitude : Nat.pow 1 exponent = 1 := Nat.one_pow exponent
    have split : Int.pow (-1) exponent =
        if exponent % 2 = 0 then Int.ofNat (Nat.pow 1 exponent)
        else -Int.ofNat (Nat.pow 1 exponent) := rfl
    rw [if_pos minusOne, minusOne, split, magnitude]
    rfl
  · rw [if_neg minusOne]

/-- A power as the doubles give it; a result that is not finite has left the
Reals or their range. -/
def realPower (base exponent : Number) : Except Fault Double :=
  match base.toDouble, exponent.toDouble with
  | .ok x, .ok y =>
    let result := x.pow y
    if result.isNaN then .error (.powerNotReal base exponent)
    else if result.isInf then .error (.powerTooLarge base exponent)
    else .ok result
  | _, _ => .error (.powerTooLarge base exponent)

/-- A power with an exponent that is not negative. -/
def naturalPower (base exponent : Number) : Except Fault Number :=
  match base, exponent with
  | .int m, .int n => .ok (.int (integerPower m n.toNat))
  | _, _ => if exponent.isZero then .ok (.real 1) else do return .real (← realPower base exponent)

/-- A power of finite numbers, in which zero has no negative exponent. -/
def power (base exponent : Number) : Except Fault Number := do
  base.requireFinite
  exponent.requireFinite
  if exponent.isNegative then
    if base.isZero then
      .error (.zeroToNegativePower base exponent)
    else
      return .real (← (Number.int 1).ratio (← naturalPower base exponent.neg))
  else
    naturalPower base exponent

end NumericKernel.Number

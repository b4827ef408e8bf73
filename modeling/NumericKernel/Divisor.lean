/-!
# Divisors and coprime numbers
-/

namespace NumericKernel

namespace Divisor

/-- The divisors of `n` from `d` up to `n / d`: each divisor up to the square root
stands before the ones found later, and its cofactor after them. -/
def between (n d : Nat) : List Nat :=
  if h : d * d ≤ n ∧ 0 < d then
    if n % d = 0 then
      if d * d = n then [d] else d :: (between n (d + 1) ++ [n / d])
    else between n (d + 1)
  else []
termination_by n + 1 - d
decreasing_by all_goals
  have : d ≤ d * d := Nat.le_mul_of_pos_left d h.2
  omega

end Divisor

/-- The divisors of an integer without regard to its sign, in ascending order. -/
def divisors (n : Int) : List Nat := Divisor.between n.natAbs 1

/-- How many of the numbers `1, …, n` have no divisor in common with `n`. -/
def totient (n : Int) : Nat :=
  (List.range n.toNat).countP fun k => Nat.gcd n.toNat (k + 1) == 1

end NumericKernel

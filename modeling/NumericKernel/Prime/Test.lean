/-!
# The primality test

Trial division: multiples of the four least primes are told apart first, then the
two classes prime to six are tried up to the square root.
-/

namespace NumericKernel.Prime

/-- The primes whose multiples are told apart first. -/
def small : List Nat := [2, 3, 5, 7]

/-- Whether no `c`, `c + 2`, `c + 6`, `c + 8`, … up to the square root divides `n`. -/
def passesWheel (n c : Nat) : Bool :=
  if h : c * c ≤ n ∧ 0 < c then
    if n % c = 0 ∨ n % (c + 2) = 0 then false else passesWheel n (c + 6)
  else true
termination_by n + 1 - c
decreasing_by
  have : c ≤ c * c := Nat.le_mul_of_pos_left c h.2
  omega

/-- Whether a natural number is prime. -/
def test (n : Nat) : Bool :=
  if n ∈ small then true
  else if n < 2 ∨ ∃ p ∈ small, n % p = 0 then false
  else passesWheel n 5

/-- Whether an integer is prime; none below two is. -/
def isPrime (n : Int) : Bool := test n.toNat

end NumericKernel.Prime

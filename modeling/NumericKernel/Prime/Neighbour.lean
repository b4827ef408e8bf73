import NumericKernel.Prime.Unbounded

/-!
# Neighbouring primes

The next prime above a number, the last one below it and the nearest one.  The
search in steps of two, which a run through the primes uses, agrees with the
plain one on odd numbers.
-/

namespace NumericKernel

namespace Prime

/-! ## Upward -/

/-- The least prime above a natural. -/
def nextNat (n : Nat) : Nat := Search.firstFrom test unbounded_test (n + 1)

/-- The least prime above an integer.  Below two it is given without a search. -/
def next (n : Int) : Int := if n < 2 then 2 else nextNat n.toNat

/-- The prime after a prime: from an odd number on only odd ones are tried.  An even
number above two is no prime, and a search in steps of two has no end from there; the
value is the next prime for such a number too, only to make the function total. -/
def successorNat (p : Nat) : Nat :=
  if p < 2 then 2
  else if p = 2 then 3
  else if p % 2 = 0 then nextNat p
  else 2 * Search.firstFrom (fun k => test (2 * k + 1)) unbounded_odd_test (p / 2 + 1) + 1

/-- The prime after a prime, and the first one after a number below two. -/
def successor (p : Int) : Int := successorNat p.toNat

theorem lt_nextNat (n : Nat) : n < nextNat n :=
  ((Search.firstFrom_eq_iff unbounded_test _ _).1 rfl).1

/-- The next prime in steps of two is above the number. -/
theorem lt_successorNat (p : Nat) : p < successorNat p := by
  unfold successorNat
  split
  · assumption
  split
  · omega
  split
  · exact lt_nextNat p
  · have := ((Search.firstFrom_eq_iff unbounded_odd_test (p / 2 + 1) _).1 rfl).1
    omega

/-- Each of the searches stops at a number that passes the test. -/
theorem test_successorNat (p : Nat) : test (successorNat p) = true := by
  unfold successorNat
  by_cases low : p < 2
  · rw [if_pos low]
    rfl
  rw [if_neg low]
  by_cases two : p = 2
  · rw [if_pos two]
    rfl
  rw [if_neg two]
  by_cases even : p % 2 = 0
  · rw [if_pos even]
    exact ((Search.firstFrom_eq_iff unbounded_test (p + 1) _).1 rfl).2.1
  · rw [if_neg even]
    exact ((Search.firstFrom_eq_iff unbounded_odd_test (p / 2 + 1) _).1 rfl).2.1

/-- A prime is at least two. -/
theorem two_le_of_test {n : Nat} (passed : test n = true) : 2 ≤ n := by
  unfold test at passed
  by_cases member : n ∈ small
  · simp only [small, List.mem_cons, List.not_mem_nil, or_false] at member
    omega
  · rw [if_neg member] at passed
    by_cases low : n < 2
    · simp [low] at passed
    · omega

theorem two_le_successorNat (p : Nat) : 2 ≤ successorNat p :=
  two_le_of_test (test_successorNat p)

/-- Beyond two an even number fails the test. -/
theorem odd_of_test {n : Nat} (passed : test n = true) (large : 2 < n) : n % 2 = 1 := by
  unfold test at passed
  by_cases member : n ∈ small
  · simp only [small, List.mem_cons, List.not_mem_nil, or_false] at member
    omega
  · rw [if_neg member] at passed
    by_cases even : n % 2 = 0
    · simp [small, even] at passed
    · omega

/-- The search passes over no number that passes the test. -/
theorem successorNat_le_of_test {p n : Nat} (above : p < n) (passed : test n = true) :
    successorNat p ≤ n := by
  unfold successorNat
  by_cases low : p < 2
  · rw [if_pos low]
    exact two_le_of_test passed
  rw [if_neg low]
  by_cases two : p = 2
  · rw [if_pos two]
    omega
  rw [if_neg two]
  apply Nat.le_of_not_lt
  by_cases even : p % 2 = 0
  · rw [if_pos even]
    intro before
    have failed := ((Search.firstFrom_eq_iff unbounded_test (p + 1) _).1 rfl).2.2 n above before
    exact Bool.false_ne_true (failed.symm.trans passed)
  · rw [if_neg even]
    intro before
    have odd := odd_of_test passed (by omega)
    have failed := ((Search.firstFrom_eq_iff unbounded_odd_test (p / 2 + 1) _).1 rfl).2.2
      (n / 2) (by omega) (by omega)
    rw [show 2 * (n / 2) + 1 = n by omega, passed] at failed
    exact Bool.false_ne_true failed.symm

/-! ## Downward -/

/-- The greatest prime below an integer.  Up to two there is none, and none is searched
for. -/
def prev? (n : Int) : Option Int :=
  if n ≤ 2 then none else (Search.lastBelow? test n.toNat).map Int.ofNat

/-! ## In both directions -/

/-- Whether one of the two integers at this distance is prime. -/
def primeAround (center : Int) (distance : Nat) : Bool :=
  isPrime (center + distance) || isPrime (center - distance)

theorem unbounded_primeAround (center : Int) : Search.Unbounded (primeAround center) := by
  intro n
  obtain ⟨p, gt, passed⟩ := unbounded_test (n + center.natAbs)
  refine ⟨(p - center).toNat, by omega, ?_⟩
  have above : (center + (p - center).toNat).toNat = p := by omega
  simp only [primeAround, isPrime, above, passed, Bool.true_or]

/-- The distance of the nearest prime from an integer. -/
def distance (center : Int) : Nat :=
  Search.firstFrom (primeAround center) (unbounded_primeAround center) 0

end Prime

namespace Number

/-- The least prime above a number. -/
def nextPrime (x : Number) : Except Fault Int := do
  return Prime.next (← x.floor)

/-- The greatest prime below a number, which two and all below it do not have. -/
def prevPrime (x : Number) : Except Fault Int := do
  match Prime.prev? (← x.ceil) with
  | some p => return p
  | none => .error (.noPrimeBelow x)

/-- The nearest integer, a half going away from zero. -/
def roundAway : Number → Except Fault Int
  | .int n => .ok n
  | .real x => do
    let magnitude ← (Number.real (x.abs + 0.5)).floor
    return if (Number.real x).isNegative then -magnitude else magnitude

/-- Whether a number is nearer to one integer than to another one. -/
def nearerTo (x : Number) (this other : Int) : Except Fault Bool := do
  return (← x.sub (.int this)).abs.less (← x.sub (.int other)).abs

/-- The prime nearest to a number, seen from the nearest integer.  Of two primes
at the same distance the larger one is taken, unless the number itself lies
nearer to the smaller one. -/
def nearestPrime (x : Number) : Except Fault Int := do
  let center ← x.roundAway
  let distance := Prime.distance center
  let upper := center + distance
  let lower := center - distance
  if Prime.isPrime upper then
    if distance ≠ 0 && Prime.isPrime lower && (← x.nearerTo lower upper) then return lower
    else return upper
  else
    return lower

end Number

end NumericKernel

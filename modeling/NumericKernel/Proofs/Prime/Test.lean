import Mathlib.Data.Nat.Prime.Basic
import NumericKernel.Operation

/-!
# The primality test decides primality

Trial division over the two classes prime to six misses no divisor: the least divisor
of a composite number is at most its square root, and unless it is two or three it
lies in one of the classes.

* `passesWheel_eq_true_iff`: what the loop has tried when it ends;
* `test_eq_true_iff`: the test is passed by the primes and by no other number;
* `isPrime_int_iff`: the test of an integer of any sign.
-/

namespace NumericKernel.Prime

theorem indivisible_iff_prime (n : Nat) : Indivisible n ↔ n.Prime :=
  Nat.prime_def_lt'.symm

/-- The loop tries `c` and `c + 2`, then goes on six further, up to the square root. -/
theorem passesWheel_eq_true_iff {n c : Nat} (positive : 0 < c) :
    passesWheel n c = true ↔
      ∀ k, (c + 6 * k) * (c + 6 * k) ≤ n → n % (c + 6 * k) ≠ 0 ∧ n % (c + 6 * k + 2) ≠ 0 := by
  fun_induction passesWheel n c with
  | case1 c bound divides =>
    constructor
    · intro failed
      exact absurd failed Bool.false_ne_true
    · intro tried
      obtain ⟨first, second⟩ := tried 0 bound.1
      rcases divides with zero | zero
      · exact absurd zero first
      · exact absurd zero second
  | case2 c bound passed ih =>
    obtain ⟨first, second⟩ := not_or.1 passed
    rw [ih (by omega)]
    constructor
    · intro tried k below
      cases k with
      | zero => exact ⟨first, second⟩
      | succ k =>
        have shift : c + 6 * (k + 1) = c + 6 + 6 * k := by omega
        rw [shift] at below ⊢
        exact tried k below
    · intro tried k below
      have shift : c + 6 + 6 * k = c + 6 * (k + 1) := by omega
      rw [shift] at below ⊢
      exact tried (k + 1) below
  | case3 c large =>
    constructor
    · intro _ k below
      have grown : c * c ≤ (c + 6 * k) * (c + 6 * k) :=
        Nat.mul_le_mul (Nat.le_add_right c _) (Nat.le_add_right c _)
      exact absurd ⟨grown.trans below, positive⟩ large
    · intro _
      rfl

theorem prime_of_mem_small {p : Nat} (member : p ∈ small) : p.Prime := by
  simp only [small, List.mem_cons, List.not_mem_nil, or_false] at member
  rcases member with rfl | rfl | rfl | rfl <;> decide

/-- A prime that is not small lies in a class that the loop tries. -/
theorem exists_wheel_of_prime {p : Nat} (prime : p.Prime) (large : p ∉ small) :
    ∃ k, p = 5 + 6 * k ∨ p = 5 + 6 * k + 2 := by
  simp only [small, List.mem_cons, List.not_mem_nil, or_false, not_or] at large
  obtain ⟨two, three, five, seven⟩ := large
  have odd : ¬ 2 ∣ p := fun divides =>
    two ((Nat.prime_dvd_prime_iff_eq Nat.prime_two prime).1 divides).symm
  have notTriple : ¬ 3 ∣ p := fun divides =>
    three ((Nat.prime_dvd_prime_iff_eq Nat.prime_three prime).1 divides).symm
  have low := prime.two_le
  have coprime : p % 6 = 1 ∨ p % 6 = 5 := by omega
  refine ⟨(p - 5) / 6, ?_⟩
  rcases coprime with rest | rest
  · right
    omega
  · left
    omega

/-- A number that passes has no prime divisor up to its square root. -/
theorem not_dvd_of_test {n p : Nat} (passed : test n = true) (large : n ∉ small)
    (prime : p.Prime) (below : p * p ≤ n) : ¬ p ∣ n := by
  intro divides
  have zero := Nat.mod_eq_zero_of_dvd divides
  unfold test at passed
  rw [if_neg large] at passed
  by_cases early : n < 2 ∨ ∃ q ∈ small, n % q = 0
  · rw [if_pos early] at passed
    exact absurd passed Bool.false_ne_true
  · rw [if_neg early] at passed
    obtain ⟨_, notSmall⟩ := not_or.1 early
    have tried := (passesWheel_eq_true_iff (by decide)).1 passed
    obtain ⟨k, rfl | rfl⟩ := exists_wheel_of_prime prime fun member =>
      notSmall ⟨p, member, zero⟩
    · exact (tried k below).1 zero
    · have lower : (5 + 6 * k) * (5 + 6 * k) ≤ (5 + 6 * k + 2) * (5 + 6 * k + 2) :=
        Nat.mul_le_mul (Nat.le_add_right _ 2) (Nat.le_add_right _ 2)
      exact (tried k (lower.trans below)).2 zero

/-- The test is passed by the primes only. -/
theorem test_eq_true_iff (n : Nat) : test n = true ↔ n.Prime := by
  constructor
  · intro passed
    by_cases member : n ∈ small
    · exact prime_of_mem_small member
    · have two := two_le_of_test passed
      by_contra composite
      exact not_dvd_of_test passed member (Nat.minFac_prime (by omega))
        (by simpa [sq] using Nat.minFac_sq_le_self (by omega) composite) (Nat.minFac_dvd n)
  · intro prime
    exact ((indivisible_iff_prime n).2 prime).test

/-! ## Integers -/

theorem isPrime_eq_true_iff (n : Int) : isPrime n = true ↔ ∃ p : Nat, p.Prime ∧ (p : Int) = n := by
  rw [isPrime, test_eq_true_iff]
  constructor
  · intro prime
    have positive := prime.pos
    exact ⟨n.toNat, prime, by omega⟩
  · rintro ⟨p, prime, rfl⟩
    exact prime

/-- Divisors between one and the number are natural, so it is enough to try these. -/
theorem prime_toNat_iff (n : Int) :
    n.toNat.Prime ↔ 2 ≤ n ∧ ∀ d : Int, 1 < d → d < n → ¬ d ∣ n := by
  rw [← indivisible_iff_prime]
  constructor
  · rintro ⟨two, proper⟩
    lift n to Nat using by omega
    refine ⟨by omega, fun d above below divides => ?_⟩
    lift d to Nat using by omega
    exact proper d (by omega) (by omega) (Int.natCast_dvd_natCast.1 divides)
  · rintro ⟨two, proper⟩
    lift n to Nat using by omega
    refine ⟨by omega, fun d above below divides => ?_⟩
    exact proper d (by omega) (by omega) (Int.natCast_dvd_natCast.2 divides)

/-- The test of an integer always answers, with true for the integers from two on that no
integer strictly between one and them divides, and with false for all others. -/
theorem isPrime_int_iff (n : Int) :
    ∃ answer, Operation.isPrime (.number (.int n)) = .ok answer ∧
      (answer = true ↔ 2 ≤ n ∧ ∀ d : Int, 1 < d → d < n → ¬ d ∣ n) := by
  have decided : Operation.isPrime (.number (.int n)) = .ok (isPrime n) := rfl
  refine ⟨isPrime n, decided, ?_⟩
  rw [← prime_toNat_iff]
  exact test_eq_true_iff n.toNat

end NumericKernel.Prime

import NumericKernel.Arithmetic.Power
import NumericKernel.Dictionary
import NumericKernel.Prime.Neighbour

/-!
# Factorisation

The prime factors of a number in ascending order, and the vector of the exponents
of all primes, which ends with the exponent of the largest prime factor.  The
exponents are read off a tally of the factors on a walk through the primes, which
meets every factor because the factors are primes.
-/

namespace NumericKernel.Prime

/-! ## Factors -/

/-- The prime factors of `n` in ascending order, when none is less than `p`. -/
def factorsFrom (n p : Nat) (h : 2 ≤ p) : List Nat :=
  if n < 2 then []
  else if n < p * p then [n]
  else if n % p = 0 then p :: factorsFrom (n / p) p h
  else factorsFrom n (successorNat p) (two_le_successorNat p)
termination_by (n, n - p)
decreasing_by
  · have : n / p < n := Nat.div_lt_self (by omega) (by omega)
    exact Prod.Lex.left _ _ this
  · have up := lt_successorNat p
    have : 2 * p ≤ p * p := Nat.mul_le_mul_right p h
    exact Prod.Lex.right _ (by omega)

/-- The prime factors in ascending order, each as often as it divides; numbers
below two have none. -/
def factors (n : Int) : List Nat := factorsFrom n.toNat 2 (Nat.le_refl 2)

/-- No number from two on and less than `p` divides `n`. -/
def Sifted (n p : Nat) : Prop := ∀ d, 1 < d → d < p → ¬ d ∣ n

theorem sifted_two (n : Nat) : Sifted n 2 := fun d above below => absurd below (by omega)

theorem Sifted.of_dvd {m n p : Nat} (sifted : Sifted n p) (divides : m ∣ n) : Sifted m p :=
  fun d above below inner => sifted d above below (Nat.dvd_trans inner divides)

/-- Of two factors one is at most the square root. -/
theorem Sifted.indivisible {n p : Nat} (sifted : Sifted n p) (two : 2 ≤ n) (low : n < p * p) :
    Indivisible n := by
  refine ⟨two, fun d above below divides => ?_⟩
  obtain ⟨e, rfl⟩ := divides
  have other : 1 < e := by
    apply Nat.lt_of_not_le
    intro small
    have := Nat.mul_le_mul_left d small
    omega
  by_cases first : d < p
  · exact sifted d above first (Nat.dvd_mul_right d e)
  · by_cases second : e < p
    · exact sifted e other second (Nat.dvd_mul_left e d)
    · have := Nat.mul_le_mul (Nat.le_of_not_lt first) (Nat.le_of_not_lt second)
      omega

theorem Sifted.test {n p : Nat} (sifted : Sifted n p) (two : 2 ≤ p) (divides : p ∣ n) :
    Prime.test p = true :=
  Indivisible.test ⟨two, fun d above below inner =>
    sifted d above below (Nat.dvd_trans inner divides)⟩

/-- A divisor that the walk would pass over has a prime divisor, which it meets. -/
theorem Sifted.successorNat {n p : Nat} (sifted : Sifted n p) (rest : n % p ≠ 0) :
    Sifted n (Prime.successorNat p) := by
  intro d above below divides
  obtain ⟨q, prime, inner⟩ := exists_indivisible_dvd d above
  have two := prime.1
  have le : q ≤ d := Nat.le_of_dvd (by omega) inner
  have divisor : q ∣ n := Nat.dvd_trans inner divides
  rcases Nat.lt_trichotomy q p with before | rfl | after
  · exact sifted q two before divisor
  · exact rest (Nat.mod_eq_zero_of_dvd divisor)
  · have := successorNat_le_of_test after prime.test
    omega

/-- The factors of a sifted number are primes. -/
theorem test_of_mem_factorsFrom {n p : Nat} (h : 2 ≤ p) (sifted : Sifted n p) {q : Nat}
    (member : q ∈ factorsFrom n p h) : test q = true := by
  fun_induction factorsFrom n p h with
  | case1 n p h low => exact absurd member List.not_mem_nil
  | case2 n p h high low =>
    obtain rfl : q = n := List.mem_singleton.1 member
    exact (sifted.indivisible (by omega) low).test
  | case3 n p h high root zero ih =>
    have divides := Nat.dvd_of_mod_eq_zero zero
    rcases List.mem_cons.1 member with rfl | later
    · exact sifted.test h divides
    · exact ih (sifted.of_dvd (Nat.div_dvd_of_dvd divides)) later
  | case4 n p h high root rest ih => exact ih (sifted.successorNat rest) member

theorem test_of_mem_factors {n : Int} {q : Nat} (member : q ∈ factors n) : test q = true :=
  test_of_mem_factorsFrom (Nat.le_refl 2) (sifted_two n.toNat) member

/-! ## Exponents -/

/-- All keys of a tally are primes from `p` on. -/
def Ahead (remaining : Dictionary Nat Nat) (p : Nat) : Prop :=
  ∀ q ∈ remaining.keys, p ≤ q ∧ test q = true

/-- Without a prime, the primes that are left lie ahead of the next one. -/
theorem Ahead.erase {remaining : Dictionary Nat Nat} {p : Nat} (ahead : Ahead remaining p) :
    Ahead (remaining.erase p) (successorNat p) := by
  intro q member
  rw [Dictionary.keys_erase, List.mem_filter, decide_eq_true_iff] at member
  obtain ⟨le, prime⟩ := ahead q member.1
  exact ⟨successorNat_le_of_test (Nat.lt_of_le_of_ne le (Ne.symm member.2)) prime, prime⟩

/-- The greatest of a list is within a bound exactly if all of the list are. -/
theorem foldr_max_le_iff (l : List Nat) (bound : Nat) :
    l.foldr max 0 ≤ bound ↔ ∀ q ∈ l, q ≤ bound := by
  induction l with
  | nil => simp
  | cons q rest ih => rw [List.foldr_cons, Nat.max_le, ih, List.forall_mem_cons]

/-- The exponents of the primes from `p` on, until the tally is used up. -/
def drain (remaining : Dictionary Nat Nat) (p : Nat) (ahead : Ahead remaining p) : List Nat :=
  if remaining.size = 0 then []
  else
    (remaining.get? p).getD 0 :: drain (remaining.erase p) (successorNat p) ahead.erase
termination_by remaining.keys.foldr max 0 + 1 - p
decreasing_by
  rename_i used
  have shrunk : (remaining.erase p).keys.foldr max 0 ≤ remaining.keys.foldr max 0 := by
    rw [foldr_max_le_iff, Dictionary.keys_erase]
    exact fun q member => (foldr_max_le_iff _ _).1 (Nat.le_refl _) q (List.mem_filter.1 member).1
  have reached : p ≤ remaining.keys.foldr max 0 := by
    have some : 0 < remaining.keys.length := by
      rw [Dictionary.length_keys]
      omega
    obtain ⟨q, member⟩ := List.exists_mem_of_length_pos some
    exact Nat.le_trans (ahead q member).1 ((foldr_max_le_iff _ _).1 (Nat.le_refl _) q member)
  have := lt_successorNat p
  omega

theorem ahead_tally (n : Int) : Ahead (.tally (factors n)) 2 := by
  intro q member
  rw [Dictionary.mem_keys_tally] at member
  have prime := test_of_mem_factors member
  exact ⟨two_le_of_test prime, prime⟩

/-- The exponents of the primes in ascending order, up to the last one that is
not zero. -/
def exponents (n : Int) : List Nat := drain (.tally (factors n)) 2 (ahead_tally n)

/-- The product of the powers of the primes from `p` on, carried on from a first
factor. -/
def productFrom (p : Nat) (first : Number) : List Value → Except Fault Number
  | [] => .ok first
  | v :: rest => do
    let exponent ← v.requireOperand
    let factor ← (Number.int p).power exponent
    productFrom (successorNat p) (← first.mul factor) rest

/-- The number with the given exponents of the primes. -/
def ofExponents (exponents : List Value) : Except Fault Number := productFrom 2 (.int 1) exponents

end NumericKernel.Prime

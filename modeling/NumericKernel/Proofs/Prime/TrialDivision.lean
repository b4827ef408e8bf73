import Mathlib.Data.List.Sort
import NumericKernel.Proofs.Prime.Cache
import NumericKernel.Proofs.Prime.Factorisation

/-!
# Trial division by the primes of a cache

The factors of a number as a loop over the indices of the primes finds them, which asks a
cache for one prime after the other.  What the cache has been asked before makes no
difference, since it holds the first primes without a gap.  So no divisor is passed over,
and what is left below the square of a prime is a factor itself.

* `TrialDivision`: the loop, with the cache before and after it;
* `Filled.trialDivision_iff`: it ends with the factors that a walk from prime to prime finds;
* `eq_factors_iff`: the only ascending list of primes with this product;
* `primeFactors_int`: the call, for an integer of any sign.
-/

namespace NumericKernel.Prime

open Cache (Filled)

/-! ## The loop -/

/-- The division of a number by the primes from an index on ends with these factors and
leaves this cache.  Each round asks the cache for one prime; a divisor is tried again. -/
inductive TrialDivision : Cache → Nat → Nat → List Nat → Cache → Prop
  | done {c : Cache} {n i : Nat} (low : n < 2) : TrialDivision c n i [] c
  /-- Below the square of the prime that is tried the number is a factor itself. -/
  | last {c grown : Cache} {n i p : Nat} (asked : nth c i = ((p : Int), grown)) (high : ¬ n < 2)
    (root : n < p * p) : TrialDivision c n i [n] grown
  | factor {c grown after : Cache} {n i p : Nat} {ps : List Nat}
    (asked : nth c i = ((p : Int), grown)) (high : ¬ n < 2) (root : ¬ n < p * p)
    (divides : n % p = 0) (rest : TrialDivision grown (n / p) i ps after) :
    TrialDivision c n i (p :: ps) after
  | next {c grown after : Cache} {n i p : Nat} {ps : List Nat}
    (asked : nth c i = ((p : Int), grown)) (high : ¬ n < 2) (root : ¬ n < p * p)
    (rest : n % p ≠ 0) (later : TrialDivision grown n (i + 1) ps after) :
    TrialDivision c n i ps after

namespace Cache

variable {c after : Cache} {n i p : Nat} {ps : List Nat}

/-- The loop over a filled cache finds the factors that the walk finds. -/
theorem Filled.exists_trialDivision (filled : Filled c) (h : 2 ≤ p)
    (start : p = Nat.nth Nat.Prime i) : ∃ after, TrialDivision c n i (factorsFrom n p h) after := by
  fun_induction factorsFrom n p h generalizing c i with
  | case1 n p h low => exact ⟨c, .done low⟩
  | case2 n p h high low =>
    exact ⟨c.grow i, .last (start ▸ filled.nth_eq i) high low⟩
  | case3 n p h high root zero ih =>
    obtain ⟨after, rest⟩ := ih (filled.grow i) start
    exact ⟨after, .factor (start ▸ filled.nth_eq i) high root zero rest⟩
  | case4 n p h high root rest ih =>
    obtain ⟨after, later⟩ := ih (filled.grow i) (start ▸ successorNat_nth i)
    exact ⟨after, .next (start ▸ filled.nth_eq i) high root rest later⟩

/-- The loop over a filled cache finds no other factors. -/
theorem Filled.eq_factorsFrom (filled : Filled c) (division : TrialDivision c n i ps after)
    (h : 2 ≤ p) (start : p = Nat.nth Nat.Prime i) : ps = factorsFrom n p h := by
  induction division generalizing p with
  | done low => rw [factorsFrom, if_pos low]
  | last asked high root =>
    obtain ⟨rfl, _⟩ := filled.eq_of_nth asked
    subst start
    rw [factorsFrom, if_neg high, if_pos root]
  | factor asked high root divides rest ih =>
    obtain ⟨rfl, grown⟩ := filled.eq_of_nth asked
    subst start
    rw [factorsFrom, if_neg high, if_neg root, if_pos divides, ih grown h rfl]
  | next asked high root rest later ih =>
    obtain ⟨rfl, grown⟩ := filled.eq_of_nth asked
    subst start
    rw [factorsFrom, if_neg high, if_neg root, if_neg rest]
    -- the prime of the next index is the one that the walk goes on to
    exact ih grown (two_le_successorNat _) (successorNat_nth _)

/-- With any filled cache the loop ends, and it ends with the factors. -/
theorem Filled.trialDivision_iff (filled : Filled c) (n : Int) (ps : List Nat) :
    (∃ after, TrialDivision c n.toNat 0 ps after) ↔ ps = factors n := by
  constructor
  · rintro ⟨after, division⟩
    exact filled.eq_factorsFrom division (Nat.le_refl 2) Nat.nth_prime_zero_eq_two.symm
  · rintro rfl
    exact filled.exists_trialDivision (Nat.le_refl 2) Nat.nth_prime_zero_eq_two.symm

end Cache

/-! ## The factors -/

theorem factors_of_lt_two {n : Int} (low : n < 2) : factors n = [] := by
  rw [factors, factorsFrom, if_pos (by omega)]

/-- From two on the factors are the only ascending list of primes with this product. -/
theorem eq_factors_iff {n : Int} (two : 2 ≤ n) (ps : List Nat) :
    ps = factors n ↔ ps.Pairwise (· ≤ ·) ∧ (∀ p ∈ ps, p.Prime) ∧ (ps.prod : Int) = n := by
  lift n to Nat using by omega
  rw [factors_eq, Int.toNat_natCast, Int.natCast_inj]
  constructor
  · rintro rfl
    exact ⟨(Nat.primeFactorsList_sorted n).pairwise,
      fun p member => Nat.prime_of_mem_primeFactorsList member,
      Nat.prod_primeFactorsList (by omega)⟩
  · rintro ⟨ascending, primes, product⟩
    exact (Nat.primeFactorsList_unique product primes).eq_of_sortedLE ascending.sortedLE
      (Nat.primeFactorsList_sorted n)

/-- The factors of an integer are found, and the loop over the indices ends with them,
whatever the cache of the primes has been asked before.  From two on they are the only
ascending list of primes with this product; the integers below two have none. -/
theorem primeFactors_int (n : Int) :
    ∃ ps, Operation.primeFactors (.number (.int n)) = .ok ps ∧
      (∀ requests, ∀ c ∈ Cache.initial.history requests, ∀ qs,
        (∃ after, TrialDivision c n.toNat 0 qs after) ↔ qs = ps) ∧
      (2 ≤ n → ∀ qs : List Nat,
        qs = ps ↔ qs.Pairwise (· ≤ ·) ∧ (∀ q ∈ qs, q.Prime) ∧ (qs.prod : Int) = n) ∧
      (n < 2 → ps = []) := by
  refine ⟨factors n, rfl, fun requests c reached qs => ?_, eq_factors_iff, factors_of_lt_two⟩
  exact Cache.Filled.trialDivision_iff (Cache.filled_of_mem_history reached) n qs

/-- The square of a prime, with a cofactor that is prime itself. -/
theorem primeFactors_int_1573 :
    Operation.primeFactors (.number (.int 1573)) = .ok [11, 11, 13] := by
  obtain ⟨ps, found, _, unique, _⟩ := primeFactors_int 1573
  rw [found, (unique (by decide) [11, 11, 13]).2 ⟨by decide, by decide, by decide⟩]

end NumericKernel.Prime

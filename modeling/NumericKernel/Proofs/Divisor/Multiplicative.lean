import Mathlib.Data.Nat.Totient
import Mathlib.NumberTheory.ArithmeticFunction.Misc
import NumericKernel.Proofs.Arithmetic.CommonDivisor
import NumericKernel.Proofs.Divisor.Listing
import NumericKernel.Proofs.Prime.Factorisation
import NumericKernel.Proofs.Prime.Index

/-!
# Counts over the exponents

How many numbers are prime to a positive integer, and how many divide it, are counted
without its prime factors: by one common divisor after the other, and by the scan for the
divisors.  Both counts are multiplicative, so they are products over the exponents.

* `prod_factorization`: a product over the prime factors as one over the places of a vector;
* `totient_natCast`, `length_divisors`: what the two counts are;
* `totient_divisors_eq_prod`: the calls.
-/

namespace NumericKernel

namespace Prime

/-! ## Products over the exponents -/

section Places

variable {n : Nat} {es : List Nat}
  (places : ∀ i, es.getD i 0 = n.factorization (Nat.nth Nat.Prime i))

include places

theorem factorization_place (i : Fin es.length) :
    n.factorization (Nat.nth Nat.Prime i) = es[i] := by
  rw [← places, List.getD_eq_getElem es 0 i.isLt]
  rfl

/-- The vector is long enough for every prime factor. -/
theorem count_lt_length {p : Nat} (prime : p.Prime) (divides : n.factorization p ≠ 0) :
    Nat.count Nat.Prime p < es.length := by
  have place := places (Nat.count Nat.Prime p)
  rw [Nat.nth_count prime] at place
  by_contra beyond
  rw [List.getD_eq_default es 0 (by omega)] at place
  exact divides place.symm

/-- The primes of the places with a positive exponent are the prime factors. -/
theorem support_eq_image :
    n.factorization.support =
      Finset.image (fun i : Fin es.length => Nat.nth Nat.Prime i) {i | 0 < es[i]} := by
  ext p
  rw [Finsupp.mem_support_iff, Finset.mem_image]
  constructor
  · intro divides
    have prime := Nat.prime_of_mem_primeFactors (Finsupp.mem_support_iff.2 divides)
    have factor := Nat.nth_count prime
    refine ⟨⟨_, count_lt_length places prime divides⟩, ?_, factor⟩
    rw [Finset.mem_filter, ← factorization_place places, factor]
    exact ⟨Finset.mem_univ _, Nat.pos_of_ne_zero divides⟩
  · rintro ⟨i, member, rfl⟩
    rw [Finset.mem_filter, ← factorization_place places] at member
    exact Nat.ne_of_gt member.2

/-- A product over the prime factors, as one over the places with a positive exponent. -/
theorem prod_factorization (g : Nat → Nat → Nat) :
    n.factorization.prod g =
      ∏ i : Fin es.length with 0 < es[i], g (Nat.nth Nat.Prime i) es[i] := by
  have apart : Function.Injective fun i : Fin es.length => Nat.nth Nat.Prime i :=
    (Nat.nth_injective Nat.infinite_setOfPred_prime).comp Fin.val_injective
  rw [Finsupp.prod, support_eq_image places, Finset.prod_image apart.injOn]
  exact Finset.prod_congr rfl fun i _ => congrArg (g _) (factorization_place places i)

end Places

/-- A product over the prime factors as one over the exponents. -/
theorem prod_exponents (n : Nat) (g : Nat → Nat → Nat) :
    n.factorization.prod g = ∏ i : Fin (exponents n).length with 0 < (exponents n)[i],
      g (Nat.nth Nat.Prime i) (exponents n)[i] :=
  prod_factorization (fun i => by rw [getD_exponents, Int.toNat_natCast]) g

end Prime

/-! ## The two counts -/

theorem totient_eq_countP (n : Nat) :
    totient n = (List.range' 1 n).countP fun k => Nat.gcd n k == 1 := by
  rw [totient, Int.toNat_natCast, List.range'_eq_map_range, List.countP_map]
  refine List.countP_congr fun k _ => ?_
  rw [Function.comp_apply, Nat.add_comm]

/-- The numbers up to `n` are a full period of those that are prime to `n`. -/
theorem totient_natCast (n : Nat) : totient n = Nat.totient n := by
  have once := (List.nodup_range' (s := 1) (n := n)).filter fun k => Nat.gcd n k == 1
  have same : ((List.range' 1 n).filter fun k => Nat.gcd n k == 1).toFinset =
      {k ∈ Finset.Ico 1 (1 + n) | n.Coprime k} := by
    ext k
    rw [List.mem_toFinset, List.mem_filter, List.mem_range'_1, Finset.mem_filter, Finset.mem_Ico,
      beq_iff_eq, Nat.coprime_iff_gcd_eq_one]
  rw [totient_eq_countP, List.countP_eq_length_filter, ← List.toFinset_card_of_nodup once, same,
    Nat.filter_coprime_Ico_eq_totient]

/-- The list of the divisors is as long as there are divisors. -/
theorem length_divisors {n : Nat} (nonzero : n ≠ 0) : (divisors n).length = n.divisors.card := by
  have once : (divisors n).Nodup := (Divisor.pairwise_between Nat.one_pos).imp Nat.ne_of_lt
  have same : (divisors n).toFinset = n.divisors := by
    ext d
    rw [List.mem_toFinset, mem_divisors_iff (Int.natCast_ne_zero.2 nonzero), Nat.mem_divisors,
      Int.natCast_dvd_natCast]
    constructor
    · exact fun member => ⟨member.2, nonzero⟩
    · exact fun member => ⟨Nat.pos_of_dvd_of_pos member.1 (Nat.pos_of_ne_zero nonzero), member.1⟩
  rw [← same, List.toFinset_card_of_nodup once]

/-! ## The calls -/

/-- The count asks for one common divisor after the other. -/
theorem totient_eq_countP_gcd (n : Nat) :
    totient n = (List.range' 1 n).countP fun k : Nat =>
      (Operation.gcd (.number (.int n)) (.number (.int k))).toOption = some (.int 1) := by
  rw [totient_eq_countP]
  refine List.countP_congr fun k _ => ?_
  have common : Operation.gcd (.number (.int n)) (.number (.int k)) = .ok (.int (n.gcd k : Nat)) :=
    Number.gcd_natCast n k
  rw [common]
  simp [Except.toOption]

/-- Of a positive integer with these exponents, the number of the integers up to it that
have no common divisor with it is a product over the primes with a positive exponent, and
the number of its divisors a product over all places.  The primes are those that a cache
gives for the places, whatever it has been asked before. -/
theorem totient_divisors_eq_prod {n : Int} (positive : 1 ≤ n) :
    ∃ (es : List Nat) (p : Nat → Nat) (t : Nat) (ds : List Nat),
      Operation.primeExponents (.number (.int n)) = .ok es ∧
      (∀ requests, ∀ c ∈ Prime.Cache.initial.history requests, ∀ i : Nat,
        Prime.primeAt c i = .ok (p i : Int)) ∧
      Operation.totient (.number (.int n)) = .ok t ∧
      t = (List.range' 1 n.toNat).countP (fun k : Nat =>
        (Operation.gcd (.number (.int n)) (.number (.int k))).toOption = some (.int 1)) ∧
      t = ∏ i : Fin es.length with 0 < es[i], p i ^ (es[i] - 1) * (p i - 1) ∧
      Operation.divisors (.number (.int n)) = .ok ds ∧
      ds.length = ∏ i : Fin es.length, (es[i] + 1) := by
  lift n to Nat using by omega
  have nonzero : n ≠ 0 := by omega
  refine ⟨Prime.exponents n, Nat.nth Nat.Prime, totient n, divisors n, rfl, ?_, rfl,
    totient_eq_countP_gcd n, ?_, rfl, ?_⟩
  · intro requests c reached i
    exact Prime.Cache.Filled.primeAt_natCast (Prime.Cache.filled_of_mem_history reached) i
  · rw [totient_natCast, Nat.totient_eq_prod_factorization nonzero, Prime.prod_exponents]
  · rw [length_divisors nonzero, Nat.card_divisors nonzero]
    refine (Prime.prod_exponents n fun _ e => e + 1).trans (Finset.prod_filter_of_ne ?_)
    -- a place without the prime contributes one divisor
    intro i _ more
    omega

/-- Of the numbers up to 360 as many are prime to it as the product over 2, 3 and 5 gives. -/
theorem totient_divisors_eq_prod_360 : ∃ (es : List Nat) (p : Nat → Nat),
    Operation.primeExponents (.number (.int 360)) = .ok es ∧
    (∀ i : Nat, Prime.primeAt Prime.Cache.initial i = .ok (p i : Int)) ∧
    96 = ∏ i : Fin es.length with 0 < es[i], p i ^ (es[i] - 1) * (p i - 1) := by
  have counted : totient 360 = 96 := by decide +kernel
  obtain ⟨es, p, t, ds, exponents, primes, found, -, product, -⟩ :=
    totient_divisors_eq_prod (n := 360) (by decide)
  obtain rfl : totient 360 = t := Except.ok.inj found
  exact ⟨es, p, exponents, primes [] _ List.mem_cons_self, counted ▸ product⟩

end NumericKernel

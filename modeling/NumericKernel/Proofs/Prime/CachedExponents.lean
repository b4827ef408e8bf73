import NumericKernel.Proofs.Prime.TrialDivision

/-!
# Exponents over the primes of a cache

The vector of exponents and the product of powers as loops over the indices of the primes,
which ask a cache for one prime after the other.  The tally that the first loop empties is
that of the factors which trial division has found with the same cache before.  Both loops
give what a walk from prime to prime gives, whatever the cache has been asked before.

* `Drained`, `productOver`: the two loops, with the cache that each leaves;
* `Filled.drained_iff`: a tally is read off as by the walk, and the loop ends;
* `exponents_over_cache`: both calls are the loops over any cache of the primes.
-/

namespace NumericKernel.Prime

open Cache (Filled)

/-! ## The loops -/

/-- The loop that reads a tally off at the primes from an index on ends with these values
and leaves this cache.  Each round asks the cache for one prime and takes its key out. -/
inductive Drained : Cache → Dictionary Nat Nat → Nat → List Nat → Cache → Prop
  | done {c : Cache} {remaining : Dictionary Nat Nat} {i : Nat} (used : remaining.size = 0) :
    Drained c remaining i [] c
  | next {c grown after : Cache} {remaining : Dictionary Nat Nat} {i p : Nat} {es : List Nat}
    (more : remaining.size ≠ 0) (asked : nth c i = ((p : Int), grown))
    (rest : Drained grown (remaining.erase p) (i + 1) es after) :
    Drained c remaining i ((remaining.get? p).getD 0 :: es) after

/-- The product of the powers of the primes from an index on, carried on from a first
factor, and the cache that is left. -/
def productOver (c : Cache) (i : Nat) (first : Number) : List Value → Except Fault (Number × Cache)
  | [] => .ok (first, c)
  | v :: rest => do
    let exponent ← v.requireOperand
    let (p, grown) := nth c i
    let factor ← (Number.int p).power exponent
    productOver grown (i + 1) (← first.mul factor) rest

namespace Cache

variable {c grown after : Cache} {remaining : Dictionary Nat Nat} {n i p : Nat} {es ps : List Nat}

/-! ## The exponents -/

/-- The loop over a filled cache reads off what the walk does. -/
theorem Filled.exists_drained (filled : Filled c) (ahead : Ahead remaining p)
    (start : p = Nat.nth Nat.Prime i) :
    ∃ after, Drained c remaining i (drain remaining p ahead) after := by
  fun_induction drain remaining p ahead generalizing c i with
  | case1 remaining p ahead used => exact ⟨c, .done used⟩
  | case2 remaining p ahead more ih =>
    obtain ⟨after, rest⟩ := ih (filled.grow i) (start ▸ successorNat_nth i)
    exact ⟨after, .next more (start ▸ filled.nth_eq i) rest⟩

/-- The loop over a filled cache reads off nothing else. -/
theorem Filled.eq_drain (filled : Filled c) (drained : Drained c remaining i es after)
    (ahead : Ahead remaining p) (start : p = Nat.nth Nat.Prime i) : es = drain remaining p ahead := by
  induction drained generalizing p with
  | done used => rw [drain, if_pos used]
  | next more asked rest ih =>
    obtain ⟨rfl, grown⟩ := filled.eq_of_nth asked
    subst start
    rw [drain, if_neg more, ih grown ahead.erase (successorNat_nth _)]

/-- The keys of a tally of primes are all met, so the loop ends. -/
theorem Filled.drained_iff (filled : Filled c) (ahead : Ahead remaining 2) (es : List Nat) :
    (∃ after, Drained c remaining 0 es after) ↔ es = drain remaining 2 ahead := by
  constructor
  · rintro ⟨after, drained⟩
    exact filled.eq_drain drained ahead Nat.nth_prime_zero_eq_two.symm
  · rintro rfl
    exact filled.exists_drained ahead Nat.nth_prime_zero_eq_two.symm

/-- The division that comes first leaves the cache filled. -/
theorem Filled.of_trialDivision (filled : Filled c) (division : TrialDivision c n i ps after) :
    Filled after := by
  induction division with
  | done low => exact filled
  | last asked => exact (filled.eq_of_nth asked).2
  | factor asked high root divides rest ih => exact ih (filled.eq_of_nth asked).2
  | next asked high root rest later ih => exact ih (filled.eq_of_nth asked).2

/-- The exponents by both loops, each of which asks the cache that is left. -/
theorem Filled.exponents_iff (filled : Filled c) (n : Int) (es : List Nat) :
    (∃ ps grown after, TrialDivision c n.toNat 0 ps grown ∧ Drained grown (.tally ps) 0 es after) ↔
      es = exponents n := by
  constructor
  · rintro ⟨ps, grown, after, division, drained⟩
    obtain rfl := (filled.trialDivision_iff n ps).1 ⟨grown, division⟩
    exact ((filled.of_trialDivision division).drained_iff (ahead_tally n) es).1 ⟨after, drained⟩
  · intro same
    obtain ⟨grown, division⟩ := (filled.trialDivision_iff n _).2 rfl
    obtain ⟨after, drained⟩ :=
      ((filled.of_trialDivision division).drained_iff (ahead_tally n) es).2 same
    exact ⟨_, grown, after, division, drained⟩

/-! ## The product -/

/-- The product over a filled cache is that of the walk. -/
theorem Filled.productOver_eq (filled : Filled c) (i : Nat) (first : Number) (vs : List Value) :
    (productOver c i first vs).map Prod.fst = productFrom (Nat.nth Nat.Prime i) first vs := by
  induction vs generalizing c i first with
  | nil => rfl
  | cons v rest ih =>
    rw [productOver, productFrom, filled.nth_eq]
    cases v.requireOperand with
    | error fault => rfl
    | ok exponent =>
      simp only [ok_bind]
      cases (Number.int (Nat.nth Nat.Prime i)).power exponent with
      | error fault => rfl
      | ok factor =>
        simp only [ok_bind]
        cases first.mul factor with
        | error fault => rfl
        | ok product =>
          rw [ok_bind, ok_bind, ih (filled.grow i), successorNat_nth]

end Cache

/-! ## The calls -/

/-- Whatever the cache of the primes has been asked before, the loops over it end: those for
the exponents of an integer with what the call gives, and the one for the product of powers
with what the other call gives, a failure included. -/
theorem exponents_over_cache : ∀ requests, ∀ c ∈ Cache.initial.history requests,
    (∀ (n : Int) (es : List Nat),
      (∃ ps grown after, TrialDivision c n.toNat 0 ps grown ∧
        Drained grown (.tally ps) 0 es after) ↔
          Operation.primeExponents (.number (.int n)) = .ok es) ∧
    ∀ vs : List Value,
      (productOver c 0 (.int 1) vs).map Prod.fst = Operation.ofPrimeExponents vs := by
  intro requests c reached
  have filled := Cache.filled_of_mem_history reached
  refine ⟨fun n es => ?_, fun vs => ?_⟩
  · have call : Operation.primeExponents (.number (.int n)) = .ok (exponents n) := rfl
    rw [Cache.Filled.exponents_iff filled, call, Except.ok.injEq, eq_comm]
  · rw [Cache.Filled.productOver_eq filled, Nat.nth_prime_zero_eq_two]
    rfl

end NumericKernel.Prime

import NumericKernel.Proofs.Prime.Cache

/-!
# The index of a prime

The index of the last prime that is not above an integer is one less than the number of
the primes up to it.  This ties the index to the prime of an index as a count and an
enumeration are tied: an index is less than the count exactly when its prime is not above
the integer.

* `nth_prime_le_iff`: the two sides of the connection;
* `indexOf_eq`: the index as a count;
* `Filled.indexScan_iff`: the loop over the indices, which asks a cache for every prime;
* `primeIndex_nthPrime`: the calls in both orders.
-/

namespace NumericKernel.Prime

open Cache (Filled)

/-! ## The index as a count -/

/-- The prime of an index is within a bound exactly if the index is below the count. -/
theorem nth_prime_le_iff (i : Nat) (v : Int) :
    (Nat.nth Nat.Prime i : Int) ≤ v ↔ i < Nat.primeCounting v.toNat := by
  have positive := (Nat.prime_nth_prime i).pos
  have counted : i < Nat.primeCounting v.toNat ↔ Nat.nth Nat.Prime i < v.toNat + 1 :=
    Nat.lt_nth_iff_count_lt Nat.infinite_setOfPred_prime
  rw [counted]
  omega

theorem primeCounting_nth (i : Nat) : Nat.primeCounting (Nat.nth Nat.Prime i) = i + 1 :=
  Nat.count_nth_succ_of_infinite Nat.infinite_setOfPred_prime i

/-- The walk from a prime within the bound ends one below the count. -/
theorem indexFrom_eq {v : Int} {p i : Nat} (start : p = Nat.nth Nat.Prime i) (low : (p : Int) ≤ v) :
    indexFrom v p i + 1 = Nat.primeCounting v.toNat := by
  fun_induction indexFrom v p i with
  | case1 p i reached ih => exact ih (start ▸ successorNat_nth i) reached
  | case2 p i above =>
    rw [start, nth_prime_le_iff] at low
    rw [start, successorNat_nth, nth_prime_le_iff] at above
    omega

/-- The index is counted from zero, and there is none below the first prime. -/
theorem indexOf_eq (v : Int) : indexOf v = Nat.primeCounting v.toNat - 1 := by
  unfold indexOf
  by_cases low : v < 2
  · rw [if_pos low, Nat.primeCounting_eq_zero_iff.2 (by omega)]
    rfl
  · have counted := indexFrom_eq (v := v) Nat.nth_prime_zero_eq_two.symm (by omega)
    rw [if_neg low]
    omega

theorem indexOf_eq_neg_one_iff (v : Int) : indexOf v = -1 ↔ v < 2 := by
  have none := @Nat.primeCounting_eq_zero_iff v.toNat
  rw [indexOf_eq]
  omega

theorem exists_indexOf {v : Int} (two : 2 ≤ v) : ∃ i : Nat, indexOf v = i := by
  have present := (indexOf_eq_neg_one_iff v).not.2 (by omega)
  have counted := indexOf_eq v
  exact Int.eq_ofNat_of_zero_le (by omega)

theorem indexOf_nth (i : Nat) : indexOf (Nat.nth Nat.Prime i) = i := by
  rw [indexOf_eq, Int.toNat_natCast, primeCounting_nth]
  omega

theorem indexOf_mono {v w : Int} (le : v ≤ w) : indexOf v ≤ indexOf w := by
  have more := Nat.monotone_primeCounting (Int.toNat_le_toNat le)
  rw [indexOf_eq, indexOf_eq]
  omega

/-! ## The scan -/

/-- The scan from an index on for the last prime that is not above an integer ends at this
index and leaves this cache.  Each round asks the cache for the prime of the next index. -/
inductive IndexScan (v : Int) : Cache → Nat → Nat → Cache → Prop
  | stop {c grown : Cache} {i p : Nat} (asked : nth c (i + 1 : Nat) = ((p : Int), grown))
    (above : ¬ (p : Int) ≤ v) : IndexScan v c i i grown
  | next {c grown after : Cache} {i j p : Nat} (asked : nth c (i + 1 : Nat) = ((p : Int), grown))
    (reached : (p : Int) ≤ v) (rest : IndexScan v grown (i + 1) j after) : IndexScan v c i j after

namespace Cache

variable {c after : Cache} {v : Int} {i j p : Nat}

/-- The loop over a filled cache ends where the walk does. -/
theorem Filled.exists_indexScan (filled : Filled c) (start : p = Nat.nth Nat.Prime i) :
    ∃ after, IndexScan v c i (indexFrom v p i) after := by
  fun_induction indexFrom v p i generalizing c with
  | case1 p i reached ih =>
    have next : successorNat p = Nat.nth Nat.Prime (i + 1) := start ▸ successorNat_nth i
    obtain ⟨after, rest⟩ := ih (filled.grow (i + 1 : Nat)) next
    exact ⟨after, .next (filled.nth_eq (i + 1)) (next ▸ reached) rest⟩
  | case2 p i above =>
    have next : successorNat p = Nat.nth Nat.Prime (i + 1) := start ▸ successorNat_nth i
    exact ⟨_, .stop (filled.nth_eq (i + 1)) (next ▸ above)⟩

/-- The loop over a filled cache ends nowhere else. -/
theorem Filled.eq_indexFrom (filled : Filled c) (scan : IndexScan v c i j after)
    (start : p = Nat.nth Nat.Prime i) : j = indexFrom v p i := by
  induction scan generalizing p with
  | stop asked above =>
    obtain ⟨rfl, _⟩ := filled.eq_of_nth asked
    rw [indexFrom, start, successorNat_nth, if_neg above]
  | next asked reached rest ih =>
    obtain ⟨rfl, grown⟩ := filled.eq_of_nth asked
    rw [indexFrom, start, successorNat_nth, if_pos reached]
    exact ih grown rfl

/-- With any filled cache the scan ends, and it ends at the index. -/
theorem Filled.indexScan_iff (filled : Filled c) (two : 2 ≤ v) (j : Nat) :
    (∃ after, IndexScan v c 0 j after) ↔ (j : Int) = indexOf v := by
  have first := Nat.nth_prime_zero_eq_two.symm
  rw [indexOf, if_neg (by omega), Int.natCast_inj]
  constructor
  · rintro ⟨after, scan⟩
    exact filled.eq_indexFrom scan first
  · rintro rfl
    exact filled.exists_indexScan first

end Cache

/-! ## The calls -/

/-- The prime that a call gives for an index, without the cache that is left. -/
def primeAt (c : Cache) (index : Int) : Except Fault Int :=
  (Operation.nthPrime c (.number (.int index))).map Prod.fst

theorem Cache.Filled.primeAt_natCast {c : Cache} (filled : Filled c) (i : Nat) :
    primeAt c i = .ok (Nat.nth Nat.Prime i : Int) := filled.nthPrime rfl

theorem primeAt_of_neg (c : Cache) {index : Int} (negative : index < 0) :
    primeAt c index = .ok 0 := by
  have refused : nth c index = (0, c) := if_pos negative
  exact congrArg (fun answer => Except.ok answer.1) refused

/-- The call gives the index of the last prime that is not above. -/
theorem primeIndex_eq (v : Int) : Operation.primeIndex (.number (.int v)) = .ok (indexOf v) := by
  change (Number.int v).primeIndex = _
  unfold Number.primeIndex
  rw [Number.less_int]
  by_cases low : v < 2
  · rw [indexOf, if_pos low, decide_eq_true low]
    rfl
  · rw [decide_eq_false low]
    rfl

namespace Cache

variable {c : Cache}

/-- An integer from two on lies between the prime of its index and the one after it. -/
theorem Filled.primeAt_indexOf (filled : Filled c) {v : Int} (two : 2 ≤ v) :
    ∃ p q : Int, primeAt c (indexOf v) = .ok p ∧ primeAt c (indexOf v + 1) = .ok q ∧
      p ≤ v ∧ v < q := by
  obtain ⟨i, place⟩ := exists_indexOf two
  have counted := indexOf_eq v
  refine ⟨Nat.nth Nat.Prime i, Nat.nth Nat.Prime (i + 1), ?_, ?_, ?_, ?_⟩
  · rw [place, filled.primeAt_natCast]
  · rw [place, ← Int.natCast_succ, filled.primeAt_natCast]
  · rw [nth_prime_le_iff]
    omega
  · rw [← Int.not_le, nth_prime_le_iff]
    omega

/-- The prime of the index of an integer is the integer itself for a prime.  The integers
below two have the index `-1`, for which zero is given. -/
theorem Filled.primeAt_indexOf_eq_iff (filled : Filled c) (v : Int) :
    primeAt c (indexOf v) = .ok v ↔ v.toNat.Prime ∨ v = 0 := by
  rcases Int.lt_or_le v 2 with low | two
  · have composite : ¬ v.toNat.Prime := fun prime => by
      have large := prime.two_le
      omega
    rw [(indexOf_eq_neg_one_iff v).2 low, primeAt_of_neg c (by decide), Except.ok.injEq]
    simp [composite, eq_comm]
  · constructor
    · intro same
      obtain ⟨i, place⟩ := exists_indexOf two
      rw [place, filled.primeAt_natCast, Except.ok.injEq] at same
      rw [← same, Int.toNat_natCast]
      exact .inl (Nat.prime_nth_prime i)
    · rintro (prime | rfl)
      · have enumerated := Nat.nth_count prime
        have whole : v = Nat.nth Nat.Prime (Nat.count Nat.Prime v.toNat) := by omega
        rw [whole, indexOf_nth, filled.primeAt_natCast]
      · omega

end Cache

/-- Whatever the cache of the primes has been asked before, the call for the index of an
integer ends, with one less than the number of the primes up to it.  So the integer lies
between the primes of this index and the next one, the index of the prime of an index is
that index again, and the prime of the index is the integer itself for the primes and for
zero alone. -/
theorem primeIndex_nthPrime : ∀ requests, ∀ c ∈ Cache.initial.history requests,
    (∀ v : Int, ∃ i : Int, Operation.primeIndex (.number (.int v)) = .ok i ∧
      i + 1 = Nat.primeCounting v.toNat ∧ (i = -1 ↔ v < 2) ∧
      (2 ≤ v → (∀ j : Nat, (∃ after, IndexScan v c 0 j after) ↔ (j : Int) = i) ∧
        ∃ p q : Int, primeAt c i = .ok p ∧ primeAt c (i + 1) = .ok q ∧ p ≤ v ∧ v < q)) ∧
    (∀ i : Nat,
      (primeAt c i >>= fun p => Operation.primeIndex (.number (.int p))) = .ok (i : Int)) ∧
    (∀ v w i j : Int, v ≤ w → Operation.primeIndex (.number (.int v)) = .ok i →
      Operation.primeIndex (.number (.int w)) = .ok j → i ≤ j) ∧
    ∀ v : Int, (Operation.primeIndex (.number (.int v)) >>= primeAt c) = .ok v ↔
      v.toNat.Prime ∨ v = 0 := by
  intro requests c reached
  have filled := Cache.filled_of_mem_history reached
  refine ⟨fun v => ⟨indexOf v, primeIndex_eq v, ?_, indexOf_eq_neg_one_iff v, fun two => ?_⟩,
    fun i => ?_, fun v w i j le first second => ?_, fun v => ?_⟩
  · rw [indexOf_eq]
    omega
  · exact ⟨Cache.Filled.indexScan_iff filled two, Cache.Filled.primeAt_indexOf filled two⟩
  · rw [Cache.Filled.primeAt_natCast filled, ok_bind, primeIndex_eq, indexOf_nth]
  · rw [primeIndex_eq, Except.ok.injEq] at first second
    rw [← first, ← second]
    exact indexOf_mono le
  · rw [primeIndex_eq, ok_bind]
    exact Cache.Filled.primeAt_indexOf_eq_iff filled v

/-- An integer between two primes, asked for when the cache holds more than these. -/
theorem primeIndex_nthPrime_twelve :
    ∃ i : Int, Operation.primeIndex (.number (.int 12)) = .ok i ∧
      i + 1 = Nat.primeCounting 12 ∧
      ∃ p q : Int, primeAt (Cache.initial.serve (.get 7)).cache i = .ok p ∧
        primeAt (Cache.initial.serve (.get 7)).cache (i + 1) = .ok q ∧ p ≤ 12 ∧ 12 < q := by
  have reached : (Cache.initial.serve (.get 7)).cache ∈ Cache.initial.history [.get 7] :=
    List.mem_cons_of_mem _ List.mem_cons_self
  obtain ⟨calls, -⟩ := primeIndex_nthPrime [.get 7] _ reached
  obtain ⟨i, found, counted, -, between⟩ := calls 12
  exact ⟨i, found, counted, (between (by decide)).2⟩

/-- Zero is the prime of its own index, although it is no prime. -/
theorem primeIndex_nthPrime_zero :
    ¬ ∀ v : Int, (Operation.primeIndex (.number (.int v)) >>= primeAt Cache.initial) = .ok v ↔
      v.toNat.Prime := by
  intro only
  have zero : (Operation.primeIndex (.number (.int 0)) >>= primeAt Cache.initial) = .ok 0 := rfl
  exact absurd ((only 0).1 zero) (by decide)

end NumericKernel.Prime

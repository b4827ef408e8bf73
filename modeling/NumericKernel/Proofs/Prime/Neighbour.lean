import Mathlib.NumberTheory.PrimeCounting
import NumericKernel.Proofs.Arithmetic.Integer
import NumericKernel.Proofs.Prime.Test

/-!
# Neighbouring primes

Both searches for the next prime find the least one above a natural, so they agree
everywhere, and each leads from one prime to its successor in the sequence of primes.  The
search downward leads back.

* `successorNat_eq_nextNat`: steps of two pass over no prime;
* `nextNat_nth`: no prime is passed over from one index to the next;
* `next_eq_iff`, `prev?_eq_some_iff`: the least prime above and the greatest one below;
* `neighbouring_primes`: what the two calls answer for an integer of any sign.
-/

namespace NumericKernel.Prime

/-! ## Upward -/

theorem nextNat_eq_iff (n m : Nat) :
    nextNat n = m ↔ n < m ∧ m.Prime ∧ ∀ j, n < j → j < m → ¬ j.Prime := by
  unfold nextNat
  rw [Search.firstFrom_eq_iff, test_eq_true_iff]
  simp only [Nat.succ_le_iff, ← test_eq_true_iff, Bool.not_eq_true]

/-- Above two every prime is odd, so the candidates of the search are enough. -/
theorem successorNat_eq_nextNat (p : Nat) : successorNat p = nextNat p := by
  symm
  rw [nextNat_eq_iff]
  refine ⟨lt_successorNat p, (test_eq_true_iff _).1 (test_successorNat p),
    fun j above below prime => ?_⟩
  have reached := successorNat_le_of_test above ((test_eq_true_iff j).2 prime)
  omega

/-- Two is the least prime above every integer below two, so the guard of the search only
spares it. -/
theorem next_eq_nextNat (n : Int) : next n = nextNat n.toNat := by
  unfold next
  split_ifs with low
  · have two : nextNat n.toNat = 2 := by
      rw [nextNat_eq_iff]
      exact ⟨by omega, Nat.prime_two, fun j _ below prime => absurd prime.two_le (by omega)⟩
    rw [two, Nat.cast_ofNat]
  · rfl

theorem successor_eq_next : successor = next := by
  funext p
  rw [successor, successorNat_eq_nextNat, next_eq_nextNat]

/-- The search leads from the prime of an index to the prime of the next one. -/
theorem nextNat_nth (i : Nat) : nextNat (Nat.nth Nat.Prime i) = Nat.nth Nat.Prime (i + 1) := by
  rw [nextNat_eq_iff]
  refine ⟨?_, Nat.prime_nth_prime (i + 1), fun j above below prime => ?_⟩
  · exact (Nat.nth_lt_nth Nat.infinite_setOfPred_prime).2 (Nat.lt_succ_self i)
  · exact absurd (Nat.le_nth_of_lt_nth_succ below prime) (Nat.not_le.2 above)

/-- Steps of two lead from a prime to the next one in the sequence. -/
theorem successorNat_nth (i : Nat) :
    successorNat (Nat.nth Nat.Prime i) = Nat.nth Nat.Prime (i + 1) := by
  rw [successorNat_eq_nextNat, nextNat_nth]

/-! ## Upward and downward from an integer -/

/-- The search upward finds the least prime above an integer. -/
theorem next_eq_iff (n : Int) (p : Nat) :
    next n = p ↔ p.Prime ∧ n < p ∧ ∀ q : Nat, q.Prime → n < q → p ≤ q := by
  rw [next_eq_nextNat, Int.natCast_inj, nextNat_eq_iff]
  constructor
  · rintro ⟨above, prime, earlier⟩
    refine ⟨prime, by omega, fun q other beyond => ?_⟩
    by_contra before
    have positive := other.pos
    exact earlier q (by omega) (by omega) other
  · rintro ⟨prime, above, least⟩
    have positive := prime.pos
    refine ⟨by omega, prime, fun j beyond before other => ?_⟩
    have reached := least j other (by omega)
    omega

/-- Up to two the search finds nothing, so the guard only spares it. -/
theorem prev?_eq_map (n : Int) : prev? n = (Search.lastBelow? test n.toNat).map Int.ofNat := by
  unfold prev?
  split_ifs with low
  · symm
    rw [Option.map_eq_none_iff, Search.lastBelow?_eq_none_iff]
    intro j below
    rw [← Bool.not_eq_true, test_eq_true_iff]
    intro prime
    have two := prime.two_le
    omega
  · rfl

/-- The search downward finds the greatest prime below an integer. -/
theorem prev?_eq_some_iff (n : Int) (p : Nat) :
    prev? n = some (p : Int) ↔ p.Prime ∧ p < n ∧ ∀ q : Nat, q.Prime → q < n → q ≤ p := by
  rw [prev?_eq_map]
  have found : (Search.lastBelow? test n.toNat).map Int.ofNat = some (p : Int) ↔
      Search.lastBelow? test n.toNat = some p := by
    simp
  rw [found, Search.lastBelow?_eq_some_iff, test_eq_true_iff]
  constructor
  · rintro ⟨below, prime, later⟩
    refine ⟨prime, by omega, fun q other before => ?_⟩
    by_contra beyond
    have failed := later q (by omega) (by omega)
    exact Bool.false_ne_true (failed.symm.trans ((test_eq_true_iff q).2 other))
  · rintro ⟨prime, below, greatest⟩
    refine ⟨by omega, prime, fun j beyond before => ?_⟩
    rw [← Bool.not_eq_true, test_eq_true_iff]
    intro other
    have reached := greatest j other (by omega)
    omega

/-- Two is the least prime. -/
theorem prev?_eq_none_iff (n : Int) : prev? n = none ↔ n ≤ 2 := by
  constructor
  · intro missing
    rw [prev?_eq_map, Option.map_eq_none_iff, Search.lastBelow?_eq_none_iff] at missing
    by_contra large
    have two := missing 2 (by omega)
    exact Bool.false_ne_true (two.symm.trans rfl)
  · exact fun low => if_pos low

/-- Of two primes one comes next exactly when the other one comes before it. -/
theorem next_eq_iff_prev?_eq {p q : Nat} (first : p.Prime) (second : q.Prime) :
    next p = q ↔ prev? q = some (p : Int) := by
  rw [next_eq_iff, prev?_eq_some_iff]
  constructor
  · rintro ⟨_, above, least⟩
    refine ⟨first, above, fun s other before => ?_⟩
    by_contra beyond
    have reached := least s other (by omega)
    omega
  · rintro ⟨_, below, greatest⟩
    refine ⟨second, below, fun s other beyond => ?_⟩
    by_contra before
    have reached := greatest s other (by omega)
    omega

/-! ## The calls -/

theorem nextPrime_int (n : Int) : Operation.nextPrime (.number (.int n)) = .ok (next n) := rfl

theorem prevPrime_int (n : Int) :
    Operation.prevPrime (.number (.int n)) =
      match prev? n with
      | some p => .ok p
      | none => .error (.noPrimeBelow (.int n)) := rfl

/-- The call upward gives the least prime above. -/
theorem nextPrime_least (n : Int) :
    ∃ p : Nat, Operation.nextPrime (.number (.int n)) = .ok p ∧
      p.Prime ∧ n < p ∧ ∀ q : Nat, q.Prime → n < q → p ≤ q :=
  ⟨nextNat n.toNat, (nextPrime_int n).trans (congrArg Except.ok (next_eq_nextNat n)),
    (next_eq_iff n _).1 (next_eq_nextNat n)⟩

theorem prevPrime_refused {n : Int} (low : n ≤ 2) :
    Operation.prevPrime (.number (.int n)) = .error (.noPrimeBelow (.int n)) := by
  rw [prevPrime_int, (prev?_eq_none_iff n).2 low]

/-- The call downward gives the greatest prime below. -/
theorem prevPrime_greatest {n : Int} (large : 2 < n) :
    ∃ p : Nat, Operation.prevPrime (.number (.int n)) = .ok p ∧
      p.Prime ∧ p < n ∧ ∀ q : Nat, q.Prime → q < n → q ≤ p := by
  have present : prev? n ≠ none := fun missing => Int.not_lt.2 ((prev?_eq_none_iff n).1 missing) large
  obtain ⟨p, found⟩ := Option.ne_none_iff_exists'.1 present
  obtain ⟨p, _, rfl⟩ := Option.map_eq_some_iff.1 ((prev?_eq_map n).symm.trans found)
  refine ⟨p, ?_, (prev?_eq_some_iff n p).1 found⟩
  rw [prevPrime_int, found]
  rfl

/-- Between two primes the one call leads back from where the other one has led. -/
theorem prevPrime_eq_iff_nextPrime_eq {p q : Nat} (first : p.Prime) (second : q.Prime) :
    Operation.prevPrime (.number (.int q)) = .ok p ↔
      Operation.nextPrime (.number (.int p)) = .ok q := by
  rw [nextPrime_int, prevPrime_int, Except.ok.injEq, next_eq_iff_prev?_eq first second]
  cases prev? q <;> simp

/-- The call upward gives the least prime above an integer.  The call downward gives the
greatest one below, and refuses the integers up to two because there is none.  So one after
the other they lead from a prime back to it. -/
theorem neighbouring_primes :
    (∀ n : Int, ∃ p : Nat, Operation.nextPrime (.number (.int n)) = .ok p ∧
      p.Prime ∧ n < p ∧ ∀ q : Nat, q.Prime → n < q → p ≤ q) ∧
    (∀ n : Int, n ≤ 2 ↔ ∃ fault, Operation.prevPrime (.number (.int n)) = .error fault ∧
      fault.kind = .undefinedDomain) ∧
    (∀ n : Int, 2 < n → ∃ p : Nat, Operation.prevPrime (.number (.int n)) = .ok p ∧
      p.Prime ∧ p < n ∧ ∀ q : Nat, q.Prime → q < n → q ≤ p) ∧
    (∀ p : Nat, p.Prime →
      (Operation.nextPrime (.number (.int p)) >>= fun q => Operation.prevPrime (.number (.int q))) =
        .ok p) ∧
    ∀ p : Nat, p.Prime → 3 ≤ p →
      (Operation.prevPrime (.number (.int p)) >>= fun q => Operation.nextPrime (.number (.int q))) =
        .ok p := by
  refine ⟨nextPrime_least, fun n => ?_, fun n large => prevPrime_greatest large,
    fun p prime => ?_, fun p prime large => ?_⟩
  · constructor
    · exact fun low => ⟨_, prevPrime_refused low, rfl⟩
    · rintro ⟨fault, refused, _⟩
      by_contra large
      obtain ⟨p, found, _⟩ := prevPrime_greatest (Int.not_le.1 large)
      cases refused.symm.trans found
  · obtain ⟨q, above, other, _⟩ := nextPrime_least p
    rw [above, ok_bind]
    exact (prevPrime_eq_iff_nextPrime_eq prime other).2 above
  · obtain ⟨q, below, other, _⟩ := prevPrime_greatest (n := p) (by omega)
    rw [below, ok_bind]
    exact (prevPrime_eq_iff_nextPrime_eq other prime).1 below

/-- The ends of a gap between two primes. -/
theorem neighbouring_primes_89_97 :
    (Operation.nextPrime (.number (.int 89)) >>= fun q => Operation.prevPrime (.number (.int q))) =
      .ok 89 ∧
    (Operation.prevPrime (.number (.int 97)) >>= fun q => Operation.nextPrime (.number (.int q))) =
      .ok 97 ∧
    ∃ p : Nat, Operation.prevPrime (.number (.int 97)) = .ok p ∧
      p.Prime ∧ (p : Int) < 97 ∧ ∀ q : Nat, q.Prime → (q : Int) < 97 → q ≤ p := by
  obtain ⟨_, _, greatest, back, forth⟩ := neighbouring_primes
  exact ⟨back 89 (by decide), forth 97 (by decide) (by decide), greatest 97 (by decide)⟩

end NumericKernel.Prime

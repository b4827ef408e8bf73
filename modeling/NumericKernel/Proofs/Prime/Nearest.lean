import NumericKernel.Proofs.Prime.Neighbour

/-!
# The nearest prime

The scan goes outward from an integer in both directions at once and stops at the first
distance at which a prime lies on either side.  So no prime is nearer than the one it
returns.  If there is one on each side, both are as near, and the one above is returned.

* `distance_eq_iff`: the distance at which the scan stops;
* `nearestPrime_int`: the prime that the call returns for an integer of any sign.
-/

namespace NumericKernel.Prime

/-! ## The distance -/

/-- A distance is found exactly if a prime lies at it. -/
theorem primeAround_eq_true_iff (center : Int) (d : Nat) :
    primeAround center d = true ↔ ∃ p : Nat, p.Prime ∧ (center - p).natAbs = d := by
  rw [primeAround, Bool.or_eq_true, isPrime_eq_true_iff, isPrime_eq_true_iff]
  constructor
  · rintro (⟨p, prime, above⟩ | ⟨p, prime, below⟩)
    · exact ⟨p, prime, by omega⟩
    · exact ⟨p, prime, by omega⟩
  · rintro ⟨p, prime, away⟩
    rcases Int.le_total center p with above | below
    · exact .inl ⟨p, prime, by omega⟩
    · exact .inr ⟨p, prime, by omega⟩

/-- A prime lies at the distance at which the scan stops, and none lies nearer. -/
theorem distance_eq_iff (center : Int) (d : Nat) :
    distance center = d ↔
      (∃ p : Nat, p.Prime ∧ (center - p).natAbs = d) ∧
        ∀ q : Nat, q.Prime → d ≤ (center - q).natAbs := by
  unfold distance
  rw [Search.firstFrom_eq_iff, primeAround_eq_true_iff]
  constructor
  · rintro ⟨_, here, earlier⟩
    refine ⟨here, fun q prime => ?_⟩
    by_contra nearer
    have failed := earlier (center - q).natAbs (Nat.zero_le _) (by omega)
    have passed := (primeAround_eq_true_iff center _).2 ⟨q, prime, rfl⟩
    exact Bool.false_ne_true (failed.symm.trans passed)
  · rintro ⟨here, nearest⟩
    refine ⟨Nat.zero_le d, here, fun j _ below => ?_⟩
    rw [← Bool.not_eq_true, primeAround_eq_true_iff]
    rintro ⟨q, prime, rfl⟩
    have reached := nearest q prime
    omega

/-! ## The call -/

/-- Seen from an integer, neither of two others at one distance is nearer. -/
theorem nearerTo_opposite (n : Int) (d : Nat) :
    (Number.int n).nearerTo (n - d) (n + d) = .ok false := by
  have equal : ((n - (n - d)).natAbs : Int) = ((n - (n + d)).natAbs : Int) := by omega
  unfold Number.nearerTo
  rw [Number.sub_int, Number.sub_int, ok_bind, ok_bind]
  change Except.ok ((Number.int (n - (n - d)).natAbs).less (.int (n - (n + d)).natAbs)) = _
  rw [Number.less_int, equal, decide_eq_false (Int.lt_irrefl _)]

/-- The call gives the prime above at the distance of the scan, or else the one below. -/
theorem nearestPrime_eq (n : Int) :
    Operation.nearestPrime (.number (.int n)) =
      .ok (if isPrime (n + distance n) then n + distance n else n - distance n) := by
  change (Number.int n).nearestPrime = _
  unfold Number.nearestPrime
  have center : (Number.int n).roundAway = .ok n := rfl
  rw [center, ok_bind]
  dsimp only
  by_cases above : isPrime (n + distance n) = true
  · rw [if_pos above, if_pos above, nearerTo_opposite]
    cases decide (distance n ≠ 0) <;> cases isPrime (n - distance n) <;> rfl
  · rw [if_neg above, if_neg above]
    rfl

/-- No prime is nearer than one at the distance at which the scan stops. -/
theorem abs_sub_le_of_distance {n : Int} {p : Nat} (away : (n - p).natAbs = distance n) {q : Nat}
    (prime : q.Prime) : |n - p| ≤ |n - q| := by
  have far := ((distance_eq_iff n _).1 rfl).2 q prime
  rw [Int.abs_eq_natAbs, Int.abs_eq_natAbs]
  omega

/-- The call returns a prime to which no other one is nearer, and of two that are as near
the larger one. -/
theorem nearestPrime_int (n : Int) :
    ∃ p : Nat, Operation.nearestPrime (.number (.int n)) = .ok p ∧ p.Prime ∧
      ∀ q : Nat, q.Prime → |n - p| ≤ |n - q| ∧ (|n - p| = |n - q| → q ≤ p) := by
  rw [nearestPrime_eq]
  by_cases above : isPrime (n + distance n) = true
  · obtain ⟨p, prime, here⟩ := (isPrime_eq_true_iff _).1 above
    refine ⟨p, by rw [if_pos above, here], prime, fun q other => ?_⟩
    refine ⟨abs_sub_le_of_distance (by omega) other, fun tie => ?_⟩
    rw [Int.abs_eq_natAbs, Int.abs_eq_natAbs] at tie
    omega
  · obtain ⟨p, prime, away⟩ := ((distance_eq_iff n _).1 rfl).1
    -- a prime at the distance that is not above the integer is below it
    have missed (q : Nat) (other : q.Prime) : (q : Int) ≠ n + distance n := fun same =>
      above ((isPrime_eq_true_iff _).2 ⟨q, other, same⟩)
    have apart := missed p prime
    have here : n - distance n = p := by omega
    refine ⟨p, by rw [if_neg above, here], prime, fun q other => ?_⟩
    refine ⟨abs_sub_le_of_distance away other, fun tie => ?_⟩
    have beyond := missed q other
    rw [Int.abs_eq_natAbs, Int.abs_eq_natAbs] at tie
    omega

/-- Fifteen lies in the middle between two primes. -/
theorem nearestPrime_int_fifteen : Operation.nearestPrime (.number (.int 15)) = .ok 17 := by
  obtain ⟨p, found, prime, nearest⟩ := nearestPrime_int 15
  obtain ⟨close, tie⟩ := nearest 17 (by decide)
  rw [Int.abs_eq_natAbs, Int.abs_eq_natAbs] at close tie
  have between : p = 14 ∨ p = 15 ∨ p = 16 ∨ p = 17 := by omega
  rcases between with rfl | rfl | rfl | rfl
  · exact absurd prime (by decide)
  · exact absurd prime (by decide)
  · exact absurd prime (by decide)
  · exact found

end NumericKernel.Prime

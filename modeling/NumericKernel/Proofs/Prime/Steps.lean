import Mathlib.Tactic.Linarith
import Mathlib.Tactic.Ring
import NumericKernel.Proofs.Prime.Neighbour

/-!
# Searches in steps

The searches for the next prime as loops, which try one candidate after the other and have no
bound.  Such a loop ends at the next prime whenever its step leads to all primes ahead: a
step of one does so from everywhere, and a step of two from the odd numbers, because every
prime above two is odd.  From an even number above two a step of two leads to no prime.

* `NextScan`, `SuccessorScan`: the two searches;
* `scan_iff_of_ahead`: where a loop ends whose step leads to all primes ahead;
* `nextScan_iff`, `successorScan_iff`: when each search ends, and where;
* `successor_steps`: both searches give the same prime.
-/

namespace NumericKernel.Prime

/-- The loop over candidates that are a step apart ends with this prime. -/
inductive Scan (step : Int) : Int → Int → Prop
  | found {c : Int} (prime : isPrime c = true) : Scan step c c
  | skip {c q : Int} (composite : isPrime c = false) (later : Scan step (c + step) q) :
    Scan step c q

/-- The search for the prime after a number, one by one. -/
inductive NextScan : Int → Int → Prop
  | low {n : Int} (low : n < 2) : NextScan n 2
  | scan {n q : Int} (high : ¬ n < 2) (scan : Scan 1 (n + 1) q) : NextScan n q

/-- The search for the prime after an odd prime, which tries odd numbers only. -/
inductive SuccessorScan : Int → Int → Prop
  | low {p : Int} (low : p < 2) : SuccessorScan p 2
  | two : SuccessorScan 2 3
  | scan {p q : Int} (high : ¬ p < 2) (other : p ≠ 2) (scan : Scan 2 (p + 2) q) :
    SuccessorScan p q

variable {step c n p q : Int}

/-! ## Loops -/

/-- The candidate after `k + 1` steps is the one after `k` steps from the next. -/
theorem candidate_succ (step c : Int) (k : Nat) :
    c + (k + 1 : Nat) * step = c + step + k * step := by
  rw [Int.natCast_succ]
  ring

/-- A scan ends at the first candidate that is prime. -/
theorem Scan.exists_candidate (scan : Scan step c q) : ∃ k : Nat, c + k * step = q ∧
    isPrime q = true ∧ ∀ j : Nat, j < k → isPrime (c + j * step) = false := by
  induction scan with
  | @found c prime => exact ⟨0, by simp, prime, fun j before => absurd before j.not_lt_zero⟩
  | @skip c q composite later ih =>
    obtain ⟨k, reached, prime, earlier⟩ := ih
    refine ⟨k + 1, (candidate_succ step c k).trans reached, prime, fun j before => ?_⟩
    cases j with
    | zero => simpa using composite
    | succ j =>
      rw [candidate_succ]
      exact earlier j (Nat.lt_of_succ_lt_succ before)

/-- A scan reaches the first candidate that is prime. -/
theorem scan_of_candidate {k : Nat} (prime : isPrime (c + k * step) = true)
    (earlier : ∀ j : Nat, j < k → isPrime (c + j * step) = false) :
    Scan step c (c + k * step) := by
  induction k generalizing c with
  | zero =>
    rw [Int.natCast_zero, Int.zero_mul, Int.add_zero] at prime ⊢
    exact .found prime
  | succ k ih =>
    have composite := earlier 0 k.succ_pos
    rw [Int.natCast_zero, Int.zero_mul, Int.add_zero] at composite
    rw [candidate_succ] at prime ⊢
    refine .skip composite (ih prime fun j before => ?_)
    rw [← candidate_succ]
    exact earlier (j + 1) (Nat.succ_lt_succ before)

/-- A loop ends at its first prime candidate. -/
theorem scan_iff : Scan step c q ↔ ∃ k : Nat, c + k * step = q ∧ isPrime q = true ∧
    ∀ j : Nat, j < k → isPrime (c + j * step) = false := by
  refine ⟨Scan.exists_candidate, fun ⟨k, reached, prime, earlier⟩ => ?_⟩
  rw [← reached] at prime ⊢
  exact scan_of_candidate prime earlier

/-- The next prime, by the test of integers. -/
theorem eq_next_iff : q = next n ↔
    n < q ∧ isPrime q = true ∧ ∀ c, n < c → c < q → isPrime c = false := by
  refine ⟨fun same => ?_, fun ⟨above, prime, earlier⟩ => ?_⟩
  · obtain ⟨prime, above, least⟩ := (next_eq_iff n _).1 (next_eq_nextNat n)
    rw [same, next_eq_nextNat]
    refine ⟨above, (isPrime_eq_true_iff _).2 ⟨_, prime, rfl⟩, fun c beyond before => ?_⟩
    rw [← Bool.not_eq_true, isPrime_eq_true_iff]
    intro ⟨p, other, same⟩
    have reached := least p other (same ▸ beyond)
    rw [← same] at before
    exact absurd (Int.ofNat_le.2 reached) (Int.not_le.2 before)
  · obtain ⟨p, indivisible, rfl⟩ := (isPrime_eq_true_iff q).1 prime
    refine ((next_eq_iff n p).2 ⟨indivisible, above, fun r other beyond => ?_⟩).symm
    by_contra before
    have composite := earlier r beyond (Int.ofNat_lt.2 (Nat.lt_of_not_le before))
    rw [(isPrime_eq_true_iff r).2 ⟨r, other, rfl⟩] at composite
    cases composite

/-- A loop whose step leads to all primes ahead ends at the next one. -/
theorem scan_iff_of_ahead (positive : 0 < step)
    (ahead : ∀ q, n < q → isPrime q = true → step ∣ q - n) :
    Scan step (n + step) q ↔ q = next n := by
  -- the primes ahead are the candidates that the test lets through
  have candidate {q : Int} (above : n < q) (prime : isPrime q = true) :
      ∃ k : Nat, n + step + k * step = q := by
    obtain ⟨m, distance⟩ := ahead q above prime
    have further : 0 < m := (mul_pos_iff_of_pos_left positive).1 (by omega)
    refine ⟨(m - 1).toNat, ?_⟩
    rw [Int.toNat_of_nonneg (by omega)]
    linarith
  rw [scan_iff, eq_next_iff]
  refine ⟨fun ⟨k, reached, prime, earlier⟩ => ?_, fun ⟨above, prime, earlier⟩ => ?_⟩
  · have steps : 0 ≤ k * step := mul_nonneg k.cast_nonneg positive.le
    refine ⟨by omega, prime, fun c above before => ?_⟩
    rw [← Bool.not_eq_true]
    intro passed
    obtain ⟨j, rfl⟩ := candidate above passed
    rw [← reached] at before
    have less := lt_of_mul_lt_mul_right (lt_of_add_lt_add_left before) positive.le
    rw [earlier j (Int.ofNat_lt.1 less)] at passed
    cases passed
  · obtain ⟨k, rfl⟩ := candidate above prime
    refine ⟨k, rfl, prime, fun j before => ?_⟩
    have steps : 0 ≤ j * step := mul_nonneg j.cast_nonneg positive.le
    have less := mul_lt_mul_of_pos_right (Int.ofNat_lt.2 before) positive
    exact earlier _ (by omega) (by omega)

/-! ## The two searches -/

theorem next_of_lt_two (low : n < 2) : 2 = next n := (if_pos low).symm

theorem next_two : 3 = next 2 := by
  rw [eq_next_iff]
  exact ⟨by decide, rfl, fun c above before => by omega⟩

theorem odd_of_isPrime (prime : isPrime q = true) (large : 2 < q) : q % 2 = 1 := by
  have odd := odd_of_test prime (by omega)
  omega

/-- One by one, the search ends from everywhere. -/
theorem nextScan_iff : NextScan n q ↔ q = next n := by
  have loop : Scan 1 (n + 1) q ↔ q = next n :=
    scan_iff_of_ahead Int.one_pos fun q _ _ => one_dvd (q - n)
  refine ⟨fun search => ?_, fun same => ?_⟩
  · cases search with
    | low low => exact next_of_lt_two low
    | scan high scan => exact loop.1 scan
  · by_cases low : n < 2
    · rw [same, ← next_of_lt_two low]
      exact .low low
    · exact .scan low (loop.2 same)

/-- Above two, a step of two leads from an odd number to all primes ahead. -/
theorem scan_two_iff (large : 2 < p) (odd : p % 2 = 1) : Scan 2 (p + 2) q ↔ q = next p :=
  scan_iff_of_ahead (by decide) fun q above prime => by
    have other := odd_of_isPrime prime (large.trans above)
    omega

/-- From an even number above two a step of two leads to no prime. -/
theorem not_scan_two (large : 2 < p) (even : p % 2 = 0) : ¬ Scan 2 (p + 2) q := by
  intro scan
  obtain ⟨k, reached, prime, -⟩ := scan_iff.1 scan
  have odd := odd_of_isPrime prime (by omega)
  omega

/-- In steps of two, the search ends from the odd numbers and from those up to two. -/
theorem successorScan_iff : SuccessorScan p q ↔ (p % 2 = 1 ∨ p ≤ 2) ∧ q = next p := by
  refine ⟨fun search => ?_, fun ⟨start, same⟩ => ?_⟩
  · cases search with
    | low low => exact ⟨.inr low.le, next_of_lt_two low⟩
    | two => exact ⟨.inr (Int.le_refl 2), next_two⟩
    | scan high other scan =>
      have large : 2 < p := by omega
      rcases Int.emod_two_eq_zero_or_one p with even | odd
      · exact absurd scan (not_scan_two large even)
      · exact ⟨.inl odd, (scan_two_iff large odd).1 scan⟩
  · rcases Int.lt_trichotomy p 2 with low | rfl | large
    · rw [same, ← next_of_lt_two low]
      exact .low low
    · rw [same, ← next_two]
      exact .two
    · have odd : p % 2 = 1 := by omega
      exact .scan (by omega) (by omega) ((scan_two_iff large odd).2 same)

/-- From every odd integer, and from every integer up to two, the search in steps of two ends
with the prime that the search one by one ends with, and both calls give this prime.  From any
other integer the search in steps of two does not end. -/
theorem successor_steps :
    (∀ p : Int, p % 2 = 1 ∨ p ≤ 2 →
      Operation.nextPrime (.number (.int p)) = .ok (successor p) ∧
      (∀ q, SuccessorScan p q ↔ q = successor p) ∧ ∀ q, NextScan p q ↔ q = successor p) ∧
    ∀ p : Int, ¬ (p % 2 = 1 ∨ p ≤ 2) → ∀ q, ¬ SuccessorScan p q := by
  rw [successor_eq_next]
  refine ⟨fun p start => ⟨nextPrime_int p, fun q => ?_, fun q => nextScan_iff⟩,
    fun p start q search => ?_⟩
  · rw [successorScan_iff, and_iff_right start]
  · exact start (successorScan_iff.1 search).1

/-- Across a gap between primes, and from a number that has no primes below it. -/
theorem successor_steps_89 :
    Operation.nextPrime (.number (.int 89)) = .ok (successor 89) ∧
    SuccessorScan 89 (successor 89) ∧ SuccessorScan (-4) (successor (-4)) ∧
    ¬ SuccessorScan 4 5 := by
  obtain ⟨agree, endless⟩ := successor_steps
  obtain ⟨call, odd, -⟩ := agree 89 (by decide)
  exact ⟨call, (odd _).2 rfl, ((agree (-4) (by decide)).2.1 _).2 rfl, endless 4 (by decide) 5⟩

end NumericKernel.Prime

import NumericKernel.Factorial
import NumericKernel.Prime.Test
import NumericKernel.Search

/-!
# Primes beyond every bound

A number without proper divisors passes the test, and by Euclid's argument there
is one beyond every bound: no divisor of `n! + 1` above one is at most `n`.  So a
search for the next prime ends, also one among the odd numbers only.
-/

namespace NumericKernel.Prime

/-- At least two, with no divisor strictly between one and itself. -/
def Indivisible (n : Nat) : Prop := 2 ≤ n ∧ ∀ d, 1 < d → d < n → ¬ d ∣ n

/-! ## Indivisible numbers pass the test -/

/-- An indivisible number leaves a remainder under every divisor between one and itself. -/
theorem Indivisible.not_mod_eq_zero {n d : Nat} (h : Indivisible n) (above : 1 < d) (below : d < n) :
    n % d ≠ 0 :=
  fun zero => h.2 d above below (Nat.dvd_of_mod_eq_zero zero)

/-- No divisor of the wheel strikes an indivisible number. -/
theorem Indivisible.passesWheel {n : Nat} (h : Indivisible n) (c : Nat) (start : 5 ≤ c) :
    Prime.passesWheel n c = true := by
  fun_induction Prime.passesWheel n c with
  | case1 c bound divides =>
    have product : 5 * c ≤ c * c := Nat.mul_le_mul_right c start
    rcases divides with zero | zero
    · exact absurd zero (h.not_mod_eq_zero (by omega) (by omega))
    · exact absurd zero (h.not_mod_eq_zero (by omega) (by omega))
  | case2 c _ _ ih => exact ih (by omega)
  | case3 => rfl

/-- An indivisible number passes the test. -/
theorem Indivisible.test {n : Nat} (h : Indivisible n) : Prime.test n = true := by
  unfold Prime.test
  split
  · rfl
  · rename_i notSmall
    have large : ¬ (n < 2 ∨ ∃ p ∈ small, n % p = 0) := by
      rintro (low | ⟨p, hp, zero⟩)
      · exact absurd h.1 (by omega)
      · have two := h.1
        simp only [small, List.mem_cons, List.not_mem_nil, or_false] at hp notSmall
        have le : p ≤ n := Nat.le_of_dvd (by omega) (Nat.dvd_of_mod_eq_zero zero)
        refine h.not_mod_eq_zero (d := p) (by omega) ?_ zero
        omega
    rw [if_neg large]
    exact h.passesWheel 5 (Nat.le_refl 5)

/-! ## Euclid's argument -/

/-- The least divisor above one is indivisible. -/
theorem exists_indivisible_dvd (n : Nat) (h : 2 ≤ n) : ∃ p, Indivisible p ∧ p ∣ n := by
  induction n using Nat.strongRecOn with
  | ind n ih =>
    by_cases proper : ∃ d, 1 < d ∧ d < n ∧ d ∣ n
    · obtain ⟨d, above, below, divides⟩ := proper
      obtain ⟨p, indivisible, hp⟩ := ih d below above
      exact ⟨p, indivisible, Nat.dvd_trans hp divides⟩
    · exact ⟨n, ⟨h, fun d above below divides => proper ⟨d, above, below, divides⟩⟩, Nat.dvd_refl n⟩

theorem dvd_factorial {d n : Nat} (positive : 0 < d) (le : d ≤ n) : d ∣ factorial n := by
  induction n with
  | zero => omega
  | succ n ih =>
    rcases Nat.lt_or_eq_of_le le with lt | rfl
    · exact Nat.dvd_mul_left_of_dvd (ih (by omega)) (n + 1)
    · exact Nat.dvd_mul_right (n + 1) (factorial n)

theorem factorial_pos (n : Nat) : 0 < factorial n := by
  induction n with
  | zero => decide
  | succ n ih => exact Nat.mul_pos (Nat.succ_pos n) ih

/-- Beyond every number there is an indivisible one. -/
theorem exists_indivisible_gt (n : Nat) : ∃ p, n < p ∧ Indivisible p := by
  have positive := factorial_pos n
  obtain ⟨p, indivisible, divides⟩ := exists_indivisible_dvd (factorial n + 1) (by omega)
  refine ⟨p, ?_, indivisible⟩
  apply Nat.lt_of_not_le
  intro le
  have two := indivisible.1
  have one : p ∣ 1 := (Nat.dvd_add_right (dvd_factorial (by omega) le)).1 divides
  have := Nat.le_of_dvd Nat.one_pos one
  omega

/-! ## Consequences for a search -/

theorem unbounded_test : Search.Unbounded test := by
  intro n
  obtain ⟨p, gt, indivisible⟩ := exists_indivisible_gt n
  exact ⟨p, Nat.le_of_lt gt, indivisible.test⟩

theorem unbounded_odd_test : Search.Unbounded (fun k => test (2 * k + 1)) := by
  intro n
  obtain ⟨p, gt, indivisible⟩ := exists_indivisible_gt (2 * n + 2)
  have odd : p % 2 ≠ 0 := indivisible.not_mod_eq_zero (by decide) (by omega)
  refine ⟨p / 2, by omega, ?_⟩
  have : 2 * (p / 2) + 1 = p := by omega
  simpa [this] using indivisible.test

end NumericKernel.Prime

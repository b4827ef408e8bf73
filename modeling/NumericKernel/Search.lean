/-!
# Unbounded search

The least natural from a starting point on that passes a test, for a test that is
passed again and again.  The search needs no bound: that the test is passed again
is enough for it to end.
-/

namespace NumericKernel.Search

/-- A test that is passed beyond every bound. -/
def Unbounded (test : Nat → Bool) : Prop := ∀ n, ∃ k, n ≤ k ∧ test k = true

/-- Among the offsets at which a test is passed there is a least one. -/
theorem exists_least {test : Nat → Bool} (k : Nat) (h : test k = true) :
    ∃ m, test m = true ∧ ∀ j, j < m → test j = false := by
  induction k using Nat.strongRecOn with
  | ind k ih =>
    by_cases earlier : ∃ j, j < k ∧ test j = true
    · obtain ⟨j, hj, passed⟩ := earlier
      exact ih j hj passed
    · refine ⟨k, h, fun j hj => ?_⟩
      cases passed : test j
      · rfl
      · exact absurd ⟨j, hj, passed⟩ earlier

/-- A test that is passed again and again is passed first at some distance from any start. -/
theorem exists_distance {test : Nat → Bool} (h : Unbounded test) (n : Nat) :
    ∃ d, test (n + d) = true ∧ ∀ j, j < d → test (n + j) = false := by
  obtain ⟨k, le, passed⟩ := h n
  exact @exists_least (fun d => test (n + d)) (k - n) (by
    have : n + (k - n) = k := by omega
    simpa [this] using passed)

/-- How far the next natural that passes the test lies ahead. -/
noncomputable def distance {test : Nat → Bool} (h : Unbounded test) (n : Nat) : Nat :=
  Classical.choose (exists_distance h n)

/-- From behind a number that fails, the distance to the next one that passes is shorter. -/
theorem distance_succ_lt {test : Nat → Bool} (h : Unbounded test) {n : Nat} (failed : test n = false) :
    distance h (n + 1) < distance h n := by
  have here := Classical.choose_spec (exists_distance h n)
  have next := Classical.choose_spec (exists_distance h (n + 1))
  change test (n + distance h n) = true ∧ _ at here
  change _ ∧ ∀ j, j < distance h (n + 1) → test (n + 1 + j) = false at next
  have positive : distance h n ≠ 0 := by
    intro eq
    rw [eq] at here
    simp [failed] at here
  apply Nat.lt_of_not_le
  intro le
  have := next.2 (distance h n - 1) (by omega)
  rw [show n + 1 + (distance h n - 1) = n + distance h n by omega, here.1] at this
  exact absurd this (by decide)

/-- The least natural from `n` on that passes the test. -/
def firstFrom (test : Nat → Bool) (h : Unbounded test) (n : Nat) : Nat :=
  match passed : test n with
  | true => n
  | false => firstFrom test h (n + 1)
termination_by distance h n
decreasing_by exact distance_succ_lt h passed

/-- The search stops where the test is passed, and not before. -/
theorem firstFrom_eq_iff {test : Nat → Bool} (h : Unbounded test) (n m : Nat) :
    firstFrom test h n = m ↔ n ≤ m ∧ test m = true ∧ ∀ j, n ≤ j → j < m → test j = false := by
  fun_induction firstFrom test h n with
  | case1 n passed =>
    constructor
    · rintro rfl
      exact ⟨Nat.le_refl _, passed, fun j le lt => absurd lt (by omega)⟩
    · rintro ⟨le, _, earlier⟩
      rcases Nat.lt_or_eq_of_le le with lt | rfl
      · have := earlier n (Nat.le_refl n) lt
        simp [passed] at this
      · rfl
  | case2 n failed ih =>
    rw [ih]
    constructor
    · rintro ⟨le, passed, earlier⟩
      refine ⟨by omega, passed, fun j hj lt => ?_⟩
      rcases Nat.lt_or_eq_of_le hj with below | rfl
      · exact earlier j below lt
      · exact failed
    · rintro ⟨le, passed, earlier⟩
      refine ⟨?_, passed, fun j hj lt => earlier j (by omega) lt⟩
      rcases Nat.lt_or_eq_of_le le with below | rfl
      · omega
      · simp [failed] at passed

/-- The greatest natural below `n` that passes the test. -/
def lastBelow? (test : Nat → Bool) : Nat → Option Nat
  | 0 => none
  | n + 1 => if test n then some n else lastBelow? test n

/-- The search downwards finds a number exactly if that is the greatest one below that passes. -/
theorem lastBelow?_eq_some_iff {test : Nat → Bool} (n m : Nat) :
    lastBelow? test n = some m ↔ m < n ∧ test m = true ∧ ∀ j, m < j → j < n → test j = false := by
  induction n with
  | zero => simp [lastBelow?]
  | succ n ih =>
    rw [lastBelow?]
    cases passed : test n with
    | true =>
      rw [if_pos rfl, Option.some.injEq]
      constructor
      · rintro rfl
        exact ⟨Nat.lt_succ_self _, passed, fun j above below => absurd below (by omega)⟩
      · rintro ⟨below, _, later⟩
        apply Classical.byContradiction
        intro other
        exact Bool.false_ne_true ((later n (by omega) n.lt_succ_self).symm.trans passed)
    | false =>
      rw [if_neg Bool.false_ne_true, ih]
      constructor
      · rintro ⟨below, found, later⟩
        refine ⟨Nat.lt_succ_of_lt below, found, fun j above reached => ?_⟩
        rcases Nat.lt_succ_iff_lt_or_eq.1 reached with before | rfl
        · exact later j above before
        · exact passed
      · rintro ⟨below, found, later⟩
        refine ⟨?_, found, fun j above reached => later j above (Nat.lt_succ_of_lt reached)⟩
        rcases Nat.lt_succ_iff_lt_or_eq.1 below with before | rfl
        · exact before
        · exact absurd (passed.symm.trans found) Bool.false_ne_true

/-- The search downwards finds nothing exactly if no number below passes. -/
theorem lastBelow?_eq_none_iff {test : Nat → Bool} (n : Nat) :
    lastBelow? test n = none ↔ ∀ j, j < n → test j = false := by
  induction n with
  | zero => simp [lastBelow?]
  | succ n ih =>
    rw [lastBelow?, Nat.forall_lt_succ_right, ← ih]
    cases test n <;> simp

end NumericKernel.Search

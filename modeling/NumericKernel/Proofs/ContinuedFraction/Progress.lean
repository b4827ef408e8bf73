import NumericKernel.Proofs.ContinuedFraction.Rounds
import NumericKernel.Proofs.ContinuedFraction.Tracked

/-!
# Progress of a simple fraction

In a simple fraction all partial numerators are one.  Two successive convergents then
differ by the reciprocal of the product of their denominators, and these grow without
end.  Once a denominator exceeds the scale of a digit, no multiple of the scale lies
between the two convergents, so the search for the digit ends there.

* `Simple.determinant`, `Simple.le_denominator`: the difference and the growth;
* `ediv_eq_of_close`: fractions too close for their denominators to be parted;
* `Simple.exists_finds`: how far the search for a digit goes;
* `Searching.tracked`: every reachable state tracks the convergents;
* `Simple.progress`: every digit comes after a bounded number of terms.
-/

namespace NumericKernel.ContinuedFraction

/-- From index one on the partial denominators are positive and the partial numerators
are one. -/
structure Simple (f : ContinuedFraction) : Prop where
  one_le_a : ∀ k, 1 ≤ k → 1 ≤ f.a k
  b_eq_one : ∀ k, 1 ≤ k → f.b k = 1

variable {f : ContinuedFraction} {r : Int} {n m : Nat} {worth : Int}

theorem Simple.regular (simple : Simple f) : Regular f where
  one_le_a := simple.one_le_a
  zero_le_b := fun k positive => by
    rw [simple.b_eq_one k positive]
    exact Int.one_nonneg

/-! ## Denominators -/

/-- Two successive convergents differ by the reciprocal of the product of their
denominators, upward and downward in turn. -/
theorem Simple.determinant (simple : Simple f) (j : Nat) :
    f.numerator (j + 1) * f.denominator j - f.numerator j * f.denominator (j + 1) = (-1) ^ j := by
  induction j with
  | zero =>
    have one := simple.b_eq_one 1 (Nat.le_refl 1)
    simp [numerator, denominator, one]
    ring
  | succ j ih =>
    rw [numerator, denominator, simple.b_eq_one (j + 2) (by omega), pow_succ, ← ih]
    ring

/-- From the third on each denominator is at least the sum of the two before it. -/
theorem Simple.add_denominator_le (simple : Simple f) (j : Nat) :
    f.denominator (j + 1) + f.denominator j ≤ f.denominator (j + 2) := by
  have newer := (simple.regular.denominator_pos j).2
  have grown := le_mul_of_one_le_left newer.le (simple.one_le_a (j + 2) (by omega))
  rw [denominator, simple.b_eq_one (j + 2) (by omega)]
  omega

/-- The denominators of a simple fraction do not fall from one to the next. -/
theorem Simple.denominator_le_succ (simple : Simple f) (j : Nat) :
    f.denominator j ≤ f.denominator (j + 1) := by
  cases j with
  | zero => exact simple.one_le_a 1 (Nat.le_refl 1)
  | succ j =>
    have older := (simple.regular.denominator_pos j).1
    exact (Int.le_add_of_nonneg_right older.le).trans (simple.add_denominator_le j)

theorem Simple.denominator_le (simple : Simple f) {i j : Nat} (le : i ≤ j) :
    f.denominator i ≤ f.denominator j :=
  monotone_nat_of_le_succ simple.denominator_le_succ le

/-- The denominators of a simple fraction grow without end. -/
theorem Simple.le_denominator (simple : Simple f) (j : Nat) : (j : Int) ≤ f.denominator j := by
  induction j with
  | zero => exact Int.one_nonneg
  | succ j ih =>
    cases j with
    | zero => exact simple.one_le_a 1 (Nat.le_refl 1)
    | succ j =>
      have older := (simple.regular.denominator_pos j).1
      have sum := simple.add_denominator_le j
      change ((j + 2 : Nat) : Int) ≤ f.denominator (j + 2)
      omega

/-! ## Integer parts -/

/-- Two fractions on either side of an integer differ by at least the reciprocal of one
of their denominators. -/
theorem ediv_le_of_close {x y u v : Int} (hy : 0 < y) (hv : 0 < v) (close : x * v - u * y < y) :
    x / y ≤ u / v := by
  apply Int.le_of_lt_add_one
  rw [Int.ediv_lt_iff_lt_mul hy]
  have below := Int.lt_ediv_add_one_mul_self u hv
  by_contra reached
  have scaled := mul_le_mul_of_nonneg_right (Int.not_lt.1 reached) hv.le
  have parted := mul_le_mul_of_nonneg_right (Int.add_one_le_of_lt below) hy.le
  linarith

/-- Fractions that are close enough have equal integer parts. -/
theorem ediv_eq_of_close {x y u v : Int} (hy : 0 < y) (hv : 0 < v) (after : x * v - u * y < y)
    (before : u * y - x * v < v) : x / y = u / v :=
  Int.le_antisymm (ediv_le_of_close hy hv after) (ediv_le_of_close hv hy before)

/-- Once the older denominator exceeds the scale, the integer parts agree. -/
theorem Simple.settled (simple : Simple f) {scale : Int} (nonneg : 0 ≤ scale)
    (fine : scale < f.denominator m) :
    Settled f scale ((scale * f.numerator m).fdiv (f.denominator m)) m := by
  obtain ⟨older, newer⟩ := simple.regular.denominator_pos m
  have grown := simple.denominator_le_succ m
  refine ⟨older.ne', newer.ne', rfl, ?_⟩
  rw [Int.fdiv_eq_ediv_of_nonneg _ older.le, Int.fdiv_eq_ediv_of_nonneg _ newer.le]
  have apart : scale * f.numerator (m + 1) * f.denominator m -
      scale * f.numerator m * f.denominator (m + 1) = scale * (-1) ^ m := by
    rw [← simple.determinant m]
    ring
  rcases neg_one_pow_eq_or Int m with sign | sign
  · rw [sign] at apart
    exact ediv_eq_of_close newer older (by omega) (by omega)
  · rw [sign] at apart
    exact ediv_eq_of_close newer older (by omega) (by omega)

/-! ## The search for a digit -/

/-- From the convergents `m` and `m + 1` the search goes no further than an index whose
denominator exceeds the scale. -/
theorem Simple.exists_finds (simple : Simple f) (radix : f.radix = .int r) (nonneg : 0 ≤ r)
    (worth : Int) {bound : Nat} (fine : r ^ n < f.denominator bound) (m : Nat) :
    ∃ count whole held, held ≤ max m bound ∧ Finds f count (f.tracked r n worth m)
      (whole - r * worth) (f.tracked r (n + 1) whole held) := by
  rcases degenerate_or_settled_or_undecided f (r ^ n) m with zero | ⟨whole, settled⟩ | undecided
  · obtain ⟨older, newer⟩ := simple.regular.denominator_pos m
    exact absurd zero (not_or_intro older.ne' newer.ne')
  · exact ⟨0, whole, m, Nat.le_max_left m bound,
      .emit (integerParts_of_settled settled) (scale_of_settled radix settled)⟩
  · have before : m < bound := by
      apply Nat.lt_of_not_le
      intro passed
      have reached := fine.trans_le (simple.denominator_le passed)
      exact undecided.fdiv_ne (simple.settled (pow_nonneg nonneg n) reached).newer_fdiv.symm
    obtain ⟨count, whole, held, le, finds⟩ := simple.exists_finds radix nonneg worth fine (m + 1)
    obtain ⟨x, y, parts, differ⟩ := undecided.exists_integerParts worth
    exact ⟨count + 1, whole, held, by omega, .absorb parts differ absorb_tracked finds⟩
termination_by bound - m

/-! ## Reachable states -/

/-- Equal integer parts of a tracked state are those of its convergents. -/
theorem settled_of_integerParts {d : Int}
    (parts : (f.tracked r n worth m).integerParts = .ok (d, d)) :
    Settled f (r ^ n) (d + r * worth) m := by
  by_cases zero : f.denominator m = 0 ∨ f.denominator (m + 1) = 0
  · rw [integerParts_degenerate zero] at parts
    cases parts
  · obtain ⟨older, newer⟩ := not_or.mp zero
    rw [integerParts_tracked older newer, Except.ok.injEq, Prod.mk.injEq] at parts
    exact ⟨older, newer, by omega, by omega⟩

/-- Without a bound on the terms the first state is always reached. -/
theorem initial_limit (f : ContinuedFraction) (r : Int) {limit : Int} (available : 1 ≤ limit) :
    initial { f with limit } = .ok (f.tracked r 0 0 0) :=
  initial_eq_tracked r available

/-- Every reachable state tracks the convergents. -/
theorem Searching.tracked {s : State} (radix : f.radix = .int r) (searching : Searching f n s) :
    ∃ worth m, s = f.tracked r n worth m := by
  induction searching with
  | @initial limit s begun =>
    by_cases available : 1 ≤ limit
    · rw [initial_limit f r available] at begun
      cases begun
      exact ⟨0, 0, rfl⟩
    · obtain ⟨k, -, -, missing⟩ := initial_eq_error (f := { f with limit }) available
      rw [missing] at begun
      cases begun
  | absorb searching parts undecided absorbed ih =>
    obtain ⟨worth, m, rfl⟩ := ih
    have next := absorb_tracked.symm.trans absorbed
    cases next
    exact ⟨worth, m + 1, rfl⟩
  | emit searching parts scaled ih =>
    obtain ⟨worth, m, rfl⟩ := ih
    rw [radix, scale_tracked (settled_of_integerParts parts)] at scaled
    cases scaled
    exact ⟨_, m, rfl⟩

/-! ## Runs -/

/-- An index whose denominator exceeds the scale of a digit. -/
def reach (r : Int) (n : Nat) : Nat := (r ^ n).toNat + 1

theorem Simple.lt_denominator_reach (simple : Simple f) (r : Int) (n : Nat) :
    r ^ n < f.denominator (reach r n) := by
  have grown := simple.le_denominator (reach r n)
  unfold reach at grown ⊢
  omega

theorem reach_le_succ (positive : 0 < r) (n : Nat) : reach r n ≤ reach r (n + 1) := by
  have grown := le_mul_of_one_le_right (pow_nonneg positive.le n) positive
  unfold reach
  rw [pow_succ]
  omega

/-- A digit that is found is pulled, if the limit allows its terms. -/
theorem Finds.pull {count : Nat} {d limit : Int} {s next : State} (finds : Finds f count s d next)
    (available : next.k ≤ limit) :
    (Stream.running s).pull { f with limit } = (.ok d, .running next) := by
  have answer := (finds.agree (agree_limit f limit next.k)).nextDigit available
  exact pull_running_of_ok answer

/-- The first pull under any limit that allows a first state. -/
theorem pull_fresh_limit (f : ContinuedFraction) (r : Int) {limit : Int} (available : 1 ≤ limit) :
    Stream.fresh.pull { f with limit } =
      (Stream.running (f.tracked r 0 0 0)).pull { f with limit } :=
  pull_fresh_of_ok (initial_limit f r available)

/-- A run goes on with a pull. -/
theorem take_succ {stream mid next : Stream} {ds : List Int} {d : Int}
    (taken : stream.take f n = (ds, none, mid)) (pulled : mid.pull f = (.ok d, next)) :
    stream.take f (n + 1) = (ds ++ [d], none, next) := by
  induction n generalizing stream ds with
  | zero =>
    cases taken
    unfold Stream.take
    rw [pulled]
    rfl
  | succ n ih =>
    unfold Stream.take at taken ⊢
    generalize stream.pull f = answer at taken ⊢
    rcases answer with ⟨ending | first, after⟩
    · cases taken
    · rcases rest : after.take f n with ⟨es, ending, last⟩
      dsimp only at taken ⊢
      rw [rest] at taken
      cases taken
      rw [ih rest]
      rfl

/-- The first digits of a simple fraction, from whatever number of terms that suffices. -/
theorem Simple.exists_take (simple : Simple f) (radix : f.radix = .int r) (positive : 0 < r)
    (n : Nat) :
    ∃ ds whole held, ds.length = n + 1 ∧ held ≤ reach r n ∧
      Searching f (n + 1) (f.tracked r (n + 1) whole held) ∧
      ∀ limit : Int, reach r n + 1 ≤ limit → Stream.fresh.take { f with limit } (n + 1) =
        (ds, none, .running (f.tracked r (n + 1) whole held)) := by
  induction n with
  | zero =>
    obtain ⟨count, whole, held, le, finds⟩ :=
      simple.exists_finds radix positive.le 0 (simple.lt_denominator_reach r 0) 0
    rw [Nat.zero_max] at le
    have begun : Searching f 0 (f.tracked r 0 0 0) := .initial (initial_limit f r (Int.le_refl 1))
    refine ⟨[whole - r * 0], whole, held, rfl, le, begun.finds finds, fun limit available => ?_⟩
    have enough : ((held + 1 : Nat) : Int) ≤ limit := by omega
    have pulled := finds.pull enough
    rw [← pull_fresh_limit f r (by omega)] at pulled
    have start : Stream.fresh.take { f with limit } 0 = ([], none, .fresh) := rfl
    exact take_succ start pulled
  | succ n ih =>
    obtain ⟨ds, worth, m, length, low, searching, taken⟩ := ih
    obtain ⟨count, whole, held, le, finds⟩ :=
      simple.exists_finds radix positive.le worth (simple.lt_denominator_reach r (n + 1)) m
    have further := reach_le_succ positive n
    have within : held ≤ reach r (n + 1) := le.trans (Nat.max_le.2 ⟨low.trans further, Nat.le_refl _⟩)
    refine ⟨ds ++ [whole - r * worth], whole, held, by simp [length], within,
      searching.finds finds, fun limit available => ?_⟩
    have enough : ((held + 1 : Nat) : Int) ≤ limit := by omega
    exact take_succ (taken limit (by omega)) (finds.pull enough)

/-- In a simple fraction no further term is taken in for a digit once the older
denominator of the state exceeds the scale of the digit.  So each digit of a run comes
after a bounded number of terms, and from every state that a search can stand in the
next digit is found. -/
theorem Simple.progress {r : Int} (radix : f.radix = .int r) (two : 2 ≤ r) (simple : Simple f) :
    (∀ n s, Searching f n s → r ^ n < f.denominator (s.k - 1) →
      ∃ d next, next.k = s.k ∧ ∀ limit : Int, nextDigit { f with limit } s = .ok (d, next)) ∧
    (∀ n, ∃ (K : Nat) (ds : List Int) (s : State),
      ds.length = n + 1 ∧ s.k ≤ K ∧ Searching f (n + 1) s ∧
      ∀ limit : Int, K ≤ limit →
        Stream.fresh.take { f with limit } (n + 1) = (ds, none, .running s)) ∧
    ∀ n s, Searching f n s → ∃ d next, ∀ limit : Int, next.k ≤ limit →
      nextDigit { f with limit } s = .ok (d, next) := by
  have positive : 0 < r := by omega
  refine ⟨fun n s searching fine => ?_, fun n => ?_, fun n s searching => ?_⟩
  · obtain ⟨worth, m, rfl⟩ := searching.tracked radix
    have settled : Settled f (r ^ n) _ m := simple.settled (pow_nonneg positive.le n) fine
    have scaled : (f.tracked r n worth m).scale f.radix = _ := scale_of_settled radix settled
    exact ⟨_, f.tracked r (n + 1) _ m, rfl, fun limit => nextDigit_of_scaled
      (f := { f with limit }) (integerParts_of_settled settled) scaled⟩
  · obtain ⟨ds, whole, held, length, within, searching, taken⟩ := simple.exists_take radix positive n
    exact ⟨reach r n + 1, ds, _, length, Nat.succ_le_succ within, searching, taken⟩
  · obtain ⟨worth, m, rfl⟩ := searching.tracked radix
    obtain ⟨count, whole, held, -, finds⟩ :=
      simple.exists_finds radix positive.le worth (simple.lt_denominator_reach r n) m
    exact ⟨_, _, fun limit available =>
      (finds.agree (agree_limit f limit _)).nextDigit available⟩

/-- The simple fraction whose convergents come closest to each other the slowest. -/
def golden : ContinuedFraction where
  a := fun _ => 1
  b := fun _ => 1
  limit := 20

theorem golden_simple : Simple golden where
  one_le_a := fun _ _ => Int.le_refl 1
  b_eq_one := fun _ _ => rfl

/-- The first digit of the golden ratio. -/
theorem Simple.progress_golden : ∃ s, Searching golden 0 s ∧
    10 ^ 0 < golden.denominator (s.k - 1) ∧
      ∃ d next, next.k = s.k ∧ ∀ limit : Int, nextDigit { golden with limit } s = .ok (d, next) := by
  have first : Searching golden 0 (golden.tracked 10 0 0 0) :=
    .initial (initial_limit golden 10 (Int.le_refl 1))
  have firstParts : (golden.tracked 10 0 0 0).integerParts = .ok (1, 2) := rfl
  have second : Searching golden 0 (golden.tracked 10 0 0 1) :=
    .absorb first firstParts (by decide) rfl
  have secondParts : (golden.tracked 10 0 0 1).integerParts = .ok (2, 1) := rfl
  have third : Searching golden 0 (golden.tracked 10 0 0 2) :=
    .absorb second secondParts (by decide) rfl
  have fine : 10 ^ 0 < golden.denominator 2 := by decide
  exact ⟨_, third, fine, (Simple.progress rfl (by decide) golden_simple).1 0 _ third fine⟩

end NumericKernel.ContinuedFraction

import Mathlib.Tactic.Ring
import NumericKernel.Proofs.ContinuedFraction.Convergent
import NumericKernel.Proofs.ContinuedFraction.Rounds

/-!
# Tracking the convergents

An expansion with an integer radix holds two scaled and reduced convergents.  Which
ones is fixed by three numbers: how many digits came before, what they are worth and
which convergents are held.  `tracked` is the state of these numbers, and every step
of the expansion leads from such a state to such a state:

* `initial_eq_tracked`, `absorb_tracked`, `scale_tracked`: the single steps;
* `nextDigit_outcome`: all that the search for a digit can do from a tracked state.

Nothing here asks the terms for a sign.
-/

namespace NumericKernel.ContinuedFraction

/-- A convergent in the scale of the digit after `n` digits, less what these are
worth, as a numerator over the denominator of the convergent. -/
def reduced (f : ContinuedFraction) (r : Int) (n : Nat) (worth : Int) (j : Nat) : Int :=
  r ^ n * f.numerator j - r * worth * f.denominator j

/-- The state after `n` digits of a worth that holds the convergents `m` and `m + 1`. -/
def tracked (f : ContinuedFraction) (r : Int) (n : Nat) (worth : Int) (m : Nat) : State where
  k := m + 1
  p0 := .int (f.reduced r n worth m)
  q0 := .int (f.denominator m)
  p1 := .int (f.reduced r n worth (m + 1))
  q1 := .int (f.denominator (m + 1))

/-- Both scaled convergents that are held exist and have the same integer part. -/
structure Settled (f : ContinuedFraction) (scale whole : Int) (m : Nat) : Prop where
  older_ne_zero : f.denominator m ≠ 0
  newer_ne_zero : f.denominator (m + 1) ≠ 0
  older_fdiv : (scale * f.numerator m).fdiv (f.denominator m) = whole
  newer_fdiv : (scale * f.numerator (m + 1)).fdiv (f.denominator (m + 1)) = whole

variable {f : ContinuedFraction} {r : Int} {n : Nat} {worth : Int} {m : Nat}

/-! ## Single steps -/

/-- The first state tracks the first two convergents. -/
theorem initial_eq_tracked (r : Int) (available : 1 ≤ f.limit) :
    f.initial = .ok (f.tracked r 0 0 0) := by
  have older : f.reduced r 0 0 0 = f.a 0 := by
    simp [reduced, numerator]
  have newer : f.reduced r 0 0 1 = f.a 1 * f.a 0 + f.b 1 := by
    simp [reduced, numerator]
  rw [initial, starting_of_le available, tracked, older, newer]
  rfl

theorem initial_eq_error (missing : ¬ 1 ≤ f.limit) :
    ∃ k : Nat, k ≤ 1 ∧ f.limit < k ∧ f.initial = .error (.termLimit k f.limit) := by
  obtain ⟨k, small, beyond, started⟩ := exists_starting missing
  exact ⟨k, small, beyond, congrArg Asking.answer started⟩

/-- The recurrence of the convergents is linear, so scaling and reducing keep it. -/
theorem absorb_tracked : (f.tracked r n worth m).absorb (f.a (m + 2)) (f.b (m + 2)) =
    .ok (f.tracked r n worth (m + 1)) := by
  have numerators : f.a (m + 2) * f.reduced r n worth (m + 1) +
      f.b (m + 2) * f.reduced r n worth m = f.reduced r n worth (m + 2) := by
    unfold reduced
    rw [numerator, denominator]
    ring
  have denominators : f.a (m + 2) * f.denominator (m + 1) + f.b (m + 2) * f.denominator m =
      f.denominator (m + 2) := by
    rw [denominator]
  rw [tracked, tracked, ← numerators, ← denominators]
  rfl

/-- The digits so far are taken off the integer part of a convergent. -/
theorem reduced_fdiv {j : Nat} (nonzero : f.denominator j ≠ 0) :
    (f.reduced r n worth j).fdiv (f.denominator j) =
      (r ^ n * f.numerator j).fdiv (f.denominator j) - r * worth :=
  Int.sub_mul_fdiv_right _ _ nonzero

/-- The integer parts of a tracked state are those of its convergents. -/
theorem integerParts_tracked (older : f.denominator m ≠ 0) (newer : f.denominator (m + 1) ≠ 0) :
    (f.tracked r n worth m).integerParts =
      .ok ((r ^ n * f.numerator m).fdiv (f.denominator m) - r * worth,
        (r ^ n * f.numerator (m + 1)).fdiv (f.denominator (m + 1)) - r * worth) := by
  rw [← reduced_fdiv older, ← reduced_fdiv newer]
  unfold State.integerParts tracked
  simp only [Number.isZero_int, decide_eq_false older, decide_eq_false newer,
    Number.divide_int _ older, Number.divide_int _ newer]
  rfl

/-- A tracked state with a degenerate convergent has no integer parts. -/
theorem integerParts_degenerate (zero : f.denominator m = 0 ∨ f.denominator (m + 1) = 0) :
    (f.tracked r n worth m).integerParts = .error (.degenerateConvergent (m + 1)) := by
  unfold State.integerParts tracked
  simp only [Number.isZero_int, ← Bool.decide_or, decide_eq_true zero, if_true]

/-- Emitting a digit multiplies the worth by the radix and adds the digit. -/
theorem scale_tracked {whole : Int} (settled : Settled f (r ^ n) whole m) :
    (f.tracked r n worth m).scale (.int r) = .ok (f.tracked r (n + 1) whole m) := by
  have rest {j : Nat} (nonzero : f.denominator j ≠ 0)
      (part : (r ^ n * f.numerator j).fdiv (f.denominator j) = whole) :
      r * (f.reduced r n worth j).fmod (f.denominator j) = f.reduced r (n + 1) whole j := by
    rw [Int.fmod_def, reduced_fdiv nonzero, part]
    unfold reduced
    ring
  have older := rest settled.older_ne_zero settled.older_fdiv
  have newer := rest settled.newer_ne_zero settled.newer_fdiv
  rw [tracked, tracked, ← older, ← newer]
  unfold State.scale
  simp only [Number.mod_int _ settled.older_ne_zero, Number.mod_int _ settled.newer_ne_zero]
  rfl

/-! ## The search for a digit -/

/-- The faults that a search for a digit can end in. -/
inductive Stopped (f : ContinuedFraction) : Fault → Prop
  | degenerate {held : Nat} (zero : f.denominator held = 0 ∨ f.denominator (held + 1) = 0) :
    Stopped f (.degenerateConvergent (held + 1))
  | exhausted (k : Nat) : Stopped f (.termLimit k f.limit)

/-- What the search for a digit answers after `n` digits of a worth. -/
inductive Outcome (f : ContinuedFraction) (r : Int) (n : Nat) (worth : Int) :
    Except Fault (Int × State) → Prop
  /-- A digit that makes the worth the integer part of two successive convergents. -/
  | digit {whole : Int} {held : Nat} (settled : Settled f (r ^ n) whole held) :
    Outcome f r n worth (.ok (whole - r * worth, f.tracked r (n + 1) whole held))
  | stopped {fault : Fault} (stopped : Stopped f fault) : Outcome f r n worth (.error fault)

theorem nextDigit_of_degenerate (zero : f.denominator m = 0 ∨ f.denominator (m + 1) = 0) :
    f.nextDigit (f.tracked r n worth m) = .error (.degenerateConvergent (m + 1)) :=
  nextDigit_of_error (integerParts_degenerate zero)

theorem integerParts_of_settled {whole : Int} (settled : Settled f (r ^ n) whole m) :
    (f.tracked r n worth m).integerParts = .ok (whole - r * worth, whole - r * worth) := by
  rw [integerParts_tracked settled.older_ne_zero settled.newer_ne_zero, settled.older_fdiv,
    settled.newer_fdiv]

/-- Settled convergents are scaled for the next digit. -/
theorem scale_of_settled (radix : f.radix = .int r) {whole : Int}
    (settled : Settled f (r ^ n) whole m) :
    (f.tracked r n worth m).scale f.radix = .ok (f.tracked r (n + 1) whole m) := by
  rw [radix, scale_tracked settled]

/-- Settled convergents give the next digit. -/
theorem nextDigit_of_settled (radix : f.radix = .int r) {whole : Int}
    (settled : Settled f (r ^ n) whole m) :
    f.nextDigit (f.tracked r n worth m) =
      .ok (whole - r * worth, f.tracked r (n + 1) whole m) :=
  nextDigit_of_scaled (integerParts_of_settled settled) (scale_of_settled radix settled)

/-- The integer parts of the two convergents that are held differ. -/
structure Undecided (f : ContinuedFraction) (scale : Int) (m : Nat) : Prop where
  older_ne_zero : f.denominator m ≠ 0
  newer_ne_zero : f.denominator (m + 1) ≠ 0
  fdiv_ne : (scale * f.numerator m).fdiv (f.denominator m) ≠
    (scale * f.numerator (m + 1)).fdiv (f.denominator (m + 1))

/-- Three things can hold of the two convergents. -/
theorem degenerate_or_settled_or_undecided (f : ContinuedFraction) (scale : Int) (m : Nat) :
    (f.denominator m = 0 ∨ f.denominator (m + 1) = 0) ∨ (∃ whole, Settled f scale whole m) ∨
      Undecided f scale m := by
  by_cases zero : f.denominator m = 0 ∨ f.denominator (m + 1) = 0
  · exact .inl zero
  · obtain ⟨older, newer⟩ := not_or.mp zero
    by_cases equal : (scale * f.numerator m).fdiv (f.denominator m) =
        (scale * f.numerator (m + 1)).fdiv (f.denominator (m + 1))
    · exact .inr (.inl ⟨_, older, newer, rfl, equal.symm⟩)
    · exact .inr (.inr ⟨older, newer, equal⟩)

namespace Undecided

theorem exists_integerParts (undecided : Undecided f (r ^ n) m) (worth : Int) :
    ∃ x y, (f.tracked r n worth m).integerParts = .ok (x, y) ∧ x ≠ y := by
  refine ⟨_, _, integerParts_tracked undecided.older_ne_zero undecided.newer_ne_zero, ?_⟩
  have differ := undecided.fdiv_ne
  omega

theorem nextDigit_of_le (undecided : Undecided f (r ^ n) m) (available : (m + 2 : Nat) ≤ f.limit) :
    f.nextDigit (f.tracked r n worth m) = f.nextDigit (f.tracked r n worth (m + 1)) := by
  obtain ⟨x, y, parts, differ⟩ := undecided.exists_integerParts worth
  exact nextDigit_of_absorbed parts differ available absorb_tracked

theorem nextDigit_of_lt (undecided : Undecided f (r ^ n) m) (beyond : f.limit < (m + 2 : Nat)) :
    f.nextDigit (f.tracked r n worth m) = .error (.termLimit (m + 2) f.limit) := by
  obtain ⟨x, y, parts, differ⟩ := undecided.exists_integerParts worth
  exact nextDigit_of_missing parts differ (Int.not_le.2 beyond)

end Undecided

/-- The search from a tracked state finds a digit or stops. -/
theorem nextDigit_outcome (radix : f.radix = .int r) {m : Nat} :
    Outcome f r n worth (f.nextDigit (f.tracked r n worth m)) := by
  rcases degenerate_or_settled_or_undecided f (r ^ n) m with zero | ⟨whole, settled⟩ | undecided
  · rw [nextDigit_of_degenerate zero]
    exact .stopped (.degenerate zero)
  · rw [nextDigit_of_settled radix settled]
    exact .digit settled
  · by_cases available : (m + 2 : Nat) ≤ f.limit
    · rw [undecided.nextDigit_of_le available]
      exact nextDigit_outcome radix
    · rw [undecided.nextDigit_of_lt (Int.not_le.1 available)]
      exact .stopped (.exhausted (m + 2))
termination_by (f.limit - m).toNat
decreasing_by omega

end NumericKernel.ContinuedFraction

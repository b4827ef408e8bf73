import NumericKernel.Proofs.ContinuedFraction.Digits

/-!
# The state behind a digit

What a stream holds after a digit, for terms of any sign: the denominators of two
successive convergents and what the digits so far leave of their numerators.  The
digits so far are worth the integer part of both convergents, whichever sign the
denominators have.

* `floor_convergent`: the integer part as a floored quotient;
* `take_holds`: the state after each digit of a run.
-/

namespace NumericKernel.ContinuedFraction

variable {f : ContinuedFraction} {r : Int}

theorem floor_div_eq_fdiv (x y : Int) : ⌊(x : ℚ) / y⌋ = x.fdiv y := by
  have natural (x : Int) (y : Nat) : ⌊(x : ℚ) / ((y : Int) : ℚ)⌋ = x.fdiv y := by
    rw [Int.fdiv_eq_ediv_of_nonneg x (Int.natCast_nonneg y), Int.cast_natCast]
    exact Rat.floor_intCast_div_natCast x y
  rcases Int.eq_nat_or_neg y with ⟨n, rfl | rfl⟩
  · exact natural x n
  · have opposite := natural (-x) n
    rwa [← Int.neg_fdiv_neg, neg_neg, Int.cast_neg, neg_div, ← div_neg, ← Int.cast_neg] at opposite

/-- The denominator may be negative; the quotient is floored all the same. -/
theorem floor_convergent (f : ContinuedFraction) (scale : Int) (j : Nat) :
    ⌊(scale : ℚ) * f.convergent j⌋ = (scale * f.numerator j).fdiv (f.denominator j) := by
  rw [← floor_div_eq_fdiv, Int.cast_mul, convergent, mul_div_assoc]

theorem Settled.floor_eq {scale whole : Int} {m : Nat} (settled : Settled f scale whole m) :
    ⌊(scale : ℚ) * f.convergent m⌋ = whole ∧ ⌊(scale : ℚ) * f.convergent (m + 1)⌋ = whole := by
  rw [floor_convergent, floor_convergent]
  exact ⟨settled.older_fdiv, settled.newer_fdiv⟩

/-- After each digit of a run the state holds two successive convergents.  The digits so
far are worth the integer part of both in the scale of the digit, and the numerators are
reduced by this worth and scaled for the next digit. -/
theorem take_holds (radix : f.radix = .int r) {count : Nat} {ds : List Int}
    {ending : Option Ending} {last : Stream}
    (run : Stream.fresh.take f count = (ds, ending, last)) {n : Nat} (position : n < ds.length) :
    ∃ (s : State) (worth : Int),
      Stream.fresh.take f (n + 1) = (ds.take (n + 1), none, .running s) ∧
      worth = ∑ i ∈ Finset.range (n + 1), ds.getD i 0 * r ^ (n - i) ∧
      1 ≤ s.k ∧ f.denominator (s.k - 1) ≠ 0 ∧ f.denominator s.k ≠ 0 ∧
      ⌊(r : ℚ) ^ n * f.convergent (s.k - 1)⌋ = worth ∧
      ⌊(r : ℚ) ^ n * f.convergent s.k⌋ = worth ∧
      s.q0 = .int (f.denominator (s.k - 1)) ∧ s.q1 = .int (f.denominator s.k) ∧
      s.p0 = .int (r ^ (n + 1) * f.numerator (s.k - 1) - r * worth * f.denominator (s.k - 1)) ∧
      s.p1 = .int (r ^ (n + 1) * f.numerator s.k - r * worth * f.denominator s.k) := by
  obtain ⟨mid, taken⟩ := take_prefix run position
  have emitted := take_emitted radix (n + 1) .fresh
  rw [taken] at emitted
  cases emitted with
  | all length emitted =>
    obtain ⟨m, rfl, settled⟩ := emitted.settled length
    obtain ⟨older, newer⟩ := settled.floor_eq
    rw [Int.cast_pow] at older newer
    exact ⟨_, _, taken, positional_take r position, m.succ_pos, settled.older_ne_zero,
      settled.newer_ne_zero, older, newer, rfl, rfl, rfl, rfl⟩

/-- A fraction whose denominators change their sign from one convergent to the next. -/
def alternating : ContinuedFraction where
  a := fun k => if k = 0 then 1 else -3
  b := fun _ => 1
  limit := 20

/-- Terms of both signs. -/
theorem take_holds_alternating : ∃ s : State,
    Stream.fresh.take alternating 2 = ([0, 6], none, .running s) ∧
      ⌊((10 : Int) : ℚ) ^ 1 * alternating.convergent (s.k - 1)⌋ = 6 ∧
      s.q0 = .int (alternating.denominator (s.k - 1)) := by
  have run : Stream.fresh.take alternating 2 = ([0, 6], none, _) := rfl
  obtain ⟨s, worth, taken, sum, _, _, _, older, _, denominator, _⟩ :=
    take_holds rfl run (show 1 < 2 by decide)
  exact ⟨s, taken, older.trans sum, denominator⟩

end NumericKernel.ContinuedFraction

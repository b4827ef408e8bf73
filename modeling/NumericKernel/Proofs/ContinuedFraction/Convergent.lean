import Mathlib.Data.Rat.Floor
import Mathlib.Tactic.FieldSimp
import Mathlib.Tactic.Linarith
import Mathlib.Tactic.Positivity
import NumericKernel.ContinuedFraction.Expansion

/-!
# Convergents

The convergents of a continued fraction by their recurrence, apart from any state of
the expansion.  Where the later terms are regular, the denominators are positive and
two successive convergents in a half-open interval keep all later ones in it:

* `Regular.denominator_pos`;
* `Regular.within`: the nesting of the convergents;
* `floor_convergent_eq_iff`: the interval as an integer part.
-/

namespace NumericKernel.ContinuedFraction

/-- The numerator of the convergent of an index. -/
def numerator (f : ContinuedFraction) : Nat → Int
  | 0 => f.a 0
  | 1 => f.a 1 * f.a 0 + f.b 1
  | j + 2 => f.a (j + 2) * numerator f (j + 1) + f.b (j + 2) * numerator f j

/-- The denominator of the convergent of an index. -/
def denominator (f : ContinuedFraction) : Nat → Int
  | 0 => 1
  | 1 => f.a 1
  | j + 2 => f.a (j + 2) * denominator f (j + 1) + f.b (j + 2) * denominator f j

/-- A convergent as a fraction. -/
def convergent (f : ContinuedFraction) (j : Nat) : ℚ := f.numerator j / f.denominator j

/-- From index one on the partial denominators are positive and the partial
numerators are not negative. -/
structure Regular (f : ContinuedFraction) : Prop where
  one_le_a : ∀ k, 1 ≤ k → 1 ≤ f.a k
  zero_le_b : ∀ k, 1 ≤ k → 0 ≤ f.b k

variable {f : ContinuedFraction}

/-- The denominators of a regular fraction are positive. -/
theorem Regular.denominator_pos (regular : Regular f) (j : Nat) :
    0 < f.denominator j ∧ 0 < f.denominator (j + 1) := by
  induction j with
  | zero =>
    have first := regular.one_le_a 1 (Nat.le_refl 1)
    exact ⟨Int.one_pos, first⟩
  | succ j ih =>
    have a := regular.one_le_a (j + 2) (by omega)
    have b := regular.zero_le_b (j + 2) (by omega)
    have grown : 0 < f.a (j + 2) * f.denominator (j + 1) := mul_pos a ih.2
    have added : 0 ≤ f.b (j + 2) * f.denominator j := mul_nonneg b ih.1.le
    exact ⟨ih.2, by rw [denominator]; omega⟩

/-! ## Nesting -/

/-- The convergent of an index, scaled, lies between an integer and the next one. -/
def Within (f : ContinuedFraction) (scale : Int) (whole : Int) (j : Nat) : Prop :=
  whole * f.denominator j ≤ scale * f.numerator j ∧
    scale * f.numerator j < (whole + 1) * f.denominator j

/-- Both bounds are linear, so they pass from two convergents to the next one. -/
theorem Regular.within_step (regular : Regular f) {scale whole : Int} {j : Nat}
    (older : Within f scale whole j) (newer : Within f scale whole (j + 1)) :
    Within f scale whole (j + 2) := by
  have a := regular.one_le_a (j + 2) (by omega)
  have b := regular.zero_le_b (j + 2) (by omega)
  constructor
  · have newerLow := mul_le_mul_of_nonneg_left newer.1 (show 0 ≤ f.a (j + 2) by omega)
    have olderLow := mul_le_mul_of_nonneg_left older.1 b
    rw [numerator, denominator]
    linarith
  · have newerHigh := mul_lt_mul_of_pos_left newer.2 (show 0 < f.a (j + 2) by omega)
    have olderHigh := mul_le_mul_of_nonneg_left older.2.le b
    rw [numerator, denominator]
    linarith

/-- Two successive convergents in an interval keep all later ones in it. -/
theorem Regular.within (regular : Regular f) {scale whole : Int} {m : Nat}
    (older : Within f scale whole m) (newer : Within f scale whole (m + 1)) {j : Nat}
    (later : m ≤ j) : Within f scale whole j := by
  obtain ⟨d, rfl⟩ := Nat.exists_eq_add_of_le later
  have both : Within f scale whole (m + d) ∧ Within f scale whole (m + d + 1) := by
    induction d with
    | zero => exact ⟨older, newer⟩
    | succ d ih =>
      obtain ⟨this, next⟩ := ih (by omega)
      exact ⟨next, regular.within_step this next⟩
  exact both.1

/-- A convergent that keeps its place under a radix-fold finer scale leaves no other
digits than those of the radix. -/
theorem Within.digit_bounded {scale whole r d : Int} {j : Nat} (positive : 0 < f.denominator j)
    (radix : 0 < r) (before : Within f scale whole j)
    (after : Within f (r * scale) (r * whole + d) j) : 0 ≤ d ∧ d < r := by
  have low := mul_le_mul_of_nonneg_left before.1 radix.le
  have high := mul_lt_mul_of_pos_left before.2 radix
  constructor
  · have ordered : r * whole * f.denominator j < (r * whole + d + 1) * f.denominator j := by
      linarith [after.2]
    linarith [lt_of_mul_lt_mul_right ordered positive.le]
  · have ordered : (r * whole + d) * f.denominator j < r * (whole + 1) * f.denominator j := by
      linarith [after.1]
    linarith [lt_of_mul_lt_mul_right ordered positive.le]

/-- The interval of a convergent is its integer part. -/
theorem floor_convergent_eq_iff {j : Nat} (positive : 0 < f.denominator j) (scale whole : Int) :
    ⌊(scale : ℚ) * f.convergent j⌋ = whole ↔ Within f scale whole j := by
  have cast : (0 : ℚ) < f.denominator j := by exact_mod_cast positive
  rw [Int.floor_eq_iff, convergent, ← mul_div_assoc, le_div_iff₀ cast, div_lt_iff₀ cast]
  unfold Within
  norm_cast

end NumericKernel.ContinuedFraction

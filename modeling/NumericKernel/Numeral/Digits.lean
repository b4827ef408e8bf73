import NumericKernel.Numeral.Base

/-!
# Digit lists

The digits of an integer in a base, and the number that a list of digits stands
for.  In a positive base the digits share the sign of the integer; in a negative
base they are never negative.
-/

namespace NumericKernel.Numeral

/-! ## Division by a base -/

/-- The rest and the digit that one division by a base leaves.  The division cuts
toward zero; a negative remainder, which a negative base leaves on a negative
integer, is made up by the magnitude of the base. -/
def divideBy (b v : Int) : Int × Int :=
  let quotient := v.tdiv b
  let remainder := v.tmod b
  if remainder < 0 then (quotient + 1, remainder - b) else (quotient, remainder)

/-- Where an expansion goes on, the division leaves the Euclidean remainder. -/
theorem divideBy_eq {b v : Int} (h : b < 0 ∨ 0 ≤ v) : divideBy b v = (v / b, v % b) := by
  have quotient : v.tdiv b = v / b + if 0 ≤ v ∨ b ∣ v then 0 else b.sign := Int.tdiv_eq_ediv
  have remainder : v.tmod b = v % b - ↑(if 0 ≤ v ∨ b ∣ v then 0 else b.natAbs) :=
    Int.tmod_eq_emod
  unfold divideBy
  by_cases exactly : 0 ≤ v ∨ b ∣ v
  · rw [if_pos exactly] at quotient remainder
    have notNegative : 0 ≤ v % b := by
      rcases exactly with positive | divides
      · rw [← Int.tmod_eq_emod_of_nonneg positive]
        exact Int.tmod_nonneg b positive
      · exact Int.le_of_eq (Int.emod_eq_zero_of_dvd divides).symm
    rw [quotient, remainder, Int.natCast_zero, Int.sub_zero, Int.add_zero]
    exact if_neg (by omega)
  · rw [if_neg exactly] at quotient remainder
    have negative : b < 0 := by omega
    have small := Int.emod_lt v (show b ≠ 0 by omega)
    rw [Int.sign_eq_neg_one_of_neg negative] at quotient
    rw [quotient, remainder, if_pos (by omega)]
    exact Prod.ext (by simp only; omega) (by simp only; omega)

/-- Division by a base keeps an integer where the expansion goes on to be possible. -/
theorem divideBy_admissible {b v : Int} (h : b < 0 ∨ 0 ≤ v) : b < 0 ∨ 0 ≤ (divideBy b v).1 := by
  rw [divideBy_eq h]
  rcases Int.lt_or_le b 0 with low | high
  · exact .inl low
  · exact .inr (Int.ediv_nonneg (by omega) high)

/-- Division by a base makes an integer smaller, where a negative integer counts
for slightly more than its magnitude: minus one leaves one. -/
theorem divideBy_smaller {b v : Int} (base : 2 ≤ b.natAbs) (h : b < 0 ∨ 0 ≤ v) (nonzero : v ≠ 0) :
    2 * (divideBy b v).1.natAbs + (if (divideBy b v).1 < 0 then 1 else 0) <
      2 * v.natAbs + (if v < 0 then 1 else 0) := by
  rw [divideBy_eq h]
  dsimp only
  have whole := Int.mul_ediv_add_emod v b
  have low := Int.emod_nonneg v (show b ≠ 0 by omega)
  have high := Int.emod_lt v (show b ≠ 0 by omega)
  generalize v / b = q at *
  generalize v % b = r at *
  rcases Int.lt_or_le b 0 with negative | positive
  · rcases Int.lt_or_le 0 q with up | down
    · have scaled : 0 ≤ (-b - 2) * (q - 1) := Int.mul_nonneg (by omega) (by omega)
      have : (-b - 2) * (q - 1) = -(b * q) - 2 * q + b + 2 := by
        simp only [Int.sub_mul, Int.mul_sub, Int.neg_mul]; omega
      split <;> split <;> omega
    · have scaled : 0 ≤ (-b - 2) * -q := Int.mul_nonneg (by omega) (by omega)
      have : (-b - 2) * -q = b * q + 2 * q := by
        simp only [Int.sub_mul, Int.mul_neg, Int.neg_mul]; omega
      split <;> split <;> omega
  · have notNegative : 0 ≤ v := by omega
    have quotient : 0 ≤ q := by
      apply Int.le_of_not_gt
      intro below
      have : b * q ≤ b * (-1) := Int.mul_le_mul_of_nonneg_left (by omega) positive
      omega
    have scaled : 0 ≤ (b - 2) * q := Int.mul_nonneg (by omega) quotient
    have : (b - 2) * q = b * q - 2 * q := by simp only [Int.sub_mul]
    split <;> split <;> omega

/-! ## From an integer to digits -/

/-- The digits by repeated division, the least significant first; zero has none. -/
def lowFirst (b : Base) (v : Int) (h : b.val < 0 ∨ 0 ≤ v) : List Int :=
  if v = 0 then []
  else (divideBy b.val v).2 :: lowFirst b (divideBy b.val v).1 (divideBy_admissible h)
termination_by 2 * v.natAbs + (if v < 0 then 1 else 0)
decreasing_by exact divideBy_smaller b.two_le h ‹_›

/-- The digits of an integer, the most significant first. -/
def digits (b : Base) (v : Int) : List Int :=
  if v = 0 then [0]
  else if h : b.val < 0 then (lowFirst b v (.inl h)).reverse
  else
    let magnitude := (lowFirst b v.natAbs (.inr (Int.natCast_nonneg _))).reverse
    if v < 0 then magnitude.map (- ·) else magnitude

/-! ## From digits to a number -/

/-- The digits weighted by the powers of the base and added from the most
significant one on. -/
def sumFrom (b : Base) (first : Number) : List Number → Except Fault Number
  | [] => .ok first
  | digit :: rest => do
    let term ← (Number.int (Int.pow b.val rest.length)).mul digit
    sumFrom b (← first.add term) rest

/-- The number that digits of any size and kind stand for. -/
def value (b : Base) (digits : List Number) : Except Fault Number := sumFrom b (.int 0) digits

end NumericKernel.Numeral

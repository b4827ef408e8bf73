import Mathlib.Algebra.BigOperators.Fin
import NumericKernel.Proofs.Arithmetic.Integer
import NumericKernel.Proofs.Numeral.Digits

/-!
# The weights of digits

A digit is weighted by the power of the base whose exponent counts the digits behind it.  A
loop over the positions takes this exponent from the length of the whole list, so digits that
are appended shift the weights of all digits before them.  All the same the sum can be taken
from the left by Horner's rule, which does not know the length.

* `value_eq_weightedSum`: the loop over the positions, with its powers, gives the number that
  digits of either kind stand for;
* `positional_eq_sum`, `positional_eq_horner`: the same number of integer digits as a sum over
  the positions and by Horner's rule;
* `ofDigits_append_horner`: the call on digits, one list behind the other.
-/

namespace NumericKernel.Numeral

/-! ## The loop over the positions -/

/-- The digits from a position on, weighted and added to the sum of those before it.  The
exponent of a weight is counted back from the last position of the whole list. -/
def weighFrom (b : Int) (length position : Nat) (sum : Number) : List Number → Except Fault Number
  | [] => .ok sum
  | digit :: rest => do
    let weight ← (Number.int b).power (.int (length - 1 - position))
    let term ← weight.mul digit
    weighFrom b length (position + 1) (← sum.add term) rest

/-- The sum of the weighted digits, by the loop over their positions. -/
def weightedSum (b : Int) (digits : List Number) : Except Fault Number :=
  weighFrom b digits.length 0 (.int 0) digits

/-- At every position the exponent counts the digits that are still to come, so it is never
negative and its power is exact. -/
theorem weighFrom_eq_sumFrom (b : Base) {length position : Nat} {digits : List Number}
    (places : length = position + digits.length) (sum : Number) :
    weighFrom b.val length position sum digits = sumFrom b sum digits := by
  induction digits generalizing position sum with
  | nil => rfl
  | cons digit rest ih =>
    rw [List.length_cons] at places
    have exponent : (length : Int) - 1 - position = rest.length := by omega
    have later : length = position + 1 + rest.length := by omega
    rw [weighFrom, sumFrom, exponent, Number.power_int, ok_bind]
    simp only [ih later]
    rfl

/-- The loop over the positions gives the number that the digits stand for. -/
theorem value_eq_weightedSum (b : Base) (digits : List Number) :
    value b digits = weightedSum b.val digits :=
  (weighFrom_eq_sumFrom b (Nat.zero_add _).symm (.int 0)).symm

/-! ## Integer digits -/

/-- Integer digits stand for the sum of their weighted values. -/
theorem positional_eq_sum (b : Int) (ds : List Int) :
    positional b ds = ∑ i : Fin ds.length, b ^ (ds.length - 1 - i) * ds.get i := by
  induction ds with
  | nil => rfl
  | cons d rest ih =>
    -- behind the first digit the exponents are those of the rest alone
    have behind (i : Fin rest.length) : rest.length - 1 - i = rest.length - (i + 1) := by omega
    rw [positional, ih]
    refine ((Fin.sum_univ_succ _).trans ?_).symm
    simp [behind]

/-- The number that has been read is multiplied by the base before each digit is added. -/
def horner (b : Int) (ds : List Int) : Int := ds.foldl (fun n d => n * b + d) 0

/-- Digits that are read after a number shift it by one place each. -/
theorem foldl_horner (b n : Int) (ds : List Int) :
    ds.foldl (fun n d => n * b + d) n = n * b ^ ds.length + positional b ds := by
  induction ds generalizing n with
  | nil => simp [positional]
  | cons d rest ih =>
    rw [List.foldl_cons, ih, List.length_cons, positional]
    ring

/-- Integer digits stand for what Horner's rule gives. -/
theorem positional_eq_horner (b : Int) (ds : List Int) : positional b ds = horner b ds := by
  rw [horner, foldl_horner, Int.zero_mul, Int.zero_add]

/-! ## The call -/

/-- Integer digits of any size stand for an exact integer in every base of magnitude two or
more, whatever its sign.  Digits that are appended shift the number before them by one place
each.  The sum over the positions, computed with a power for every weight, is the one by
Horner's rule. -/
theorem ofDigits_append_horner (b : Int) (base : 2 ≤ |b|) :
    (∀ xs ys : List Int, ∃ x y : Int,
      Operation.ofDigits (xs.map .int) b = .ok (.int x) ∧
      Operation.ofDigits (ys.map .int) b = .ok (.int y) ∧
      Operation.ofDigits ((xs ++ ys).map .int) b = .ok (.int (x * b ^ ys.length + y))) ∧
    ∀ ds : List Int,
      Operation.ofDigits (ds.map .int) b = weightedSum b (ds.map .int) ∧
      weightedSum b (ds.map .int) =
        .ok (.int (∑ i : Fin ds.length, b ^ (ds.length - 1 - i) * ds.get i)) ∧
      ∑ i : Fin ds.length, b ^ (ds.length - 1 - i) * ds.get i = horner b ds := by
  have two : 2 ≤ b.natAbs := by
    rw [Int.abs_eq_natAbs] at base
    exact_mod_cast base
  have read (ds : List Int) := ofDigits_int ds two
  refine ⟨fun xs ys => ⟨positional b xs, positional b ys, read xs, read ys, ?_⟩,
    fun ds => ?_⟩
  · rw [read, positional_append]
  · have weighed : weightedSum b (ds.map .int) = .ok (.int (positional b ds)) := by
      rw [← value_int ⟨b, two⟩, value_eq_weightedSum]
    rw [← positional_eq_sum]
    exact ⟨(read ds).trans weighed.symm, weighed, positional_eq_horner b ds⟩

/-- Digits of both signs, two of them beyond the magnitude of the base, in a negative base. -/
theorem ofDigits_append_horner_minus_three : 2 ≤ |(-3 : Int)| ∧
    Operation.ofDigits ([2, -7, 10, 0].map .int) (-3 : Int) = .ok (.int (-147)) ∧
    weightedSum (-3) ([2, -7, 10, 0].map .int) = .ok (.int (-147)) ∧
    ∃ x y : Int,
      Operation.ofDigits ([2, -7].map .int) (-3 : Int) = .ok (.int x) ∧
      Operation.ofDigits ([10, 0].map .int) (-3 : Int) = .ok (.int y) ∧
      x * (-3) ^ 2 + y = -147 := by
  obtain ⟨appended, sums⟩ := ofDigits_append_horner (-3) (by decide)
  obtain ⟨x, y, first, second, both⟩ := appended [2, -7] [10, 0]
  obtain ⟨loop, total, left⟩ := sums [2, -7, 10, 0]
  have read : horner (-3) [2, -7, 10, 0] = -147 := by decide
  rw [left, read] at total
  have whole := both.symm.trans (loop.trans total)
  exact ⟨by decide, loop.trans total, total, x, y, first, second,
    Number.int.inj (Except.ok.inj whole)⟩

end NumericKernel.Numeral

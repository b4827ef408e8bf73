import Mathlib.Algebra.Group.Int.Defs
import NumericKernel.Arithmetic.Division
import NumericKernel.Arithmetic.Power
import NumericKernel.Proofs.Computation

/-!
# Arithmetic of integers

Two integers are always finite operands, so quotient and remainder fail at a zero
divisor only and are the floored ones otherwise, and an exponent that is not negative
gives the exact power.
-/

namespace NumericKernel

namespace Number

/-! ## Tests of operands -/

theorem requireFinite_int (n : Int) : (Number.int n).requireFinite = .ok () := rfl

theorem equal_int (m n : Int) : (Number.int m).equal (.int n) = decide (m = n) := by
  change (some (compare m n) == some .eq) = decide (m = n)
  rw [Bool.eq_iff_iff, beq_iff_eq, Option.some_inj, Std.compare_eq_iff_eq, decide_eq_true_iff]

theorem less_int (m n : Int) : (Number.int m).less (.int n) = decide (m < n) := by
  change (some (compare m n) == some .lt) = decide (m < n)
  rw [Bool.eq_iff_iff, beq_iff_eq, Option.some_inj, Std.compare_eq_lt, decide_eq_true_iff]

theorem isZero_int (n : Int) : (Number.int n).isZero = decide (n = 0) := equal_int n 0

theorem isNegative_int (n : Int) : (Number.int n).isNegative = decide (n < 0) := less_int n 0

/-! ## Exact results -/

/-- The complement of a remainder of integers, which zero does not have. -/
theorem complement_int (remainder divisor : Int) :
    complement (.int remainder) (.int divisor) =
      .ok (.int (if remainder = 0 then 0 else divisor - remainder)) := by
  unfold complement
  rw [isZero_int, sub_int]
  by_cases exactly : remainder = 0
  · rw [decide_eq_true exactly, if_pos exactly, exactly]
    rfl
  · rw [decide_eq_false exactly, if_neg exactly]
    rfl

/-- The remainder of a dividend from that of its opposite. -/
theorem fmod_complement {n : Int} (m : Int) (positive : 0 < n) :
    m.fmod n = if (-m).fmod n = 0 then 0 else n - (-m).fmod n := by
  have nonneg := Int.le_of_lt positive
  have turned := @Int.neg_emod (-m) n
  rw [Int.neg_neg, Int.natAbs_of_nonneg nonneg] at turned
  rw [Int.fmod_eq_emod_of_nonneg m nonneg, Int.fmod_eq_emod_of_nonneg (-m) nonneg, turned]
  exact if_congr Int.dvd_iff_emod_eq_zero rfl rfl

/-- Whatever the signs are, the remainder is the floored one. -/
theorem integerMod_eq (m n : Int) : integerMod m n = .ok (.int (m.fmod n)) := by
  unfold integerMod
  split_ifs with both dividend divisor
  · rw [Int.neg_fmod_neg]
    exact congrArg (fun r => Except.ok (Number.int r)) (Int.neg_neg _)
  · rw [complement_int, ← fmod_complement m dividend.2]
  · -- the remainder of the opposite operands, of which the dividend is below zero
    have opposite := fmod_complement (-m) (Int.neg_pos_of_neg divisor.2)
    rw [Int.neg_neg, Int.neg_fmod_neg] at opposite
    rw [complement_int, ok_bind, ← opposite]
    exact congrArg (fun r => Except.ok (Number.int r)) (Int.neg_neg _)
  · rfl

theorem mod_int {n : Int} (m : Int) (nonzero : n ≠ 0) :
    (Number.int m).mod (.int n) = .ok (.int (m.fmod n)) := by
  rw [← integerMod_eq]
  unfold mod
  rw [requireFinite_int, requireFinite_int, isZero_int, decide_eq_false nonzero]
  rfl

theorem divide_int {n : Int} (m : Int) (nonzero : n ≠ 0) :
    (Number.int m).divide (.int n) = .ok (m.fdiv n) := by
  unfold divide
  rw [requireFinite_int, requireFinite_int, isZero_int, decide_eq_false nonzero]
  rfl

theorem divide_natCast {n : Nat} (m : Nat) (nonzero : n ≠ 0) :
    (Number.int m).divide (.int n) = .ok (m / n : Nat) := by
  rw [divide_int m (Int.natCast_ne_zero.2 nonzero),
    Int.fdiv_eq_ediv_of_nonneg _ (Int.natCast_nonneg n), Int.natCast_ediv]

/-- A natural exponent gives the exact power. -/
theorem power_int (base : Int) (exponent : Nat) :
    (Number.int base).power (.int exponent) = .ok (.int (base ^ exponent)) := by
  have nonneg : ¬ (exponent : Int) < 0 := by omega
  have whole := integerPower_eq base exponent
  unfold power
  rw [requireFinite_int, requireFinite_int, isNegative_int, decide_eq_false nonneg]
  exact congrArg (fun n => Except.ok (Number.int n)) whole

end Number

end NumericKernel

import Mathlib.Algebra.Order.Group.Unbundled.Int
import NumericKernel.Operation
import NumericKernel.Proofs.Arithmetic.Integer

/-!
# Quotient and remainder of integers

The quotient is floored at once, and the remainder is made up from that of the magnitudes.
They fit together for operands of any sign: the remainder lies between zero and the divisor,
and a multiple of the divisor, added to the dividend, goes into the quotient alone.

* `fmod_between`, `sign_fmod`, `abs_fmod_lt`: where the remainder lies;
* `divide_mod_int`: both calls, with a zero divisor as well.
-/

namespace NumericKernel.Number

/-! ## Where the remainder lies -/

/-- A remainder lies between zero and its divisor, the divisor itself left out. -/
theorem fmod_between {b : Int} (a : Int) (nonzero : b ≠ 0) :
    (0 ≤ a.fmod b ∧ a.fmod b < b) ∨ (b < a.fmod b ∧ a.fmod b ≤ 0) := by
  rcases Int.lt_or_gt_of_ne nonzero with negative | positive
  · -- the opposite operands have the opposite remainder
    have opposite := Int.neg_fmod_neg a b
    have low := Int.fmod_nonneg_of_pos (-a) (Int.neg_pos_of_neg negative)
    have high := Int.fmod_lt_of_pos (-a) (Int.neg_pos_of_neg negative)
    exact .inr ⟨by omega, by omega⟩
  · exact .inl ⟨Int.fmod_nonneg_of_pos a positive, Int.fmod_lt_of_pos a positive⟩

/-- A remainder other than zero has the sign of the divisor. -/
theorem sign_fmod {b : Int} (a : Int) (nonzero : b ≠ 0) :
    a.fmod b = 0 ∨ (a.fmod b).sign = b.sign := by
  rcases fmod_between a nonzero with ⟨low, high⟩ | ⟨low, high⟩
  · rcases Int.lt_or_eq_of_le low with positive | zero
    · right
      rw [Int.sign_eq_one_of_pos positive, Int.sign_eq_one_of_pos (Int.lt_trans positive high)]
    · exact .inl zero.symm
  · rcases Int.lt_or_eq_of_le high with negative | zero
    · right
      rw [Int.sign_eq_neg_one_of_neg negative,
        Int.sign_eq_neg_one_of_neg (Int.lt_trans low negative)]
    · exact .inl zero

/-- A remainder is smaller than its divisor. -/
theorem abs_fmod_lt {b : Int} (a : Int) (nonzero : b ≠ 0) : |a.fmod b| < |b| := by
  have between := fmod_between a nonzero
  rw [Int.abs_eq_natAbs, Int.abs_eq_natAbs]
  omega

/-! ## The calls -/

theorem divide_zero (a : Int) :
    (Number.int a).divide (.int 0) = .error (.quotientByZero (.int a) (.int 0)) := rfl

theorem mod_zero (a : Int) :
    (Number.int a).mod (.int 0) = .error (.moduloByZero (.int a) (.int 0)) := rfl

/-- The quotient times the divisor and the remainder make up the dividend.  The remainder is
zero or has the sign of the divisor, and its magnitude is smaller.  A multiple of the
divisor that is added to the dividend is added to the quotient and leaves the remainder as
it is.  Division by zero is refused by both calls. -/
theorem divide_mod_int :
    (∀ a b : Int, b ≠ 0 → ∃ q r : Int,
      Operation.divide (.number (.int a)) (.number (.int b)) = .ok q ∧
      Operation.mod (.number (.int a)) (.number (.int b)) = .ok (.int r) ∧
      q * b + r = a ∧ (r = 0 ∨ r.sign = b.sign) ∧ |r| < |b| ∧
      ∀ t : Int,
        Operation.divide (.number (.int (a + t * b))) (.number (.int b)) = .ok (q + t) ∧
        Operation.mod (.number (.int (a + t * b))) (.number (.int b)) = .ok (.int r)) ∧
    ∀ a : Int, ∃ quotient remainder : Fault,
      Operation.divide (.number (.int a)) (.number (.int 0)) = .error quotient ∧
      Operation.mod (.number (.int a)) (.number (.int 0)) = .error remainder ∧
      quotient.kind = .divisionByZero ∧ remainder.kind = .divisionByZero := by
  refine ⟨fun a b nonzero => ?_, fun a => ⟨_, _, divide_zero a, mod_zero a, rfl, rfl⟩⟩
  refine ⟨a.fdiv b, a.fmod b, divide_int a nonzero, mod_int a nonzero,
    Int.fdiv_mul_add_fmod a b, sign_fmod a nonzero, abs_fmod_lt a nonzero, fun t => ?_⟩
  rw [← Int.add_mul_fdiv_right a t nonzero, ← Int.add_mul_fmod_self_right a t b]
  exact ⟨divide_int (a + t * b) nonzero, mod_int (a + t * b) nonzero⟩

/-- From a dividend smaller than the divisor to one below zero, with a divisor below zero. -/
theorem divide_mod_int_two_minus_five :
    Operation.divide (.number (.int (-13))) (.number (.int (-5))) = .ok 2 ∧
    Operation.mod (.number (.int (-13))) (.number (.int (-5))) = .ok (.int (-3)) := by
  obtain ⟨q, r, quotient, remainder, -, -, -, shifted⟩ := divide_mod_int.1 2 (-5) (by decide)
  obtain rfl : -1 = q := Except.ok.inj quotient
  obtain rfl : -3 = r := Number.int.inj (Except.ok.inj remainder)
  exact shifted 3

end NumericKernel.Number

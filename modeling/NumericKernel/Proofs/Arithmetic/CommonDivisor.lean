import Mathlib.Algebra.Order.Group.Unbundled.Int
import Mathlib.Data.Nat.GCD.Basic
import NumericKernel.Operation
import NumericKernel.Proofs.Arithmetic.Integer

/-!
# Common divisors and multiples of integers

The answers that are given without an algorithm, for equal operands and for a zero, are a
greatest common divisor as well, but they keep the sign of the operand.  The least common
multiple is a quotient by that divisor, so it is below zero for equal operands below zero,
and for no others.

* `gcd_int`, `lcm_int`: the two calls as functions of integers;
* `gcd_natCast`, `lcm_natCast`: on naturals there is no sign to keep;
* `lcm_int_least`: the least common multiple of operands of any sign.
-/

namespace NumericKernel.Number

/-! ## The common divisor -/

/-- The greatest common divisor with the sign that it keeps. -/
def signedGcd (a b : Int) : Int :=
  if a = b then a else if b = 0 then a else if a = 0 then b else Int.gcd a b

/-- The call on integers gives the common divisor with its sign. -/
theorem gcd_int (a b : Int) : (Number.int a).gcd (.int b) = .ok (.int (signedGcd a b)) := by
  unfold gcd signedGcd
  rw [requireFinite_int, requireFinite_int, ok_bind, ok_bind, equal_int, isZero_int, isZero_int]
  simp only [decide_eq_true_eq]
  split_ifs <;> rfl

theorem natAbs_signedGcd (a b : Int) : (signedGcd a b).natAbs = Int.gcd a b := by
  unfold signedGcd
  split_ifs with same second first
  · rw [same, Int.gcd_self]
  · rw [second, Int.gcd_zero_right]
  · rw [first, Int.gcd_zero_left]
  · rfl

theorem signedGcd_dvd_left (a b : Int) : signedGcd a b ∣ a := by
  rw [← Int.natAbs_dvd, natAbs_signedGcd]
  exact Int.gcd_dvd_left a b

theorem signedGcd_dvd_right (a b : Int) : signedGcd a b ∣ b := by
  rw [← Int.natAbs_dvd, natAbs_signedGcd]
  exact Int.gcd_dvd_right a b

theorem dvd_signedGcd {a b c : Int} (first : c ∣ a) (second : c ∣ b) : c ∣ signedGcd a b := by
  rw [← Int.dvd_natAbs, natAbs_signedGcd]
  exact Int.dvd_coe_gcd first second

theorem signedGcd_eq_zero_iff (a b : Int) : signedGcd a b = 0 ↔ a = 0 ∧ b = 0 := by
  rw [← Int.natAbs_eq_zero, natAbs_signedGcd, Int.gcd_eq_zero_iff]

/-- A sign is kept only where the operands are one number below zero, or this and zero. -/
theorem signedGcd_eq_iff_of_neg (a b : Int) {d : Int} (negative : d < 0) :
    signedGcd a b = d ↔ (a = 0 ∨ a = d) ∧ (b = 0 ∨ b = d) ∧ ¬ (a = 0 ∧ b = 0) := by
  unfold signedGcd
  split_ifs <;> omega

theorem signedGcd_natCast (m n : Nat) : signedGcd m n = (m.gcd n : Nat) := by
  have magnitude := natAbs_signedGcd m n
  rw [Int.gcd_natCast_natCast] at magnitude
  rcases Int.lt_or_le (signedGcd m n) 0 with negative | nonneg
  · have kept := (signedGcd_eq_iff_of_neg m n negative).1 rfl
    omega
  · omega

/-- The call on naturals gives their greatest common divisor. -/
theorem gcd_natCast (m n : Nat) : (Number.int m).gcd (.int n) = .ok (.int (m.gcd n)) := by
  rw [gcd_int, signedGcd_natCast]

/-! ## The common multiple -/

/-- The least common multiple with the sign that the divisor brings in. -/
def signedLcm (a b : Int) : Int := if a = b ∧ a < 0 then a else Int.lcm a b

theorem natAbs_signedLcm (a b : Int) : (signedLcm a b).natAbs = Int.lcm a b := by
  unfold signedLcm
  split_ifs with equal
  · rw [← equal.1, Int.lcm_self]
  · rfl

theorem signedLcm_neg_iff (a b : Int) : signedLcm a b < 0 ↔ a = b ∧ a < 0 := by
  unfold signedLcm
  split_ifs <;> omega

theorem signedLcm_abs (a b : Int) : signedLcm |a| |b| = |signedLcm a b| := by
  have nonneg := abs_nonneg a
  rw [signedLcm, if_neg (by omega), Int.abs_eq_natAbs (signedLcm a b), natAbs_signedLcm, Int.lcm,
    Int.natAbs_abs, Int.natAbs_abs]
  rfl

/-- The product without its sign, over the common divisor, is the common multiple. -/
theorem fdiv_signedGcd (a b : Int) : Int.fdiv (a * b).natAbs (signedGcd a b) = signedLcm a b := by
  rcases Int.lt_or_le (signedGcd a b) 0 with negative | nonneg
  · -- the operands are the divisor itself, or zero
    obtain ⟨first, second, _⟩ := (signedGcd_eq_iff_of_neg a b negative).1 rfl
    generalize signedGcd a b = d at *
    rcases first with rfl | rfl
    · rw [Int.zero_mul, signedLcm, if_neg (by omega), Int.lcm_zero_left]
      exact Int.zero_fdiv d
    rcases second with rfl | rfl
    · rw [Int.mul_zero, signedLcm, if_neg (by omega), Int.lcm_zero_right]
      exact Int.zero_fdiv a
    · rw [Int.natAbs_mul, Int.natAbs_mul_self, Int.mul_fdiv_cancel b (by omega), signedLcm,
        if_pos ⟨rfl, negative⟩]
  · have different : ¬ (a = b ∧ a < 0) := fun equal => by
      have kept := (signedGcd_eq_iff_of_neg a b equal.2).2 (by omega)
      omega
    have magnitude := natAbs_signedGcd a b
    have divisor : signedGcd a b = Int.gcd a b := by omega
    rw [signedLcm, if_neg different, Int.lcm_eq_mul_div, divisor, Int.natAbs_mul,
      Int.fdiv_eq_ediv_of_nonneg _ (Int.natCast_nonneg _), ← Int.natCast_ediv]

/-- The call on integers gives the common multiple with its sign. -/
theorem lcm_int {a b : Int} (nonzero : ¬ (a = 0 ∧ b = 0)) :
    (Number.int a).lcm (.int b) = .ok (.int (signedLcm a b)) := by
  have divisor := (signedGcd_eq_zero_iff a b).not.2 nonzero
  unfold lcm
  rw [gcd_int, ok_bind, isZero_int, decide_eq_false divisor, mul_int, ok_bind]
  exact congrArg (fun m => Except.ok (Number.int m)) (fdiv_signedGcd a b)

theorem lcm_zero : (Number.int 0).lcm (.int 0) = .error (.multipleOfZeros (.int 0) (.int 0)) := rfl

/-- The call on naturals gives their least common multiple. -/
theorem lcm_natCast {m n : Nat} (nonzero : m.gcd n ≠ 0) :
    (Number.int m).lcm (.int n) = .ok (.int (m.lcm n)) := by
  have divisor : ¬ ((m : Int) = 0 ∧ (n : Int) = 0) := by
    rw [Int.natCast_eq_zero, Int.natCast_eq_zero, ← Nat.gcd_eq_zero_iff]
    exact nonzero
  have positive : ¬ ((m : Int) = n ∧ (m : Int) < 0) := by omega
  rw [lcm_int divisor, signedLcm, if_neg positive, Int.lcm_natCast_natCast]

/-! ## The calls -/

/-- Of operands that are not both zero the call gives the least common multiple, up to its
sign.  It is that of the magnitudes, and so not below zero, unless the operands are one number
below zero, which is returned as it is.  Two zeros are refused. -/
theorem lcm_int_least (a b : Int) :
    (¬ (a = 0 ∧ b = 0) → ∃ m : Int,
      Operation.lcm (.number (.int a)) (.number (.int b)) = .ok (.int m) ∧
      a ∣ m ∧ b ∣ m ∧ (∀ c : Int, a ∣ c → b ∣ c → m ∣ c) ∧
      Operation.lcm (.number (.int |a|)) (.number (.int |b|)) = .ok (.int |m|) ∧
      (0 ≤ m ↔ ¬ (a = b ∧ a < 0))) ∧
    (a = 0 ∧ b = 0 → ∃ fault,
      Operation.lcm (.number (.int a)) (.number (.int b)) = .error fault ∧
      fault.kind = .divisionByZero) := by
  constructor
  · intro nonzero
    refine ⟨signedLcm a b, lcm_int nonzero, ?_, ?_, fun c first second => ?_, ?_, ?_⟩
    · rw [← Int.dvd_natAbs, natAbs_signedLcm]
      exact Int.dvd_lcm_left a b
    · rw [← Int.dvd_natAbs, natAbs_signedLcm]
      exact Int.dvd_lcm_right a b
    · rw [← Int.natAbs_dvd, natAbs_signedLcm]
      exact Int.coe_lcm_dvd first second
    · have magnitudes : ¬ (|a| = 0 ∧ |b| = 0) := by rwa [abs_eq_zero, abs_eq_zero]
      rw [← signedLcm_abs]
      exact lcm_int magnitudes
    · rw [← signedLcm_neg_iff, Int.not_lt]
  · intro zero
    obtain ⟨rfl, rfl⟩ := zero
    exact ⟨_, lcm_zero, rfl⟩

/-- Operands of different signs have the common multiple of their magnitudes, and two zeros
have none. -/
theorem lcm_int_least_minus_four_six : (∃ m : Int,
    Operation.lcm (.number (.int (-4))) (.number (.int 6)) = .ok (.int m) ∧ 0 ≤ m ∧ m ∣ 24 ∧
    Operation.lcm (.number (.int 4)) (.number (.int 6)) = .ok (.int m)) ∧
    ∃ fault, Operation.lcm (.number (.int 0)) (.number (.int 0)) = .error fault ∧
      fault.kind = .divisionByZero := by
  obtain ⟨m, found, _, _, least, magnitudes, sign⟩ := (lcm_int_least (-4) 6).1 (by decide)
  have nonneg : 0 ≤ m := sign.2 (by decide)
  rw [abs_of_nonneg nonneg] at magnitudes
  exact ⟨⟨m, found, nonneg, least 24 (by decide) (by decide), magnitudes⟩,
    (lcm_int_least 0 0).2 ⟨rfl, rfl⟩⟩

/-- Equal operands below zero have a multiple below zero, and their magnitudes do not. -/
theorem lcm_int_equal_negatives :
    Operation.lcm (.number (.int (-4))) (.number (.int (-4))) = .ok (.int (-4)) ∧
    Operation.lcm (.number (.int 4)) (.number (.int 4)) = .ok (.int 4) := ⟨rfl, rfl⟩

end NumericKernel.Number

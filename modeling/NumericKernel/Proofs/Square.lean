import Mathlib.Algebra.Order.Ring.Nat
import Mathlib.Algebra.Order.Ring.Unbundled.Basic
import Mathlib.Data.Nat.Sqrt
import NumericKernel.Operation

/-!
# The iteration for a square root

The iteration starts above the root of a number and falls, since each value above the root
has a smaller one after it, and none falls below the root.  So no value comes again before
the root is met.  If the root is not exact, the value after it is the root itself or the one
above, from which the iteration returns to the root.

* `root_le_next`, `next_lt`, `next_root_cases`: one round, from above the root and from it;
* `iterate_falling`: where the iteration ends;
* `isSquare_int`: the call for an integer of any sign.
-/

namespace NumericKernel.Square

variable {n x : Nat} {met : List Nat}

/-! ## One round -/

/-- The mean of a value and its cofactor is not below the root. -/
theorem root_le_next (positive : 0 < x) : n.sqrt ≤ next n x := by
  have cofactor : 2 * n.sqrt - x ≤ n / x := by
    rcases Nat.le_total x (2 * n.sqrt) with low | high
    · have mean := four_mul_le_sq_add (2 * n.sqrt - x) x
      rw [Nat.sub_add_cancel low, Nat.mul_pow, Nat.mul_assoc] at mean
      have square := Nat.sqrt_le' n
      rw [Nat.le_div_iff_mul_le positive]
      omega
    · rw [Nat.sub_eq_zero_of_le high]
      exact Nat.zero_le _
  rw [next, Nat.le_div_iff_mul_le Nat.two_pos]
  omega

/-- Above the root the iteration falls. -/
theorem next_lt (above : n.sqrt < x) : next n x < x := by
  have cofactor : n / x < x := (Nat.div_lt_iff_lt_mul (by omega)).2 (Nat.sqrt_lt.1 above)
  unfold next
  omega

/-- From the root the iteration stays there or goes up by one, and this only if the next
number is a square. -/
theorem next_root_cases (positive : 0 < n.sqrt) :
    next n n.sqrt = n.sqrt ∨
      next n n.sqrt = n.sqrt + 1 ∧ n = n.sqrt * (n.sqrt + 1) + n.sqrt := by
  have low := Nat.sqrt_le n
  have high := Nat.sqrt_le_add n
  have cofactor_ge : n.sqrt ≤ n / n.sqrt := (Nat.le_div_iff_mul_le positive).2 low
  have cofactor_lt : n / n.sqrt < n.sqrt + 3 := by
    rw [Nat.div_lt_iff_lt_mul positive, Nat.add_mul]
    omega
  unfold next
  rcases Nat.lt_or_ge (n / n.sqrt) (n.sqrt + 2) with near | far
  · exact .inl (by omega)
  · have square := (Nat.le_div_iff_mul_le positive).1 far
    rw [Nat.add_mul] at square
    refine .inr ⟨by omega, ?_⟩
    rw [Nat.mul_succ]
    omega

/-- Below a square the iteration returns to the root. -/
theorem next_succ_root (below : n = x * (x + 1) + x) : next n (x + 1) = x := by
  have cofactor : n / (x + 1) = x := by
    rw [below, Nat.mul_comm, Nat.mul_add_div x.succ_pos, Nat.div_eq_of_lt x.lt_succ_self,
      Nat.add_zero]
  rw [next, cofactor]
  omega

/-! ## The iteration -/

/-- The iteration has not gone up: its value is the least so far and not below the root. -/
structure Falling (n : Nat) (met : List Nat) (x : Nat) : Prop where
  root_le : n.sqrt ≤ x
  met_self : x ∈ met
  least : ∀ y ∈ met, x ≤ y

namespace Falling

/-- A round from above the root keeps the iteration falling. -/
theorem step (falling : Falling n met x) (above : n.sqrt < x) :
    Falling n (next n x :: met) (next n x) where
  root_le := root_le_next (by omega)
  met_self := List.mem_cons_self
  least := by
    have smaller := next_lt above
    intro y member
    rcases List.mem_cons.1 member with rfl | earlier
    · exact Nat.le_refl _
    · exact Nat.le_trans (Nat.le_of_lt smaller) (falling.least y earlier)

/-- A value comes again at the root only. -/
theorem eq_root (falling : Falling n met x) (again : next n x ∈ met) : x = n.sqrt := by
  have kept := falling.least _ again
  have root := falling.root_le
  by_contra other
  have smaller := next_lt (show n.sqrt < x by omega)
  omega

end Falling

/-- From one above the root the iteration returns to a value that has come. -/
theorem iterate_succ_root (below : n = x * (x + 1) + x) (member : x ∈ met) :
    iterate n met (x + 1) = .recurrence := by
  have above : (x + 1) * (x + 1) ≠ n := by
    rw [below, Nat.succ_mul]
    omega
  rw [iterate, if_neg above, if_neg x.succ_ne_zero, next_succ_root below, if_pos member]

/-- The iteration ends at the root of a square, and where a value comes again for any other
number. -/
theorem iterate_falling (positive : 0 < n) (falling : Falling n met x) :
    iterate n met x = if n.sqrt * n.sqrt = n then .root else .recurrence := by
  have root_pos : 0 < n.sqrt := Nat.sqrt_pos.2 positive
  fun_induction iterate n met x with
  | case1 met x root => rw [← root, Nat.sqrt_eq, if_pos rfl]
  | case2 met inexact => exact absurd falling.root_le (by omega)
  | case3 met x other nonzero again =>
    rw [falling.eq_root again] at other
    rw [if_neg other]
  | case4 met x other nonzero fresh ih =>
    rcases Nat.lt_or_eq_of_le falling.root_le with above | root
    · exact ih (falling.step above)
    · have member := falling.met_self
      subst root
      rw [if_neg other]
      rcases next_root_cases root_pos with stays | ⟨rises, below⟩
      · rw [stays] at fresh
        exact absurd member fresh
      · rw [rises]
        exact iterate_succ_root below (List.mem_cons_of_mem _ member)

/-! ## The call -/

theorem root_le_half (two : 2 ≤ n) : n.sqrt ≤ n / 2 := by
  rw [Nat.le_div_iff_mul_le Nat.two_pos]
  rcases Nat.lt_or_ge n.sqrt 2 with small | large
  · omega
  · exact Nat.le_trans (Nat.mul_le_mul_left n.sqrt large) (Nat.sqrt_le n)

/-- From half the number on the iteration falls. -/
theorem iterate_half (two : 2 ≤ n) :
    iterate n [n / 2] (n / 2) = if n.sqrt * n.sqrt = n then .root else .recurrence := by
  refine iterate_falling (by omega) ⟨root_le_half two, List.mem_singleton_self _, ?_⟩
  intro y member
  exact Nat.le_of_eq (List.mem_singleton.1 member).symm

/-- A natural number is a square exactly if its root is exact. -/
theorem exists_root_iff (n : Nat) : (∃ k : Int, (n : Int) = k * k) ↔ n.sqrt * n.sqrt = n := by
  rw [← Nat.exists_mul_self]
  constructor
  · intro square
    obtain ⟨k, root⟩ := square
    refine ⟨k.natAbs, ?_⟩
    rw [← Int.natCast_inj, Int.natAbs_mul_self, root]
  · intro square
    obtain ⟨k, rfl⟩ := square
    exact ⟨k, Int.natCast_mul k k⟩

theorem isSquare_natCast (two : 2 ≤ n) : isSquare n = decide (n.sqrt * n.sqrt = n) := by
  rw [isSquare, if_neg (by omega), if_neg (by omega), Int.toNat_natCast, iterate_half two]
  split <;> simp [*]

theorem not_exists_root {n : Int} (negative : n < 0) : ¬ ∃ k : Int, n = k * k := by
  intro square
  obtain ⟨k, root⟩ := square
  have nonneg := @Int.natAbs_mul_self k
  omega

/-- The call tells the squares of integers from the other integers.  Where it iterates, it
ends at a root or at a value that comes again, and never at a zero by which the next round
would divide. -/
theorem isSquare_int (n : Int) :
    (Operation.isSquare (.number (.int n)) = true ↔ ∃ k : Int, n = k * k) ∧
      (2 ≤ n → iterate n.toNat [n.toNat / 2] (n.toNat / 2) ≠ .zeroDivisor) := by
  change (isSquare n = true ↔ _) ∧ _
  rcases Int.lt_or_le n 2 with small | two
  · refine ⟨?_, by omega⟩
    unfold isSquare
    split
    case isTrue unit =>
      refine iff_of_true rfl ⟨n, ?_⟩
      rcases unit with rfl | rfl <;> rfl
    case isFalse other =>
      have negative : n < 0 := by omega
      rw [if_pos negative]
      exact iff_of_false Bool.false_ne_true (not_exists_root negative)
  · lift n to Nat using by omega
    have two : 2 ≤ n := by omega
    rw [isSquare_natCast two, decide_eq_true_iff, exists_root_iff, Int.toNat_natCast,
      iterate_half two]
    refine ⟨Iff.rfl, fun _ => ?_⟩
    split <;> exact Ending.noConfusion

/-- Between three and four, the roots on either side of fifteen, the iteration goes up again. -/
theorem isSquare_int_fifteen : (¬ ∃ k : Int, (15 : Int) = k * k) ∧
    iterate 15 [7] 7 ≠ .zeroDivisor := by
  have call := isSquare_int 15
  have refused : Operation.isSquare (.number (.int 15)) = false := by decide +kernel
  refine ⟨fun square => ?_, call.2 (by decide)⟩
  exact Bool.false_ne_true (refused.symm.trans (call.1.2 square))

end NumericKernel.Square

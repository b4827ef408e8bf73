import Mathlib.Algebra.BigOperators.Intervals
import NumericKernel.Proofs.ContinuedFraction.Digits

/-!
# Digits to a power of the radix

The same fraction read to a radix and to a power of it.  The two streams settle their
digits at different convergents, so no step of one answers to a step of the other.  They
agree because the digits of both are worth the integer part of all late convergents, in
scales that are equal wherever a coarse digit is complete.

* `Within.unique`: a convergent has one integer part;
* `positional_take_add`: a block of digits behind the first ones;
* `Regular.positional_take_pow`: what the digits of both streams are worth;
* `take_radix_pow`: each coarse digit as a block of fine ones.
-/

namespace NumericKernel.ContinuedFraction

open Numeral (positional positional_concat)

variable {f : ContinuedFraction} {r : Int} {m : Nat} {limit : Int}

/-! ## Convergents of the same terms -/

/-- A convergent has one integer part. -/
theorem Within.unique {scale whole other : Int} {j : Nat} (positive : 0 < f.denominator j)
    (first : Within f scale whole j) (second : Within f scale other j) : whole = other := by
  rw [← floor_convergent_eq_iff positive] at first second
  exact first.symm.trans second

theorem numerator_same_terms (f : ContinuedFraction) (radix : Number) (limit : Int) (j : Nat) :
    numerator { f with radix, limit } j = f.numerator j := by
  fun_induction numerator f j with
  | case1 => rfl
  | case2 => rfl
  | case3 j newer older => rw [numerator, newer, older]

theorem denominator_same_terms (f : ContinuedFraction) (radix : Number) (limit : Int) (j : Nat) :
    denominator { f with radix, limit } j = f.denominator j := by
  fun_induction denominator f j with
  | case1 => rfl
  | case2 => rfl
  | case3 j newer older => rw [denominator, newer, older]

/-- Neither the radix nor the limit on the terms has a part in the convergents. -/
theorem within_same_terms (radix : Number) (scale whole : Int) (j : Nat) :
    Within { f with radix, limit } scale whole j ↔ Within f scale whole j := by
  unfold Within
  rw [numerator_same_terms, denominator_same_terms]

theorem Regular.same_terms (regular : Regular f) (radix : Number) (limit : Int) :
    Regular { f with radix, limit } := ⟨regular.one_le_a, regular.zero_le_b⟩

/-! ## Blocks of digits -/

/-- The digits of a block follow the first ones, whose worth they shift by as many places. -/
theorem positional_take_add (r : Int) {ds : List Int} {n m : Nat} (within : n + m < ds.length) :
    positional r (ds.take (n + m + 1)) = positional r (ds.take (n + 1)) * r ^ m +
      ∑ t ∈ Finset.Icc 1 m, ds.getD (n + t) 0 * r ^ (m - t) := by
  induction m with
  | zero => simp
  | succ m ih =>
    rw [take_succ_getD within, positional_concat, ← Nat.add_assoc, ih (by omega),
      Finset.sum_Icc_succ_top (by omega), Nat.sub_self, pow_zero, mul_one, add_mul, Finset.sum_mul,
      mul_assoc, ← pow_succ, add_assoc]
    congr 2
    refine Finset.sum_congr rfl fun t member => ?_
    have inside := (Finset.mem_Icc.mp member).2
    rw [Nat.succ_sub inside, pow_succ, mul_assoc]

/-! ## Two streams -/

section Streams

variable {count count' : Nat} {ds es : List Int} {ending ending' : Option Ending}
  {last last' : Stream}

/-- Up to a complete coarse digit both streams have emitted the same worth, because some
convergent is late enough for both. -/
theorem Regular.positional_take_pow (regular : Regular f) (radix : f.radix = .int r)
    (fine : Stream.fresh.take f count = (ds, ending, last))
    (coarse : Stream.fresh.take { f with radix := .int (r ^ m), limit } count' =
      (es, ending', last')) {n : Nat} (inFine : m * n < ds.length) (inCoarse : n < es.length) :
    positional (r ^ m) (es.take (n + 1)) = positional r (ds.take (m * n + 1)) := by
  obtain ⟨s, _, fineBounds⟩ := regular.within_of_take radix fine inFine
  obtain ⟨s', _, coarseBounds⟩ := (regular.same_terms _ limit).within_of_take rfl coarse inCoarse
  have left := coarseBounds (max (s.k - 1) (s'.k - 1)) (Nat.le_max_right _ _)
  have right := fineBounds (max (s.k - 1) (s'.k - 1)) (Nat.le_max_left _ _)
  rw [within_same_terms, ← pow_mul] at left
  exact left.unique (regular.denominator_pos _).1 right

/-- For regular terms the digits to a power of a radix are the digits to the radix, taken
together in blocks of as many as the power says.  The two integer parts are equal.  The
limits on the terms may differ. -/
theorem take_radix_pow (regular : Regular f) (radix : f.radix = .int r)
    (fine : Stream.fresh.take f count = (ds, ending, last))
    (coarse : Stream.fresh.take { f with radix := .int (r ^ m), limit } count' =
      (es, ending', last')) {n : Nat} (inFine : m * n < ds.length) (inCoarse : n < es.length) :
    es.getD 0 0 = ds.getD 0 0 ∧ ∀ i, 1 ≤ i → i ≤ n →
      es.getD i 0 = ∑ t ∈ Finset.Icc 1 m, ds.getD (m * (i - 1) + t) 0 * r ^ (m - t) := by
  have worth {i : Nat} (complete : i ≤ n) :=
    regular.positional_take_pow radix fine coarse
      ((Nat.mul_le_mul_left m complete).trans_lt inFine) (complete.trans_lt inCoarse)
  constructor
  · have first := worth n.zero_le
    rw [positional_take _ (by omega), positional_take _ (by omega)] at first
    simpa using first
  · intro i positive complete
    obtain ⟨k, rfl⟩ := Nat.exists_eq_add_of_le' positive
    have within := Nat.mul_le_mul_left m complete
    have after := worth complete
    rw [take_succ_getD (complete.trans_lt inCoarse), positional_concat,
      worth (Nat.le_of_succ_le complete), Nat.mul_succ,
      positional_take_add r (Nat.mul_succ m k ▸ within.trans_lt inFine)] at after
    exact add_left_cancel after

end Streams

/-- The square root of two by single digits and by pairs of them. -/
theorem take_radix_pow_rootTwo :
    (Stream.fresh.take rootTwo 5).1 = [1, 4, 1, 4, 2] ∧
    (Stream.fresh.take { rootTwo with radix := .int (10 ^ 2) } 3).1 = [1, 41, 42] ∧
    (42 : Int) = ∑ t ∈ Finset.Icc 1 2, [1, 4, 1, 4, 2].getD (2 * (2 - 1) + t) 0 * 10 ^ (2 - t) := by
  have fineDigits : (Stream.fresh.take rootTwo 5).1 = [1, 4, 1, 4, 2] := by decide +kernel
  have coarseDigits : (Stream.fresh.take { rootTwo with radix := .int (10 ^ 2) } 3).1 =
    [1, 41, 42] := by decide +kernel
  refine ⟨fineDigits, coarseDigits, ?_⟩
  rcases fine : Stream.fresh.take rootTwo 5 with ⟨ds, ending, last⟩
  rcases coarse : Stream.fresh.take { rootTwo with radix := .int (10 ^ 2) } 3
    with ⟨es, ending', last'⟩
  obtain rfl : ds = [1, 4, 1, 4, 2] := by rw [← fineDigits, fine]
  obtain rfl : es = [1, 41, 42] := by rw [← coarseDigits, coarse]
  have blocks := take_radix_pow rootTwo_regular rfl fine coarse (n := 2) (by decide) (by decide)
  exact blocks.2 2 (by decide) (by decide)

end NumericKernel.ContinuedFraction

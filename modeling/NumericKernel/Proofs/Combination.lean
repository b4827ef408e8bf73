import Mathlib.Algebra.Order.Group.Unbundled.Int
import Mathlib.Data.Nat.Choose.Basic
import Mathlib.Data.Nat.Factorial.BigOperators
import NumericKernel.Operation
import NumericKernel.Proofs.Arithmetic.Integer

/-!
# Combinations and arrangements of integers

Both counts are floored quotients of factorials.  With no more to be chosen than there is,
and nothing below zero, the quotients are exact: they are the binomial coefficient and the
falling product.  Elsewhere it is the factorials that a count evaluates which decide: a
combination asks for the factorial of the number to be chosen and an arrangement does not, so
the two part for a number below zero to be chosen of a number that is not.

* `choose_natCast`, `arrange_natCast`: the counts as binomial coefficient and falling product;
* `choose_exact`: nothing is lost in the quotients, and the laws of the counts;
* `countsAgree_iff`: where the two counts fit together.
-/

namespace NumericKernel

/-! ## Factorials -/

theorem factorial_eq (n : Nat) : factorial n = n.factorial := by
  induction n with
  | zero => rfl
  | succ n ih => rw [factorial, Nat.factorial_succ, ih]

theorem integerFactorial_natCast (n : Nat) : integerFactorial n = .ok (n.factorial : Nat) := by
  rw [← factorial_eq]
  exact if_neg (Int.not_lt.2 (Int.natCast_nonneg n))

theorem integerFactorial_of_neg {n : Int} (negative : n < 0) :
    integerFactorial n = .error (.negativeFactorial n) := if_pos negative

theorem factorial_natCast (n : Nat) :
    Operation.factorial (.number (.int n)) = .ok (.int (n.factorial : Nat)) := by
  change (integerFactorial n >>= fun m => Except.ok (Number.int m)) = _
  rw [integerFactorial_natCast, ok_bind]

/-! ## The counts -/

section Counts

variable {n k : Nat}

/-- The quotient of factorials is exact. -/
theorem choose_natCast (within : k ≤ n) : choose n k = .ok (n.choose k) := by
  have nonzero := Nat.mul_ne_zero k.factorial_ne_zero (n - k).factorial_ne_zero
  rw [choose, if_neg (by omega), ← Nat.cast_sub within, integerFactorial_natCast,
    integerFactorial_natCast, integerFactorial_natCast, ok_bind, ok_bind, ok_bind,
    ← Int.natCast_mul, Number.divide_natCast _ nonzero,
    Nat.choose_eq_factorial_div_factorial within]

/-- The arrangements of naturals are the falling product. -/
theorem arrange_natCast (within : k ≤ n) : arrange n k = .ok (n.descFactorial k) := by
  rw [arrange, if_neg (by omega), ← Nat.cast_sub within, integerFactorial_natCast,
    integerFactorial_natCast, ok_bind, ok_bind, Number.divide_natCast _ (Nat.factorial_ne_zero _),
    Nat.descFactorial_eq_div within]

theorem prod_sub_eq_descFactorial (within : k ≤ n) :
    ∏ i ∈ Finset.range k, ((n : Int) - i) = n.descFactorial k := by
  rw [Nat.descFactorial_eq_prod_range, Nat.cast_prod]
  refine Finset.prod_congr rfl fun i below => ?_
  have place := Finset.mem_range.1 below
  rw [Nat.cast_sub (by omega)]

end Counts

section Bounds

variable {n k : Int}

theorem choose_of_lt (beyond : n < k) : choose n k = .ok 0 := if_pos beyond

theorem arrange_of_lt (beyond : n < k) : arrange n k = .ok 0 := if_pos beyond

/-- Choosing from a negative number is refused, unless too much is asked for. -/
theorem choose_of_neg (negative : n < 0) (within : k ≤ n) :
    choose n k = .error (.negativeFactorial n) := by
  rw [choose, if_neg (Int.not_lt.2 within), integerFactorial_of_neg negative]
  rfl

/-- Arranging a negative number is refused, unless too much is asked for. -/
theorem arrange_of_neg (negative : n < 0) (within : k ≤ n) :
    arrange n k = .error (.negativeFactorial n) := by
  rw [arrange, if_neg (Int.not_lt.2 within), integerFactorial_of_neg negative]
  rfl

theorem choose_negative (nonneg : 0 ≤ n) (negative : k < 0) :
    choose n k = .error (.negativeFactorial k) := by
  lift n to Nat using nonneg
  rw [choose, if_neg (by omega), integerFactorial_natCast, integerFactorial_of_neg negative]
  rfl

/-- A quotient by the greater factorial comes to zero, except that the factorials of zero and
one are the same. -/
theorem arrange_negative (nonneg : 0 ≤ n) (negative : k < 0) :
    arrange n k = .ok (if n = 0 ∧ k = -1 then 1 else 0) := by
  lift n to Nat using nonneg
  obtain ⟨j, rfl⟩ : ∃ j : Nat, k = -(j + 1) := ⟨(-k - 1).toNat, by omega⟩
  have left : (n : Int) - -(j + 1) = (n + j + 1 : Nat) := by push_cast; ring
  rw [arrange, if_neg (by omega), left, integerFactorial_natCast, integerFactorial_natCast,
    ok_bind, ok_bind, Number.divide_natCast _ (Nat.factorial_ne_zero _)]
  split
  case isTrue corner =>
    obtain ⟨rfl, rfl⟩ : n = 0 ∧ j = 0 := by omega
    rfl
  case isFalse other =>
    have smaller : n.factorial < (n + j + 1).factorial := by
      rcases Nat.eq_zero_or_pos n with rfl | positive
      · exact (Nat.factorial_lt (n := 1) Nat.one_pos).2 (by omega)
      · exact (Nat.factorial_lt positive).2 (by omega)
    rw [Nat.div_eq_of_lt smaller]
    rfl

end Bounds

/-! ## The calls -/

/-- With no more to be chosen than there is, and nothing below zero, the quotient of a
combination is exact, the combinations follow Pascal's rule and are symmetric, and the
arrangements are the falling product. -/
theorem choose_exact {n k : Int} (nonneg : 0 ≤ k) (within : k ≤ n) :
    ∃ c next chosen left all : Int,
      Operation.choose (.number (.int n)) (.number (.int k)) = .ok c ∧
      Operation.factorial (.number (.int k)) = .ok (.int chosen) ∧
      Operation.factorial (.number (.int (n - k))) = .ok (.int left) ∧
      Operation.factorial (.number (.int n)) = .ok (.int all) ∧
      c * chosen * left = all ∧
      Operation.choose (.number (.int n)) (.number (.int (k + 1))) = .ok next ∧
      Operation.choose (.number (.int (n + 1))) (.number (.int (k + 1))) = .ok (c + next) ∧
      Operation.choose (.number (.int n)) (.number (.int (n - k))) = .ok c ∧
      Operation.arrange (.number (.int n)) (.number (.int k)) =
        .ok (∏ i ∈ Finset.range k.toNat, (n - i)) := by
  lift k to Nat using nonneg
  lift n to Nat using by omega
  have within : k ≤ n := by omega
  refine ⟨n.choose k, n.choose (k + 1), k.factorial, (n - k).factorial, n.factorial,
    choose_natCast within, factorial_natCast k, ?_, factorial_natCast n, ?_, ?_, ?_, ?_, ?_⟩
  · rw [← Nat.cast_sub within]
    exact factorial_natCast (n - k)
  · exact_mod_cast Nat.choose_mul_factorial_mul_factorial within
  · rcases Nat.lt_or_eq_of_le within with below | rfl
    · exact choose_natCast below
    · rw [Nat.choose_succ_self]
      exact choose_of_lt (by omega)
  · rw [← Nat.cast_add, ← Nat.choose_succ_succ]
    exact choose_natCast (Nat.succ_le_succ within)
  · rw [← Nat.cast_sub within, ← Nat.choose_symm within]
    exact choose_natCast (Nat.sub_le n k)
  · rw [Int.toNat_natCast, prod_sub_eq_descFactorial within]
    exact arrange_natCast within

/-- All of three: the next count is zero, since there is no fourth. -/
theorem choose_exact_three : ∃ c next : Int,
    Operation.choose (.number (.int 3)) (.number (.int 3)) = .ok c ∧
    Operation.choose (.number (.int 3)) (.number (.int 4)) = .ok next ∧
    Operation.choose (.number (.int 4)) (.number (.int 4)) = .ok (c + next) ∧
    Operation.choose (.number (.int 3)) (.number (.int 0)) = .ok c ∧
    Operation.arrange (.number (.int 3)) (.number (.int 3)) = .ok 6 := by
  obtain ⟨c, next, _, _, _, count, -, -, -, -, beyond, pascal, opposite, falling⟩ :=
    choose_exact (n := 3) (k := 3) (by decide) (by decide)
  exact ⟨c, next, count, beyond, pascal, opposite, falling⟩

/-- What the two counts of one pair of arguments have to do with each other where they fit
together. -/
inductive CountsAgree (n k : Int) : Prop where
  | zero (chosen : Operation.choose (.number (.int n)) (.number (.int k)) = .ok 0)
      (arranged : Operation.arrange (.number (.int n)) (.number (.int k)) = .ok 0)
  | refused {f g : Fault}
      (chosen : Operation.choose (.number (.int n)) (.number (.int k)) = .error f)
      (arranged : Operation.arrange (.number (.int n)) (.number (.int k)) = .error g)
      (first : f.kind = .undefinedDomain) (second : g.kind = .undefinedDomain)
  | counted {c d orders : Int}
      (chosen : Operation.choose (.number (.int n)) (.number (.int k)) = .ok c)
      (arranged : Operation.arrange (.number (.int n)) (.number (.int k)) = .ok d)
      (ordered : Operation.factorial (.number (.int k)) = .ok (.int orders))
      (first : 0 < c) (second : 0 < d) (product : d = c * orders)

theorem countsAgree_natCast {n k : Nat} (within : k ≤ n) : CountsAgree n k := by
  refine .counted (choose_natCast within) (arrange_natCast within) (factorial_natCast k) ?_ ?_ ?_
  · exact_mod_cast Nat.choose_pos within
  · exact_mod_cast Nat.descFactorial_pos.2 within
  · rw [Nat.descFactorial_eq_factorial_mul_choose, Nat.mul_comm, Nat.cast_mul]

/-- The two counts fit together unless a number below zero is to be chosen of one that is
not.  There the combination is refused, and the arrangement is a quotient that says nothing. -/
theorem countsAgree_iff (n k : Int) :
    (CountsAgree n k ↔ ¬ (k < 0 ∧ 0 ≤ n)) ∧
    (k < 0 ∧ 0 ≤ n →
      Operation.choose (.number (.int n)) (.number (.int k)) = .error (.negativeFactorial k) ∧
      Operation.arrange (.number (.int n)) (.number (.int k)) =
        .ok (if n = 0 ∧ k = -1 then 1 else 0)) := by
  have apart (outside : k < 0 ∧ 0 ≤ n) :=
    And.intro (choose_negative outside.2 outside.1) (arrange_negative outside.2 outside.1)
  refine ⟨⟨fun agree outside => ?_, fun inside => ?_⟩, apart⟩
  · cases agree with
    | zero chosen => cases (apart outside).1.symm.trans chosen
    | refused _ arranged => cases (apart outside).2.symm.trans arranged
    | counted chosen => cases (apart outside).1.symm.trans chosen
  · rcases Int.lt_or_le n k with beyond | within
    · exact .zero (choose_of_lt beyond) (arrange_of_lt beyond)
    rcases Int.lt_or_le n 0 with negative | nonneg
    · exact .refused (choose_of_neg negative within) (arrange_of_neg negative within) rfl rfl
    lift n to Nat using nonneg
    lift k to Nat using by omega
    exact countsAgree_natCast (Int.ofNat_le.1 within)

/-- One below zero, to be chosen of five, has no combinations and zero arrangements. -/
theorem countsAgree_iff_five :
    Operation.choose (.number (.int 5)) (.number (.int (-1))) = .error (.negativeFactorial (-1)) ∧
    Operation.arrange (.number (.int 5)) (.number (.int (-1))) = .ok 0 ∧
    CountsAgree 5 2 :=
  ⟨((countsAgree_iff 5 (-1)).2 (by decide)).1, ((countsAgree_iff 5 (-1)).2 (by decide)).2,
    (countsAgree_iff 5 2).1.2 (by decide)⟩

/-- Of nothing the number below zero can even be arranged, in one way. -/
theorem not_countsAgree_zero : ¬ CountsAgree 0 (-1) := by
  intro agree
  have refused : Operation.choose (.number (.int 0)) (.number (.int (-1))) =
      .error (.negativeFactorial (-1)) := rfl
  have one : Operation.arrange (.number (.int 0)) (.number (.int (-1))) = .ok 1 := rfl
  cases agree with
  | zero chosen => cases refused.symm.trans chosen
  | refused _ arranged => cases one.symm.trans arranged
  | counted chosen => cases refused.symm.trans chosen

end NumericKernel

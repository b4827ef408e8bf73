import Mathlib.Data.List.Perm.Basic
import NumericKernel.Proofs.Arithmetic.CommonDivisor

/-!
# Common divisors of many integers

The sign that a common divisor keeps does not depend on the order in which the operands are
taken.  It is below zero exactly when all operands other than zero are one number below
zero, and this says nothing of an order.  So the call is a commutative and associative
operation, and the operands of a longer computation may be ordered and grouped at will.

* `signedGcd_comm`, `signedGcd_assoc`: the laws of two and of three operands;
* `Grouping.value_eq`: a computation that groups its operands gives the fold over them;
* `gcd_int_fold`: the calls, and folds of them in any order and any grouping.
-/

namespace NumericKernel.Number

/-! ## The laws of the operation -/

/-- The magnitude and the values below zero determine an integer. -/
theorem eq_of_natAbs_of_neg {m n : Int} (magnitude : m.natAbs = n.natAbs)
    (below : ∀ d : Int, d < 0 → (m = d ↔ n = d)) : m = n := by
  rcases Int.lt_or_le m 0 with negative | _
  · exact ((below m negative).1 rfl).symm
  rcases Int.lt_or_le n 0 with negative | _
  · exact (below n negative).2 rfl
  · omega

/-- The common divisor keeps its sign when the operands are exchanged. -/
theorem signedGcd_comm (a b : Int) : signedGcd a b = signedGcd b a := by
  apply eq_of_natAbs_of_neg
  · rw [natAbs_signedGcd, natAbs_signedGcd, Int.gcd_comm]
  · intro d negative
    rw [signedGcd_eq_iff_of_neg a b negative, signedGcd_eq_iff_of_neg b a negative]
    omega

/-- The common divisor is one number below zero, or zero, just when both operands are. -/
theorem signedGcd_eq_zero_or_iff (a b : Int) {d : Int} (negative : d < 0) :
    signedGcd a b = 0 ∨ signedGcd a b = d ↔ (a = 0 ∨ a = d) ∧ (b = 0 ∨ b = d) := by
  rw [signedGcd_eq_zero_iff, signedGcd_eq_iff_of_neg a b negative]
  omega

/-- The common divisor of three operands does not depend on their grouping. -/
theorem signedGcd_assoc (a b c : Int) :
    signedGcd (signedGcd a b) c = signedGcd a (signedGcd b c) := by
  apply eq_of_natAbs_of_neg
  · rw [natAbs_signedGcd, natAbs_signedGcd, Int.gcd, Int.gcd, natAbs_signedGcd, natAbs_signedGcd]
    exact Nat.gcd_assoc a.natAbs b.natAbs c.natAbs
  · intro d negative
    rw [signedGcd_eq_iff_of_neg (signedGcd a b) c negative,
      signedGcd_eq_iff_of_neg a (signedGcd b c) negative,
      signedGcd_eq_zero_or_iff a b negative, signedGcd_eq_zero_or_iff b c negative,
      signedGcd_eq_zero_iff, signedGcd_eq_zero_iff]
    omega

theorem signedGcd_self (a : Int) : signedGcd a a = a := if_pos rfl

theorem signedGcd_zero (a : Int) : signedGcd a 0 = a := by
  unfold signedGcd
  split_ifs <;> omega

instance : Std.Commutative signedGcd := ⟨signedGcd_comm⟩

instance : Std.Associative signedGcd := ⟨signedGcd_assoc⟩

/-! ## Folds in any order and any grouping -/

/-- The common divisor of a list, taken from the front on. -/
def gcdAll (ns : List Int) : Except Fault Number :=
  ns.foldlM (fun g n => Operation.gcd (.number g) (.number (.int n))) (.int 0)

/-- A run of calls folds the common divisor over the operands. -/
theorem foldlM_gcd (start : Int) (ns : List Int) :
    ns.foldlM (fun g n => Operation.gcd (.number g) (.number (.int n))) (Number.int start) =
      .ok (.int (ns.foldl signedGcd start)) := by
  induction ns generalizing start with
  | nil => rfl
  | cons n ns ih =>
    have first : Operation.gcd (.number (.int start)) (.number (.int n)) =
        .ok (.int (signedGcd start n)) := gcd_int start n
    rw [List.foldlM_cons, first, ok_bind, ih, List.foldl_cons]

/-- A computation on several integers that takes two results together at a time. -/
inductive Grouping where
  | operand (n : Int)
  | pair (first second : Grouping)

namespace Grouping

/-- The operands of a computation, from left to right. -/
def operands : Grouping → List Int
  | operand n => [n]
  | pair first second => first.operands ++ second.operands

/-- The common divisor, taken as the operands are grouped. -/
def value : Grouping → Except Fault Number
  | operand n => .ok (.int n)
  | pair first second => do
    let g ← first.value
    let h ← second.value
    Operation.gcd (.number g) (.number h)

/-- A computation gives the fold over its operands, however it groups them. -/
theorem value_eq (t : Grouping) : t.value = .ok (.int (t.operands.foldl signedGcd 0)) := by
  induction t with
  | operand n =>
    rw [operands, List.foldl_cons, List.foldl_nil, signedGcd_comm, signedGcd_zero]
    rfl
  | pair first second ih₁ ih₂ =>
    -- the fold over the second part starts from zero, which is the identity
    have joined :=
      calc signedGcd (first.operands.foldl signedGcd 0) (second.operands.foldl signedGcd 0)
        _ = second.operands.foldl signedGcd (signedGcd (first.operands.foldl signedGcd 0) 0) :=
          (@List.foldl_assoc Int signedGcd _ _ _ _).symm
        _ = (first.operands ++ second.operands).foldl signedGcd 0 := by
          rw [signedGcd_zero, List.foldl_append]
    rw [value, ih₁, ih₂, ok_bind, ok_bind, operands, ← joined]
    exact gcd_int _ _

end Grouping

/-! ## The calls -/

/-- The call is commutative, associative and idempotent, with zero for its identity, and it
gives a divisor of both operands that every common divisor divides.  So the common divisor
of a list, sign included, is the same for every order and every grouping of its items. -/
theorem gcd_int_fold :
    (∀ a b : Int, ∃ g : Int, Operation.gcd (.number (.int a)) (.number (.int b)) = .ok (.int g) ∧
      Operation.gcd (.number (.int b)) (.number (.int a)) = .ok (.int g) ∧
      g ∣ a ∧ g ∣ b ∧ ∀ c : Int, c ∣ a → c ∣ b → c ∣ g) ∧
    (∀ a b c : Int,
      (Operation.gcd (.number (.int a)) (.number (.int b)) >>= fun g =>
        Operation.gcd (.number g) (.number (.int c))) =
      (Operation.gcd (.number (.int b)) (.number (.int c)) >>= fun g =>
        Operation.gcd (.number (.int a)) (.number g))) ∧
    (∀ a : Int, Operation.gcd (.number (.int a)) (.number (.int a)) = .ok (.int a) ∧
      Operation.gcd (.number (.int a)) (.number (.int 0)) = .ok (.int a)) ∧
    ∀ ns : List Int, ∃ g : Int, gcdAll ns = .ok (.int g) ∧
      (∀ ms, ms.Perm ns → gcdAll ms = .ok (.int g)) ∧
      ∀ t : Grouping, t.operands.Perm ns → t.value = .ok (.int g) := by
  have call (a b : Int) : Operation.gcd (.number (.int a)) (.number (.int b)) =
      .ok (.int (signedGcd a b)) := gcd_int a b
  refine ⟨fun a b => ?_, fun a b c => ?_, fun a => ⟨?_, ?_⟩, fun ns => ?_⟩
  · exact ⟨signedGcd a b, call a b, signedGcd_comm b a ▸ call b a, signedGcd_dvd_left a b,
      signedGcd_dvd_right a b, fun c => dvd_signedGcd⟩
  · rw [call, call, ok_bind, ok_bind, call, call, signedGcd_assoc]
  · rw [call, signedGcd_self]
  · rw [call, signedGcd_zero]
  · refine ⟨ns.foldl signedGcd 0, foldlM_gcd 0 ns, fun ms order => ?_, fun t order => ?_⟩
    · rw [← order.foldl_op_eq]
      exact foldlM_gcd 0 ms
    · rw [t.value_eq, order.foldl_op_eq]

/-- The sign is kept past a zero, in another order and in another grouping. -/
theorem gcd_int_fold_minus_four :
    gcdAll [0, -4, -4] = .ok (.int (-4)) ∧
    (Grouping.pair (.operand (-4)) (.pair (.operand (-4)) (.operand 0))).value =
      .ok (.int (-4)) := by
  obtain ⟨g, fold, ordered, grouped⟩ := gcd_int_fold.2.2.2 [-4, 0, -4]
  obtain rfl : -4 = g := Number.int.inj (Except.ok.inj fold)
  exact ⟨ordered [0, -4, -4] (by decide), grouped _ (by decide)⟩

end NumericKernel.Number

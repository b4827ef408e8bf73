import Mathlib.Logic.Relation
import NumericKernel.Proofs.Arithmetic.CommonDivisor
import NumericKernel.Proofs.Double.Tolerance

/-!
# Common divisors by subtraction

On whole doubles every subtraction is exact, so the repeated subtraction of doubles passes the
same numbers as that of integers.  It differs in where it ends: at numbers that are equal up to
rounding.  When these are not equal the result is a multiple of the greatest common divisor
and not the divisor itself.

* `Subtraction`, `Reached`: the subtractions on numbers;
* `subtractiveGcd_whole`: the result on whole doubles, and when it is the divisor;
* `distinguished_of_lt`: operands below `10 ^ 9` times the divisor give the divisor;
* `gcd_whole_real`: whole Reals of any sign against the integers of these values.
-/

namespace NumericKernel

open Double (IsExact Confused whole ofWhole)

/-! ## Subtractions of numbers -/

/-- One subtraction of the smaller from the greater of two numbers. -/
inductive Subtraction : Nat × Nat → Nat × Nat → Prop
  | first {m n : Nat} (less : n < m) : Subtraction (m, n) (m - n, n)
  | second {m n : Nat} (less : m < n) : Subtraction (m, n) (m, n - m)

/-- What is reached by subtractions. -/
abbrev Reached : Nat × Nat → Nat × Nat → Prop := Relation.ReflTransGen Subtraction

/-- No different numbers that are reached are taken for equal. -/
def Distinguished (m n : Nat) : Prop := ∀ p q, Reached (m, n) (p, q) → ¬ Confused p q

section Reached

variable {m n p q : Nat}

/-- From a pair of numbers there is one subtraction at most. -/
theorem Subtraction.unique {c d e : Nat × Nat} (left : Subtraction c d) (right : Subtraction c e) :
    d = e := by
  cases left with
  | first less =>
    cases right with
    | first => rfl
    | second other => exact absurd other (Nat.lt_asymm less)
  | second less =>
    cases right with
    | first other => exact absurd other (Nat.lt_asymm less)
    | second => rfl

theorem not_subtraction_self {c : Nat × Nat} (step : Subtraction (n, n) c) : False := by
  cases step with
  | first less => exact Nat.lt_irrefl n less
  | second less => exact Nat.lt_irrefl n less

theorem distinguished_self (n : Nat) : Distinguished n n := by
  intro p q reached
  rcases Relation.ReflTransGen.cases_head_iff.1 reached with same | ⟨c, step, -⟩
  · obtain ⟨rfl, rfl⟩ := Prod.mk.inj same
    exact fun confused => confused.1 rfl
  · exact (not_subtraction_self step).elim

theorem Distinguished.not_confused (distinguished : Distinguished m n) : ¬ Confused m n :=
  distinguished m n .refl

/-- Numbers reach themselves, and what is reached after their only subtraction. -/
theorem distinguished_iff_of_step (clear : ¬ Confused m n) (step : Subtraction (m, n) (p, q)) :
    Distinguished m n ↔ Distinguished p q := by
  constructor
  · exact fun distinguished u v reached => distinguished u v (.head step reached)
  · intro distinguished u v reached
    rcases Relation.ReflTransGen.cases_head_iff.1 reached with same | ⟨c, next, rest⟩
    · obtain ⟨rfl, rfl⟩ := Prod.mk.inj same
      exact clear
    · rw [← step.unique next] at rest
      exact distinguished u v rest

/-! ### What a subtraction preserves -/

/-- Common divisors are kept, and no number grows. -/
structure Descends (c d : Nat × Nat) : Prop where
  gcd_eq : d.1.gcd d.2 = c.1.gcd c.2
  first_le : d.1 ≤ c.1
  second_le : d.2 ≤ c.2

theorem Descends.trans {c d e : Nat × Nat} (left : Descends c d) (right : Descends d e) :
    Descends c e :=
  ⟨right.gcd_eq.trans left.gcd_eq, Nat.le_trans right.first_le left.first_le,
    Nat.le_trans right.second_le left.second_le⟩

theorem Subtraction.descends {c d : Nat × Nat} (step : Subtraction c d) : Descends c d := by
  cases step with
  | first less => exact ⟨Nat.gcd_sub_self_left (Nat.le_of_lt less), Nat.sub_le _ _, Nat.le_refl _⟩
  | second less => exact ⟨Nat.gcd_sub_self_right (Nat.le_of_lt less), Nat.le_refl _, Nat.sub_le _ _⟩

/-- A run of subtractions keeps the common divisor and enlarges neither number. -/
theorem Reached.descends {c d : Nat × Nat} (reached : Reached c d) : Descends c d := by
  induction reached with
  | refl => exact ⟨rfl, Nat.le_refl _, Nat.le_refl _⟩
  | tail _ step ih => exact ih.trans step.descends

/-- Operands that are not much greater than their common divisor stay distinguished: their
differences are multiples of it. -/
theorem distinguished_of_lt (bound : max m n < 10 ^ 9 * m.gcd n) : Distinguished m n := by
  rintro p q reached ⟨different, share⟩
  obtain ⟨gcd_eq, first, second⟩ := reached.descends
  dsimp only at gcd_eq first second
  rw [← gcd_eq] at bound
  have left := Nat.gcd_dvd_left p q
  have right := Nat.gcd_dvd_right p q
  generalize p.gcd q = g at *
  have greater : g ∣ max p q := by
    rcases max_choice p q with h | h <;> rw [h] <;> assumption
  have smaller : g ∣ min p q := by
    rcases min_choice p q with h | h <;> rw [h] <;> assumption
  have least : g ≤ max p q - min p q :=
    Nat.le_of_dvd (by omega) (Nat.dvd_sub greater smaller)
  rcases share with within | ⟨rounded, large⟩
  · omega
  · -- the difference is the divisor itself, which divides the greater number and the next one
    have multiple : g ∣ max p q + 1 := ⟨10 ^ 9, by omega⟩
    have one := Nat.dvd_one.1 ((Nat.dvd_add_right greater).1 multiple)
    omega

end Reached

/-! ## Subtractions of whole doubles -/

section Whole

variable {m n : Nat}

/-- At numbers that are equal up to rounding the first one is the result. -/
theorem subtractiveGcd_of_close (left : IsExact m) (right : IsExact n)
    (close : m = n ∨ Confused m n) :
    subtractiveGcd (whole m) (whole n) = some (.ofFirst (whole m)) := by
  rw [subtractiveGcd, if_pos ((Double.isClose_whole_iff left right).2 close)]

theorem toBits_sub_lt (left : IsExact m) (right : IsExact n) (less : n < m) :
    (whole (m - n)).toBits.toNat < (whole m).toBits.toNat := by
  have rest := left.of_le (Nat.sub_pos_of_lt less) (Nat.sub_le m n)
  rw [Double.toNat_toBits_whole rest, Double.toNat_toBits_whole left,
    Double.wholeBits_lt_iff rest left]
  exact Nat.sub_lt left.pos right.pos

/-- From a greater first number the second is subtracted. -/
theorem subtractiveGcd_of_gt (left : IsExact m) (right : IsExact n) (less : n < m)
    (clear : ¬ Confused m n) :
    subtractiveGcd (whole m) (whole n) = subtractiveGcd (whole (m - n)) (whole n) := by
  have rest := left.of_le (Nat.sub_pos_of_lt less) (Nat.sub_le m n)
  have apart := (Double.isClose_whole_iff left right).not.2 (not_or.2 ⟨Nat.ne_of_gt less, clear⟩)
  rw [subtractiveGcd, if_neg apart, if_pos ((Double.whole_lt_iff right left).2 less),
    Double.whole_sub left right less]
  dsimp only
  rw [Double.isNearZero_whole rest, Double.isNearZero_whole right, if_neg (by decide),
    if_neg (by decide), if_pos (toBits_sub_lt left right less)]

/-- From a greater second number the first is subtracted. -/
theorem subtractiveGcd_of_lt (left : IsExact m) (right : IsExact n) (less : m < n)
    (clear : ¬ Confused m n) :
    subtractiveGcd (whole m) (whole n) = subtractiveGcd (whole m) (whole (n - m)) := by
  have rest := right.of_le (Nat.sub_pos_of_lt less) (Nat.sub_le n m)
  have apart := (Double.isClose_whole_iff left right).not.2 (not_or.2 ⟨Nat.ne_of_lt less, clear⟩)
  have order := (Double.whole_lt_iff right left).not.2 (Nat.lt_asymm less)
  rw [subtractiveGcd, if_neg apart, if_neg order, Double.whole_sub right left less]
  dsimp only
  rw [Double.isNearZero_whole rest, Double.isNearZero_whole left, if_neg (by decide),
    if_neg (by decide), if_pos (toBits_sub_lt right left less)]

/-- A number that is taken for another one does not divide it. -/
theorem ne_gcd_of_confused (positive : 0 < m) (confused : Confused m n) : m ≠ m.gcd n := by
  intro same
  obtain ⟨c, rfl⟩ := Nat.gcd_eq_left_iff_dvd.1 same.symm
  obtain ⟨different, share⟩ := confused
  have far : m * c = 0 ∨ m * c = m ∨ 2 * m ≤ m * c := by
    rcases c with _ | _ | c
    · exact .inl (Nat.mul_zero m)
    · exact .inr (.inl (Nat.mul_one m))
    · exact .inr (.inr (Nat.mul_comm 2 m ▸ Nat.mul_le_mul_left m (Nat.le_add_left 2 c)))
  rw [Double.IsShare] at share
  generalize m * c = n at *
  omega

/-- The result is a multiple of the greatest common divisor, and it is the divisor exactly when
no different numbers on the way are taken for equal. -/
theorem subtractiveGcd_whole (left : IsExact m) (right : IsExact n) :
    ∃ r, IsExact r ∧ subtractiveGcd (whole m) (whole n) = some (.ofFirst (whole r)) ∧
      m.gcd n ∣ r ∧ (r = m.gcd n ↔ Distinguished m n) := by
  induction sum : m + n using Nat.strong_induction_on generalizing m n with
  | h sum ih =>
    subst sum
    by_cases confused : Confused m n
    · refine ⟨m, left, subtractiveGcd_of_close left right (.inr confused), Nat.gcd_dvd_left m n, ?_⟩
      exact iff_of_false (ne_gcd_of_confused left.pos confused)
        fun distinguished => distinguished.not_confused confused
    rcases Nat.lt_trichotomy m n with less | rfl | greater
    · have rest := right.of_le (Nat.sub_pos_of_lt less) (Nat.sub_le n m)
      obtain ⟨r, exact, result, multiple, divisor⟩ :=
        ih (m + (n - m)) (Nat.add_lt_add_left (Nat.sub_lt right.pos left.pos) m) left rest rfl
      rw [Nat.gcd_sub_self_right (Nat.le_of_lt less)] at multiple divisor
      have same := subtractiveGcd_of_lt left right less confused
      refine ⟨r, exact, same.trans result, multiple, ?_⟩
      rw [divisor, distinguished_iff_of_step confused (.second less)]
    · refine ⟨m, left, subtractiveGcd_of_close left left (.inl rfl), Nat.gcd_dvd_left m m, ?_⟩
      exact iff_of_true (Nat.gcd_self m).symm (distinguished_self m)
    · have rest := left.of_le (Nat.sub_pos_of_lt greater) (Nat.sub_le m n)
      obtain ⟨r, exact, result, multiple, divisor⟩ :=
        ih (m - n + n) (Nat.add_lt_add_right (Nat.sub_lt left.pos right.pos) n) rest right rfl
      rw [Nat.gcd_sub_self_left (Nat.le_of_lt greater)] at multiple divisor
      have same := subtractiveGcd_of_gt left right greater confused
      refine ⟨r, exact, same.trans result, multiple, ?_⟩
      rw [divisor, distinguished_iff_of_step confused (.first greater)]

end Whole

/-! ## Whole Reals as operands -/

namespace Number

section Value

variable {s t : Number} {a b : Int}

theorem value?_int (n : Int) : (Number.int n).value? = some (.ofInt n) := rfl

/-- Exact values of integers compare as the integers do. -/
theorem compare_ofInt (a b : Int) :
    (Double.Exact.ofInt a).compare (.ofInt b) = compare a b := by
  have unit : (0 : Int) < Double.unitsPerOne := by decide
  change compare (a * (Double.unitsPerOne : Int)) (b * Double.unitsPerOne) = _
  rcases Int.lt_trichotomy a b with lt | rfl | gt
  · rw [Std.compare_eq_lt.2 lt, Std.compare_eq_lt.2 (Int.mul_lt_mul_of_pos_right lt unit)]
  · rw [Std.compare_self, Std.compare_self]
  · rw [Std.compare_eq_gt.2 gt, Std.compare_eq_gt.2 (Int.mul_lt_mul_of_pos_right gt unit)]

/-- Numbers of either kind with whole values are compared as these. -/
theorem compare?_of_value? (left : s.value? = some (.ofInt a))
    (right : t.value? = some (.ofInt b)) : s.compare? t = some (compare a b) := by
  have exact : (do return (← s.value?).compare (← t.value?)) = some (compare a b) := by
    rw [left, right, ← compare_ofInt]
    rfl
  cases s with
  | real x => exact exact
  | int m =>
    cases t with
    | real y => exact exact
    | int n =>
      rw [← exact]
      exact congrArg some (compare_ofInt m n).symm

theorem equal_of_value? (left : s.value? = some (.ofInt a)) (right : t.value? = some (.ofInt b)) :
    s.equal t = decide (a = b) := by
  rw [equal, compare?_of_value? left right, Bool.eq_iff_iff, beq_iff_eq, Option.some_inj,
    Std.compare_eq_iff_eq, decide_eq_true_iff]

theorem isZero_of_value? (left : s.value? = some (.ofInt a)) : s.isZero = decide (a = 0) :=
  equal_of_value? left (value?_int 0)

theorem isNegative_of_value? (left : s.value? = some (.ofInt a)) :
    s.isNegative = decide (a < 0) := by
  rw [isNegative, less, compare?_of_value? left (value?_int 0), Bool.eq_iff_iff, beq_iff_eq,
    Option.some_inj, Std.compare_eq_lt, decide_eq_true_iff]

theorem requireFinite_of_value? (left : s.value? = some (.ofInt a)) : s.requireFinite = .ok () := by
  rw [requireFinite, isFinite, left]
  rfl

end Value

section Gcd

variable {m n : Nat} {a b : Int}

theorem remaining_real (x after : Double) : (Number.real x).remaining x after = .real after := by
  rw [remaining]
  split
  case isTrue same => rw [same]
  case isFalse => rfl

/-- Doubles that differ have the outcome of the subtractions. -/
theorem positiveGcd_real {x y rest : Double} (different : (Number.real x).equal (.real y) = false)
    (result : subtractiveGcd x y = some (.ofFirst rest)) :
    positiveGcd (.real x) (.real y) = .ok (.real rest) := by
  unfold positiveGcd
  rw [different, if_neg (by decide), toDouble_real, toDouble_real, ok_bind, ok_bind, result]
  exact congrArg Except.ok (remaining_real x rest)

/-- Whole doubles give a multiple of the common divisor, and when it is the divisor. -/
theorem positiveGcd_whole (left : IsExact m) (right : IsExact n) :
    ∃ r, IsExact r ∧ positiveGcd (.real (whole m)) (.real (whole n)) = .ok (.real (whole r)) ∧
      m.gcd n ∣ r ∧ (r = m.gcd n ↔ Distinguished m n) := by
  have first := Double.value?_ofWhole (a := m) left
  have second := Double.value?_ofWhole (a := n) right
  rw [Double.ofWhole_natCast] at first second
  have equal := equal_of_value? (s := .real (whole m)) (t := .real (whole n)) first second
  by_cases same : m = n
  · subst same
    rw [positiveGcd, equal, if_pos (decide_eq_true rfl)]
    exact ⟨m, left, rfl, Nat.gcd_dvd_left m m,
      iff_of_true (Nat.gcd_self m).symm (distinguished_self m)⟩
  · obtain ⟨r, exact, result, divisor⟩ := subtractiveGcd_whole left right
    exact ⟨r, exact, positiveGcd_real (equal.trans (decide_eq_false (by omega))) result, divisor⟩

/-- Signs are taken out of different Reals, and that of two negative ones is put back. -/
theorem gcd_real {x y : Double} (first : (Number.real x).value? = some (.ofInt a))
    (second : (Number.real y).value? = some (.ofInt b)) (left : a ≠ 0) (right : b ≠ 0)
    (different : a ≠ b) :
    (Number.real x).gcd (.real y) = do
      let d ← positiveGcd (.real (if a < 0 then -x else x)) (.real (if b < 0 then -y else y))
      return if a < 0 ∧ b < 0 then d.neg else d := by
  unfold gcd
  rw [requireFinite_of_value? first, requireFinite_of_value? second, ok_bind, ok_bind,
    equal_of_value? first second, isZero_of_value? first, isZero_of_value? second,
    isNegative_of_value? first, isNegative_of_value? second, decide_eq_false different,
    decide_eq_false left, decide_eq_false right, if_neg (by decide), if_neg (by decide),
    if_neg (by decide)]
  dsimp only
  by_cases negative : a < 0 <;> by_cases other : b < 0 <;> simp [negative, other, neg]

/-- A whole double without its sign. -/
theorem magnitude_ofWhole (exact : IsExact a.natAbs) :
    (if a < 0 then -ofWhole a else ofWhole a) = whole a.natAbs := by
  rw [← Double.ofWhole_natCast]
  split
  case isTrue negative => rw [Double.neg_ofWhole exact, Int.ofNat_natAbs_of_nonpos (by omega)]
  case isFalse nonneg => rw [Int.natAbs_of_nonneg (Int.not_lt.1 nonneg)]

/-- Whole doubles of any sign give a multiple of the common divisor. -/
theorem gcd_ofWhole (left : IsExact a.natAbs) (right : IsExact b.natAbs) :
    ∃ r : Int, IsExact r.natAbs ∧
      (Number.real (ofWhole a)).gcd (.real (ofWhole b)) = .ok (.real (ofWhole r)) ∧
      a.gcd b ∣ r.natAbs ∧ (r.natAbs = a.gcd b ↔ Distinguished a.natAbs b.natAbs) := by
  have first : (Number.real (ofWhole a)).value? = some (.ofInt a) := Double.value?_ofWhole left
  have second : (Number.real (ofWhole b)).value? = some (.ofInt b) := Double.value?_ofWhole right
  by_cases same : a = b
  · subst same
    refine ⟨a, left, ?_, Int.gcd_self ▸ Nat.dvd_refl _, ?_⟩
    · unfold gcd
      rw [requireFinite_of_value? first, ok_bind, ok_bind, equal_of_value? first second,
        if_pos (decide_eq_true rfl)]
      rfl
    · rw [Int.gcd_self]
      exact iff_of_true rfl (distinguished_self _)
  obtain ⟨r, exact, result, divisor⟩ := positiveGcd_whole left right
  rw [gcd_real first second (Int.natAbs_pos.1 left.pos) (Int.natAbs_pos.1 right.pos) same,
    magnitude_ofWhole left, magnitude_ofWhole right, result, ok_bind, ← Double.ofWhole_natCast]
  have exactInt : IsExact (r : Int).natAbs := exact
  by_cases both : a < 0 ∧ b < 0
  · refine ⟨-r, by rwa [Int.natAbs_neg], ?_, by rwa [Int.natAbs_neg]⟩
    rw [if_pos both, neg, Double.neg_ofWhole exactInt]
    rfl
  · refine ⟨r, exact, ?_, divisor⟩
    rw [if_neg both]
    rfl

end Gcd

end Number

/-! ## The calls -/

/-- The call on numbers with whole values makes no further demand. -/
theorem operation_gcd {s t : Number} {a b : Int} (left : s.value? = some (.ofInt a))
    (right : t.value? = some (.ofInt b)) :
    Operation.gcd (.number s) (.number t) = s.gcd t := by
  change (s.requireFinite >>= fun _ => Except.ok s) >>= (fun x =>
    (t.requireFinite >>= fun _ => Except.ok t) >>= fun y => x.gcd y) = _
  rw [Number.requireFinite_of_value? left, Number.requireFinite_of_value? right]
  rfl

/-- Reals with whole values have a common divisor, which is a multiple of that of the integers.
It is the same, up to the sign, exactly when no different numbers that the subtractions reach
are taken for equal.  This holds for operands below `10 ^ 9` times the divisor. -/
theorem gcd_whole_real {a b : Int} {x y : Double} (first : x.value? = some (.ofInt a))
    (second : y.value? = some (.ofInt b)) (left : a ≠ 0) (right : b ≠ 0)
    (small : |a| < 2 ^ 53) (smaller : |b| < 2 ^ 53) :
    ∃ (r : Double) (m g : Int),
      Operation.gcd (.number (.real x)) (.number (.real y)) = .ok (.real r) ∧
      r.value? = some (.ofInt m) ∧
      Operation.gcd (.number (.int a)) (.number (.int b)) = .ok (.int g) ∧
      g ∣ m ∧
      (|m| = |g| ↔ ∀ p q, Reached (a.natAbs, b.natAbs) (p, q) → ¬ Confused p q) ∧
      (max |a| |b| < 10 ^ 9 * |g| → |m| = |g|) := by
  rw [Int.abs_eq_natAbs] at small smaller
  have exactA : IsExact a.natAbs := ⟨Int.natAbs_pos.2 left, by omega⟩
  have exactB : IsExact b.natAbs := ⟨Int.natAbs_pos.2 right, by omega⟩
  obtain rfl := Double.eq_ofWhole exactA first
  obtain rfl := Double.eq_ofWhole exactB second
  obtain ⟨m, exact, result, multiple, divisor⟩ := Number.gcd_ofWhole exactA exactB
  have magnitude := Number.natAbs_signedGcd a b
  simp only [Int.abs_eq_natAbs]
  refine ⟨ofWhole m, m, Number.signedGcd a b, ?_, Double.value?_ofWhole exact, ?_, ?_, ?_, ?_⟩
  · have call := @operation_gcd (.real (ofWhole a)) (.real (ofWhole b)) a b first second
    exact call.trans result
  · rw [operation_gcd (Number.value?_int a) (Number.value?_int b), Number.gcd_int]
  · rw [← Int.natAbs_dvd_natAbs, magnitude]
    exact multiple
  · rw [magnitude, Nat.cast_inj]
    exact divisor
  · rw [magnitude]
    intro bound
    have below : max a.natAbs b.natAbs < 10 ^ 9 * a.natAbs.gcd b.natAbs := by exact_mod_cast bound
    exact congrArg Nat.cast (divisor.2 (distinguished_of_lt below))

/-- Reals of both signs that are told apart all the way. -/
theorem gcd_whole_real_twelve : ∃ (r : Double) (m : Int),
    Operation.gcd (.number (.real 12)) (.number (.real (-18))) = .ok (.real r) ∧
      r.value? = some (.ofInt m) ∧ |m| = 6 := by
  obtain ⟨r, m, g, result, value, divisor, -, -, same⟩ :=
    @gcd_whole_real 12 (-18) 12 (-18) (by decide +kernel) (by decide +kernel) (by decide)
      (by decide) (by decide) (by decide)
  obtain rfl : 6 = g := Number.int.inj (Except.ok.inj divisor)
  exact ⟨r, m, result, value, same (by decide)⟩

/-- Neighbouring numbers that are equal up to rounding: the first one is given back, although
nothing but one divides both. -/
theorem gcd_whole_real_neighbours :
    Operation.gcd (.number (.real 1000000001)) (.number (.real 1000000000)) =
        .ok (.real 1000000001) ∧
      (1000000001 : Double).value? = some (.ofInt 1000000001) ∧
      Operation.gcd (.number (.int 1000000001)) (.number (.int 1000000000)) = .ok (.int 1) := by
  have first : (Number.real 1000000001).value? = some (.ofInt 1000000001) := by decide +kernel
  have second : (Number.real 1000000000).value? = some (.ofInt 1000000000) := by decide +kernel
  have close : subtractiveGcd 1000000001 1000000000 = some (.ofFirst 1000000001) := by
    rw [subtractiveGcd, if_pos (by decide +kernel)]
  refine ⟨?_, first, rfl⟩
  rw [operation_gcd first second, Number.gcd_real first second (by decide) (by decide) (by decide),
    if_neg (by decide), if_neg (by decide),
    Number.positiveGcd_real (Number.equal_of_value? first second) close]
  rfl

end NumericKernel

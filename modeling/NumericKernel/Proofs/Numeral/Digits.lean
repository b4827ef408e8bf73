import Mathlib.Algebra.Order.Group.Int
import Mathlib.Tactic.Linarith
import Mathlib.Tactic.Ring
import NumericKernel.Operation

/-!
# Digit lists and their integers

`positional` is the number that a list of integer digits stands for.  The digits of
an integer in a base of either sign stand for that integer, and in a base the digits
that are not negative are the only ones of their kind:

* `positional_lowFirst`, `lowFirst_bounded`, `lowFirst_getLast?_ne`: what repeated
  division leaves, whatever the sign of the base;
* `lowFirst_positional`: bounded digits without a leading zero are left again;
* `ofDigits_toDigits`: the two calls on digit lists undo each other.
-/

namespace NumericKernel.Numeral

/-! ## Positional values -/

/-- The integer that digits stand for, the most significant digit first. -/
def positional (b : Int) : List Int → Int
  | [] => 0
  | d :: rest => b ^ rest.length * d + positional b rest

/-- Digits that are appended shift those before them. -/
theorem positional_append (b : Int) (high low : List Int) :
    positional b (high ++ low) = positional b high * b ^ low.length + positional b low := by
  induction high with
  | nil => simp [positional]
  | cons d rest ih =>
    rw [List.cons_append, positional, positional, ih, List.length_append]
    ring

theorem positional_concat (b : Int) (high : List Int) (d : Int) :
    positional b (high ++ [d]) = positional b high * b + d := by
  rw [positional_append]
  simp [positional]

/-- Digits with the other sign stand for the opposite. -/
theorem positional_map_neg (b : Int) (ds : List Int) :
    positional b (ds.map (- ·)) = -positional b ds := by
  induction ds with
  | nil => rfl
  | cons d rest ih =>
    rw [List.map_cons, positional, positional, ih, List.length_map]
    ring

/-- The sum over integer digits is what these stand for. -/
theorem sumFrom_int (b : Base) (first : Int) (ds : List Int) :
    sumFrom b (.int first) (ds.map .int) = .ok (.int (first + positional b.val ds)) := by
  induction ds generalizing first with
  | nil => simp [sumFrom, positional]
  | cons d rest ih =>
    have step : sumFrom b (.int first) ((d :: rest).map .int) =
        sumFrom b (.int (first + b.val ^ (rest.map Number.int).length * d)) (rest.map .int) := rfl
    rw [step, ih, positional, List.length_map, Int.add_assoc]

/-- Integer digits stand for an exact integer. -/
theorem value_int (b : Base) (ds : List Int) :
    value b (ds.map .int) = .ok (.int (positional b.val ds)) := by
  rw [value, sumFrom_int, Int.zero_add]

/-! ## Bounded digits -/

/-- The digits that an expansion in a base has: none is negative, and all are less
than the magnitude of the base. -/
def Bounded (b : Int) (ds : List Int) : Prop := ∀ d ∈ ds, 0 ≤ d ∧ d < |b|

theorem bounded_nil (b : Int) : Bounded b [] := List.forall_mem_nil _

theorem bounded_cons {b d : Int} {ds : List Int} :
    Bounded b (d :: ds) ↔ (0 ≤ d ∧ d < |b|) ∧ Bounded b ds := List.forall_mem_cons

theorem Bounded.range {b d : Int} {ds : List Int} (base : 0 < b) (bounded : Bounded b ds)
    (member : d ∈ ds) : 0 ≤ d ∧ d < b := by
  have range := bounded d member
  rwa [abs_of_pos base] at range

theorem Base.ne_zero (b : Base) : b.val ≠ 0 := by
  have := b.two_le
  omega

/-- In a positive base, bounded digits stand for less than the next power. -/
theorem Bounded.positional_lt {b : Int} {ds : List Int} (base : 0 < b) (bounded : Bounded b ds) :
    0 ≤ positional b ds ∧ positional b ds < b ^ ds.length := by
  induction ds with
  | nil => simp [positional]
  | cons d rest ih =>
    obtain ⟨low, high⟩ := bounded.range base List.mem_cons_self
    obtain ⟨restLow, restHigh⟩ := ih (bounded_cons.1 bounded).2
    have power : 0 < b ^ rest.length := pow_pos base _
    rw [positional, List.length_cons, pow_succ]
    constructor
    · positivity
    · have : b ^ rest.length * d ≤ b ^ rest.length * (b - 1) :=
        mul_le_mul_of_nonneg_left (by omega) power.le
      linarith [mul_sub (b ^ rest.length) b 1]

/-- Bounded digits without a leading zero stand for a number above zero. -/
theorem Bounded.positional_pos {b d : Int} {rest : List Int} (base : 0 < b)
    (bounded : Bounded b (d :: rest)) (leading : d ≠ 0) : 0 < positional b (d :: rest) := by
  obtain ⟨⟨low, _⟩, tail⟩ := bounded_cons.1 bounded
  have first : 0 < b ^ rest.length * d :=
    mul_pos (pow_pos base _) (lt_of_le_of_ne low leading.symm)
  exact add_pos_of_pos_of_nonneg first (tail.positional_lt base).1

/-! ## Repeated division -/

theorem lowFirst_zero (b : Base) (h : b.val < 0 ∨ 0 ≤ (0 : Int)) : lowFirst b 0 h = [] := by
  rw [lowFirst, if_pos rfl]

/-- The lowest digit is the remainder by the base, and the others are those of the quotient. -/
theorem lowFirst_of_ne_zero {b : Base} {v : Int} (h : b.val < 0 ∨ 0 ≤ v) (nonzero : v ≠ 0) :
    ∃ rest : b.val < 0 ∨ 0 ≤ v / b.val,
      lowFirst b v h = v % b.val :: lowFirst b (v / b.val) rest := by
  have rest := divideBy_admissible h
  rw [divideBy_eq h] at rest
  refine ⟨rest, ?_⟩
  rw [lowFirst, if_neg nonzero]
  simp only [divideBy_eq h]

/-- The digits that repeated division leaves stand for the integer. -/
theorem positional_lowFirst (b : Base) (v : Int) (h : b.val < 0 ∨ 0 ≤ v) :
    positional b.val (lowFirst b v h).reverse = v := by
  fun_induction lowFirst b v h with
  | case1 h => rfl
  | case2 v h nonzero ih =>
    rw [List.reverse_cons, positional_concat, ih, divideBy_eq h]
    exact Int.ediv_mul_add_emod v b.val

/-- What repeated division leaves is below the base. -/
theorem lowFirst_bounded (b : Base) (v : Int) (h : b.val < 0 ∨ 0 ≤ v) :
    Bounded b.val (lowFirst b v h) := by
  fun_induction lowFirst b v h with
  | case1 h => exact bounded_nil b.val
  | case2 v h nonzero ih =>
    refine bounded_cons.2 ⟨?_, ih⟩
    rw [divideBy_eq h]
    exact ⟨Int.emod_nonneg v b.ne_zero, Int.emod_lt_abs v b.ne_zero⟩

theorem lowFirst_ne_nil {b : Base} {v : Int} (h : b.val < 0 ∨ 0 ≤ v) (nonzero : v ≠ 0) :
    lowFirst b v h ≠ [] := by
  obtain ⟨_, eq⟩ := lowFirst_of_ne_zero h nonzero
  rw [eq]
  exact List.cons_ne_nil _ _

/-- The division that ends an expansion leaves a digit that is not zero. -/
theorem lowFirst_getLast?_ne (b : Base) (v : Int) (h : b.val < 0 ∨ 0 ≤ v) :
    (lowFirst b v h).getLast? ≠ some 0 := by
  fun_induction lowFirst b v h with
  | case1 h => simp
  | case2 v h nonzero ih =>
    simp only [divideBy_eq h] at ih ⊢
    by_cases last : v / b.val = 0
    · have whole := Int.mul_ediv_add_emod v b.val
      simp only [last, lowFirst_zero, List.getLast?_singleton]
      rw [last, Int.mul_zero, Int.zero_add] at whole
      rw [whole]
      exact fun zero => nonzero (Option.some.inj zero)
    · obtain ⟨d, rest, tail⟩ := List.exists_cons_of_ne_nil (lowFirst_ne_nil _ last)
      rw [tail] at ih ⊢
      rwa [List.getLast?_cons_cons]

/-- Bounded digits whose last one is not zero are the ones that repeated division
leaves on the integer they stand for. -/
theorem lowFirst_positional (b : Base) {low : List Int} (bounded : Bounded b.val low)
    (last : low.getLast? ≠ some 0) (h : b.val < 0 ∨ 0 ≤ positional b.val low.reverse) :
    lowFirst b (positional b.val low.reverse) h = low := by
  induction low with
  | nil => exact lowFirst_zero b h
  | cons d rest ih =>
    obtain ⟨⟨least, greatest⟩, tailBounded⟩ := bounded_cons.1 bounded
    have tailLast : rest.getLast? ≠ some 0 := by
      cases rest with
      | nil => simp
      | cons e more => rwa [List.getLast?_cons_cons] at last
    have whole := positional_concat b.val rest.reverse d
    rw [← List.reverse_cons] at whole
    have small : d / b.val = 0 := Int.ediv_eq_zero_of_lt_abs least greatest
    -- Euclidean division is unique, so one step splits off just the digit `d`.
    have quotient : positional b.val (d :: rest).reverse / b.val = positional b.val rest.reverse := by
      rw [whole, Int.add_comm, Int.add_mul_ediv_right _ _ b.ne_zero, small, Int.zero_add]
    have digit : positional b.val (d :: rest).reverse % b.val = d := by
      rw [Int.emod_def, quotient, whole]
      ring
    by_cases zero : positional b.val (d :: rest).reverse = 0
    · rw [zero, Int.zero_emod] at digit
      rw [zero, Int.zero_ediv] at quotient
      have none : rest = [] := by
        rw [← ih tailBounded tailLast (by rw [← quotient]; exact .inr (Int.le_refl 0))]
        simp only [← quotient, lowFirst_zero]
      rw [none, ← digit] at last
      exact absurd rfl last
    · obtain ⟨admissible, eq⟩ := lowFirst_of_ne_zero h zero
      rw [eq, digit]
      simp only [quotient] at admissible ⊢
      rw [ih tailBounded tailLast admissible]

/-! ## The digits of an integer -/

theorem digits_zero (b : Base) : digits b 0 = [0] := rfl

/-- The digits of an integer come from repeated division of the integer itself, or
from that of its magnitude when it is negative in a positive base. -/
theorem digits_cases (b : Base) {v : Int} (nonzero : v ≠ 0) :
    (∃ h, (b.val < 0 ∨ 0 < v) ∧ digits b v = (lowFirst b v h).reverse) ∨
      (∃ h, 0 < b.val ∧ v < 0 ∧ digits b v = (lowFirst b (-v) h).reverse.map (- ·)) := by
  have base := b.ne_zero
  unfold digits
  rw [if_neg nonzero]
  by_cases negative : b.val < 0
  · exact .inl ⟨.inl negative, .inl negative, dif_pos negative⟩
  · rw [dif_neg negative]
    by_cases below : v < 0
    · have magnitude : (v.natAbs : Int) = -v := by omega
      refine .inr ⟨.inr (by omega), by omega, below, ?_⟩
      simp only [magnitude, if_pos below]
    · have magnitude : (v.natAbs : Int) = v := by omega
      refine .inl ⟨.inr (by omega), .inr (by omega), ?_⟩
      simp only [magnitude, if_neg below]

theorem positional_digits (b : Base) (v : Int) : positional b.val (digits b v) = v := by
  by_cases zero : v = 0
  · rw [zero, digits_zero]
    simp [positional]
  · rcases digits_cases b zero with ⟨h, _, eq⟩ | ⟨h, _, _, eq⟩
    · rw [eq, positional_lowFirst]
    · rw [eq, positional_map_neg, positional_lowFirst, Int.neg_neg]

/-- The digits of an integer other than zero have no leading zero. -/
theorem digits_head (b : Base) {v : Int} (nonzero : v ≠ 0) :
    ∃ d rest, digits b v = d :: rest ∧ d ≠ 0 := by
  have leading (w : Int) (h : b.val < 0 ∨ 0 ≤ w) (wNonzero : w ≠ 0) :
      ∃ d rest, (lowFirst b w h).reverse = d :: rest ∧ d ≠ 0 := by
    obtain ⟨d, rest, eq⟩ := List.exists_cons_of_ne_nil
      (List.reverse_ne_nil_iff.2 (lowFirst_ne_nil h wNonzero))
    refine ⟨d, rest, eq, fun zero => lowFirst_getLast?_ne b w h ?_⟩
    rw [← List.head?_reverse, eq, zero, List.head?_cons]
  rcases digits_cases b nonzero with ⟨h, _, eq⟩ | ⟨h, _, _, eq⟩
  · rw [eq]
    exact leading v h nonzero
  · obtain ⟨d, rest, magnitude, head⟩ := leading (-v) h (by omega)
    exact ⟨-d, rest.map (- ·), by rw [eq, magnitude, List.map_cons], by omega⟩

/-- Where the digits are those of the integer itself, none is negative. -/
theorem digits_bounded (b : Base) {v : Int} (h : b.val < 0 ∨ 0 ≤ v) :
    Bounded b.val (digits b v) := by
  by_cases zero : v = 0
  · rw [zero, digits_zero]
    intro d member
    rw [List.mem_singleton.1 member]
    exact ⟨Int.le_refl 0, abs_pos.2 b.ne_zero⟩
  · rcases digits_cases b zero with ⟨h, _, eq⟩ | ⟨_, positive, below, _⟩
    · rw [eq]
      exact fun d member => lowFirst_bounded b v h d (List.mem_reverse.1 member)
    · omega

/-- In a positive base the digits of a negative integer are those of its magnitude,
each with a minus sign. -/
theorem digits_neg (b : Base) {v : Int} (positive : 0 < b.val) (above : 0 < v) :
    digits b (-v) = (digits b v).map (- ·) := by
  rcases digits_cases b (v := -v) (by omega) with ⟨_, signs, _⟩ | ⟨_, _, _, negated⟩
  · omega
  · rcases digits_cases b (v := v) (by omega) with ⟨_, _, eq⟩ | ⟨_, _, below, _⟩
    · simp only [negated, eq, Int.neg_neg]
    · omega

/-- Bounded digits with a leading digit that is not zero are the digits of the integer
they stand for. -/
theorem digits_positional (b : Base) {d : Int} {rest : List Int} (bounded : Bounded b.val (d :: rest))
    (leading : d ≠ 0) (h : b.val < 0 ∨ 0 ≤ positional b.val (d :: rest)) :
    digits b (positional b.val (d :: rest)) = d :: rest := by
  have lowBounded : Bounded b.val (d :: rest).reverse :=
    fun e member => bounded e (List.mem_reverse.1 member)
  have last : (d :: rest).reverse.getLast? ≠ some 0 := by
    rw [List.getLast?_reverse]
    exact fun zero => leading (Option.some.inj zero)
  have again := lowFirst_positional b lowBounded last
  rw [List.reverse_reverse] at again
  have nonzero : positional b.val (d :: rest) ≠ 0 := by
    intro zero
    have none := again h
    simp only [zero, lowFirst_zero] at none
    exact List.cons_ne_nil d rest (List.reverse_eq_nil_iff.1 none.symm)
  rcases digits_cases b nonzero with ⟨admissible, _, eq⟩ | ⟨_, _, below, _⟩
  · rw [eq, again admissible, List.reverse_reverse]
  · omega

/-! ## The calls on digit lists -/

theorem Base.ofNumber_int {b : Int} (base : 2 ≤ b.natAbs) :
    Base.ofNumber (.int b) = .ok ⟨b, base⟩ := by
  have integral : (Number.int b).requireInteger = .ok b := rfl
  simp only [Base.ofNumber, integral, dif_pos base]
  rfl

theorem toDigits_int {b : Int} (v : Int) (base : 2 ≤ b.natAbs) :
    Operation.toDigits v b = .ok (digits ⟨b, base⟩ v) := by
  change (Base.ofNumber (.int b)).bind _ = _
  rw [Base.ofNumber_int base]
  rfl

theorem ofDigits_int {b : Int} (ds : List Int) (base : 2 ≤ b.natAbs) :
    Operation.ofDigits (ds.map .int) b = .ok (.int (positional b ds)) := by
  change (Base.ofNumber (.int b)).bind _ = _
  rw [Base.ofNumber_int base]
  exact value_int ⟨b, base⟩ ds

/-- Every integer has digits in every base of magnitude two or more, and they stand
for it.  Zero has the one digit zero, other integers have a leading digit that is not
zero; a negative base needs no negative digit, and in a positive base all digits have
the sign of the integer. -/
theorem ofDigits_toDigits (v b : Int) (base : 2 ≤ |b|) :
    ∃ ds : List Int, Operation.toDigits v b = .ok ds ∧
      Operation.ofDigits (ds.map .int) b = .ok (.int v) ∧
      (v = 0 → ds = [0]) ∧
      (v ≠ 0 → ∃ d rest, ds = d :: rest ∧ d ≠ 0) ∧
      (b < 0 → ∀ d ∈ ds, 0 ≤ d ∧ d ≤ |b| - 1) ∧
      (0 < b → ∀ d ∈ ds, |d| < b ∧ (0 < v → 0 ≤ d) ∧ (v < 0 → d ≤ 0)) := by
  have two : 2 ≤ b.natAbs := by
    rw [Int.abs_eq_natAbs] at base
    exact_mod_cast base
  refine ⟨digits ⟨b, two⟩ v, toDigits_int v two, ?_, ?_, digits_head ⟨b, two⟩, ?_, ?_⟩
  · rw [ofDigits_int _ two, positional_digits ⟨b, two⟩]
  · rintro rfl
    exact digits_zero _
  · intro negative d member
    have bounds := digits_bounded ⟨b, two⟩ (v := v) (.inl negative) d member
    exact ⟨bounds.1, Int.le_sub_one_of_lt bounds.2⟩
  · intro positive d member
    rcases Int.lt_or_le v 0 with below | above
    · have negated := digits_neg ⟨b, two⟩ (v := -v) positive (by omega)
      rw [Int.neg_neg] at negated
      rw [negated] at member
      obtain ⟨e, eMember, rfl⟩ := List.mem_map.1 member
      have bounds := digits_bounded ⟨b, two⟩ (v := -v) (.inr (by omega)) e eMember
      rw [abs_of_pos positive] at bounds
      exact ⟨by rw [abs_neg, abs_of_nonneg bounds.1]; exact bounds.2, by omega, by omega⟩
    · have bounds := digits_bounded ⟨b, two⟩ (.inr above) d member
      rw [abs_of_pos positive] at bounds
      exact ⟨by rw [abs_of_nonneg bounds.1]; exact bounds.2, fun _ => bounds.1, by omega⟩

/-- Minus three in base minus two: on the way minus one leaves one. -/
theorem ofDigits_toDigits_negative_base : 2 ≤ |(-2 : Int)| ∧
    ∃ ds : List Int, Operation.toDigits (-3 : Int) (-2 : Int) = .ok ds ∧
      Operation.ofDigits (ds.map .int) (-2 : Int) = .ok (.int (-3)) ∧
      (∀ d ∈ ds, 0 ≤ d ∧ d ≤ |(-2 : Int)| - 1) := by
  obtain ⟨ds, written, read, _, _, negative, _⟩ := ofDigits_toDigits (-3) (-2) (by decide)
  exact ⟨by decide, ds, written, read, negative (by decide)⟩

end NumericKernel.Numeral

import NumericKernel.Number.Operations
import NumericKernel.Proofs.Double.Pattern
import NumericKernel.Proofs.Double.Rounding

/-!
# Correctly rounded quotients

The quotient of two integers is rounded once.  The double that is given is the nearest one of
all finite doubles, and of two that are equally near the one with the even pattern; a
quotient from the middle on between the largest finite double and the next power of two is
too large.

* `distance_nearestBits_le`, `roundQuotient_even_of_tie`: the nearest pattern of a ratio;
* `IsNearest`: what it is for a double to be nearest to a quotient of integers;
* `Number.ratio_int_nearest`: the quotient of two integers, and when there is none.
-/

namespace NumericKernel

namespace Double

/-! ## The nearest pattern -/

section Nearest

variable {num den bits : Nat}

/-- A quotient in the middle of two naturals is rounded to the even one. -/
theorem roundQuotient_even_of_tie (positive : 0 < den)
    (tie : 2 * (roundQuotient num den * den) = 2 * num + den ∨
      2 * num = 2 * (roundQuotient num den * den) + den) : roundQuotient num den % 2 = 0 := by
  have whole := Nat.div_add_mod' num den
  have rest := Nat.mod_lt num positive
  rw [roundQuotient] at tie ⊢
  split_ifs at tie ⊢ with up
  · rw [Nat.add_mul] at tie
    omega
  · omega

theorem nearestBits_even_of_roundedSignificand (even : roundedSignificand num den % 2 = 0) :
    nearestBits num den % 2 = 0 := by
  have weight : exponentWeight = 2 * 2 ^ 51 := by decide
  rw [nearestBits_eq, weight, ← Nat.mul_assoc, Nat.mul_comm _ 2, Nat.mul_assoc]
  omega

/-- In the middle between its nearest pattern and the next one, a ratio has an even one. -/
theorem nearestBits_even_of_eq_middle (num : Nat) (positive : 0 < den)
    (tie : 2 * num = twiceMiddle (nearestBits num den) * den) : nearestBits num den % 2 = 0 := by
  have value := unitsOfBits_nearestBits_mul num positive
  have error := (roundQuotient_error num (shiftLeft_pos positive (roundedPlace num den))).2
  have within : roundedPlace num den ≤ place (nearestBits num den) :=
    le_place (roundedPlace_eq_zero_or num positive)
  have step := add_unit_le within den
  rw [← roundedSignificand, ← value] at error
  rw [twiceMiddle, Nat.add_mul] at tie
  apply nearestBits_even_of_roundedSignificand
  apply roundQuotient_even_of_tie (shiftLeft_pos positive _)
  rw [← roundedSignificand, ← value]
  omega

/-- In the middle between its nearest pattern and the one before, a ratio has an even one. -/
theorem nearestBits_even_of_middle_eq (positive : 0 < den) (nearest : nearestBits num den = bits + 1)
    (tie : twiceMiddle bits * den = 2 * num) : nearestBits num den % 2 = 0 := by
  have value := unitsOfBits_nearestBits_mul num positive
  have error := (roundQuotient_error num (shiftLeft_pos positive (roundedPlace num den))).1
  apply nearestBits_even_of_roundedSignificand
  rw [← roundedSignificand, ← value, nearest] at error
  rw [twiceMiddle, Nat.add_mul] at tie
  by_cases carry : roundedPlace num den = 0 ∨ exponentWeight < roundedSignificand num den
  · have step := add_unit_le (roundedPlace_le_of_carry nearest carry) den
    apply roundQuotient_even_of_tie (shiftLeft_pos positive _)
    rw [← roundedSignificand, ← value, nearest]
    omega
  · -- the result is the least pattern of its place, which has no fraction
    rw [not_or, Nat.not_lt] at carry
    have least := (roundedPlace_eq_zero_or num positive).resolve_left carry.1
    have weight : exponentWeight % 2 = 0 := by decide
    omega

/-- A lower pattern is not nearer to a ratio than its nearest one: the middle between the two
is not beyond the ratio. -/
theorem add_le_of_lt_nearestBits (positive : 0 < den) (below : bits < nearestBits num den) :
    unitsOfBits bits * den + unitsOfBits (nearestBits num den) * den ≤ 2 * num ∧
      (unitsOfBits bits * den + unitsOfBits (nearestBits num den) * den = 2 * num →
        nearestBits num den % 2 = 0) := by
  obtain ⟨n, nearest⟩ := Nat.exists_eq_add_one_of_ne_zero (Nat.ne_zero_of_lt below)
  have middle := middle_le_of_nearestBits positive nearest
  have order : unitsOfBits bits * den ≤ unitsOfBits n * den :=
    Nat.mul_le_mul_right den (unitsOfBits_strictMono.monotone (by omega))
  rw [twiceMiddle, Nat.add_mul, ← nearest] at middle
  refine ⟨by omega, fun tie => nearestBits_even_of_middle_eq positive nearest ?_⟩
  rw [twiceMiddle, Nat.add_mul, ← nearest]
  omega

/-- A higher pattern is not nearer to a ratio than its nearest one: the middle between the two
is not below the ratio. -/
theorem le_add_of_nearestBits_lt (num : Nat) (positive : 0 < den)
    (above : nearestBits num den < bits) :
    2 * num ≤ unitsOfBits (nearestBits num den) * den + unitsOfBits bits * den ∧
      (2 * num = unitsOfBits (nearestBits num den) * den + unitsOfBits bits * den →
        nearestBits num den % 2 = 0) := by
  have middle := le_middle_of_nearestBits num positive
  have order : unitsOfBits (nearestBits num den + 1) * den ≤ unitsOfBits bits * den :=
    Nat.mul_le_mul_right den (unitsOfBits_strictMono.monotone above)
  rw [twiceMiddle, Nat.add_mul] at middle
  refine ⟨by omega, fun tie => nearestBits_even_of_eq_middle num positive ?_⟩
  rw [twiceMiddle, Nat.add_mul]
  omega

/-- How far the value of a pattern is from a ratio, counted in fractions of a unit. -/
def distance (num den bits : Nat) : Nat := ((unitsOfBits bits * den : Nat) - num : Int).natAbs

theorem distance_zero (num den : Nat) : distance num den 0 = num := by
  rw [distance, unitsOfBits_zero, Nat.zero_mul]
  omega

/-- No pattern is nearer to a ratio than its nearest one, and if another one is as near, the
nearest one is even. -/
theorem distance_nearestBits_le (num : Nat) (positive : 0 < den) (bits : Nat) :
    distance num den (nearestBits num den) ≤ distance num den bits ∧
      (distance num den (nearestBits num den) = distance num den bits →
        bits = nearestBits num den ∨ nearestBits num den % 2 = 0) := by
  unfold distance
  rcases Nat.lt_trichotomy bits (nearestBits num den) with below | rfl | above
  · obtain ⟨middle, even⟩ := add_le_of_lt_nearestBits positive below
    have less := Nat.mul_lt_mul_of_pos_right (unitsOfBits_strictMono below) positive
    refine ⟨by omega, fun tie => .inr (even (by omega))⟩
  · exact ⟨Nat.le_refl _, fun _ => .inl rfl⟩
  · obtain ⟨middle, even⟩ := le_add_of_nearestBits_lt num positive above
    have less := Nat.mul_lt_mul_of_pos_right (unitsOfBits_strictMono above) positive
    refine ⟨by omega, fun tie => .inr (even (by omega))⟩

end Nearest

/-! ## Finite doubles -/

/-- Among the finite doubles, the one with these units is nearest to the quotient of two
integers; if a double of another value is as near, its pattern is even. -/
structure IsNearest (m n : Int) (x : Double) (units : Int) : Prop where
  value : x.value? = some (.finite units)
  nearest : ∀ (y : Double) (v : Int), y.value? = some (.finite v) →
    (units * n - m * unitsPerOne).natAbs ≤ (v * n - m * unitsPerOne).natAbs
  even_of_tie : ∀ (y : Double) (v : Int), y.value? = some (.finite v) → v ≠ units →
    (units * n - m * unitsPerOne).natAbs = (v * n - m * unitsPerOne).natAbs →
    x.magnitudeBits % 2 = 0

/-- Twice the middle between the largest finite double and the next power of two, in units. -/
def twiceLimit : Nat := twiceMiddle (infinityBits - 1)

/-- From the middle behind the largest finite double on, the nearest pattern is infinite. -/
theorem nearestBits_lt_infinityBits_iff (num : Nat) {den : Nat} (positive : 0 < den) :
    nearestBits num den < infinityBits ↔ 2 * num < twiceLimit * den := by
  have last : infinityBits - 1 + 1 = infinityBits := by decide
  constructor
  · intro finite
    have middle := le_middle_of_nearestBits num positive
    rcases Nat.lt_or_eq_of_le (Nat.le_sub_one_of_lt finite) with below | largest
    · have order : twiceMiddle (nearestBits num den) < twiceLimit :=
        Nat.add_lt_add (unitsOfBits_strictMono below)
          (unitsOfBits_strictMono (Nat.succ_lt_succ below))
      exact Nat.lt_of_le_of_lt middle (Nat.mul_lt_mul_of_pos_right order positive)
    · -- the largest finite double has an odd pattern, so it does not get the tie
      have odd : (infinityBits - 1) % 2 = 1 := by decide
      rw [largest] at middle
      refine Nat.lt_of_le_of_ne middle fun tie => ?_
      have even := nearestBits_even_of_eq_middle num positive (by rw [largest]; exact tie)
      rw [largest, odd] at even
      cases even
  · intro below
    have bound := nearestBits_le positive below
    omega

/-- The magnitudes of the finite doubles are the values of the patterns. -/
theorem exists_natAbs_eq_unitsOfBits {y : Double} {v : Int} (value : y.value? = some (.finite v)) :
    v.natAbs = unitsOfBits y.magnitudeBits := by
  rw [value?_of_finite (magnitudeBits_of_finite value), Option.some.injEq, Exact.finite.injEq] at value
  rw [← value]
  split <;> simp

/-- How far the pattern of a double is from the magnitude of a quotient. -/
theorem distance_magnitudeBits (m n : Int) {y : Double} {v : Int}
    (value : y.value? = some (.finite v)) :
    distance (m.natAbs * unitsPerOne) n.natAbs y.magnitudeBits =
      (((v * n).natAbs : Int) - (m * unitsPerOne).natAbs).natAbs := by
  rw [distance, ← exists_natAbs_eq_unitsOfBits value, Int.natAbs_mul, Int.natAbs_mul,
    Int.natAbs_natCast]

/-- Magnitudes are no further apart than the integers themselves. -/
theorem natAbs_natAbs_sub_le (a b : Int) : ((a.natAbs : Int) - b.natAbs).natAbs ≤ (a - b).natAbs := by
  omega

/-- An integer is as far as its negation from another one, and no further than zero, only if it
is zero. -/
theorem eq_zero_of_tie {a b : Int} (near : (a - b).natAbs ≤ b.natAbs)
    (tie : (a - b).natAbs = (-a - b).natAbs) : a = 0 := by
  omega

/-- Two integers that do not lie on different sides of zero. -/
def Aligned (a b : Int) : Prop := (0 ≤ a ∧ 0 ≤ b) ∨ (a ≤ 0 ∧ b ≤ 0)

theorem Aligned.natAbs_sub_eq {a b : Int} (aligned : Aligned a b) :
    ((a.natAbs : Int) - b.natAbs).natAbs = (a - b).natAbs := by
  unfold Aligned at aligned
  omega

/-- With the sign of the quotient, a value lies on the side of the dividend. -/
theorem aligned_of_sign (m n : Int) (u w : Nat) :
    Aligned ((if (m < 0) != (n < 0) then -u else u : Int) * n) (m * w) := by
  have magnitude : (0 : Int) ≤ u := u.cast_nonneg
  have weight : (0 : Int) ≤ w := w.cast_nonneg
  have negative : (-u : Int) ≤ 0 := Int.neg_nonpos_of_nonneg magnitude
  rcases Int.lt_or_le m 0 with below | above
  · have dividend := Int.mul_nonpos_of_nonpos_of_nonneg below.le weight
    rw [decide_eq_true below]
    rcases Int.lt_or_le n 0 with down | up
    · rw [decide_eq_true down]
      exact .inr ⟨Int.mul_nonpos_of_nonneg_of_nonpos magnitude down.le, dividend⟩
    · rw [decide_eq_false (Int.not_lt.2 up)]
      exact .inr ⟨Int.mul_nonpos_of_nonpos_of_nonneg negative up, dividend⟩
  · have dividend := Int.mul_nonneg above weight
    rw [decide_eq_false (Int.not_lt.2 above)]
    rcases Int.lt_or_le n 0 with down | up
    · rw [decide_eq_true down]
      exact .inl ⟨Int.mul_nonneg_of_nonpos_of_nonpos negative down.le, dividend⟩
    · rw [decide_eq_false (Int.not_lt.2 up)]
      exact .inl ⟨Int.mul_nonneg magnitude up, dividend⟩

/-- A double with the nearest pattern of the magnitudes, on the side of the dividend. -/
theorem isNearest_of_magnitudeBits {m n : Int} {x : Double} {units : Int} (nonzero : n ≠ 0)
    (value : x.value? = some (.finite units)) (aligned : Aligned (units * n) (m * unitsPerOne))
    (bits : x.magnitudeBits = nearestBits (m.natAbs * unitsPerOne) n.natAbs) :
    IsNearest m n x units := by
  have least (bits : Nat) := distance_nearestBits_le (m.natAbs * unitsPerOne)
    (Int.natAbs_pos.2 nonzero) bits
  rw [← bits, distance_magnitudeBits m n value, aligned.natAbs_sub_eq] at least
  refine ⟨value, fun y v other => ?_, fun y v other different tie => ?_⟩
  · have near := (least y.magnitudeBits).1
    rw [distance_magnitudeBits m n other] at near
    exact near.trans (natAbs_natAbs_sub_le _ _)
  · have near := least y.magnitudeBits
    rw [distance_magnitudeBits m n other] at near
    refine (near.2 (near.1.antisymm (tie ▸ natAbs_natAbs_sub_le _ _))).resolve_left fun same => ?_
    -- the negated value is as near only to the quotient zero, which is a value itself
    have size := exists_natAbs_eq_unitsOfBits other
    rw [same, ← exists_natAbs_eq_unitsOfBits value] at size
    have opposite : v = -units := (Int.natAbs_eq_natAbs_iff.1 size).resolve_left different
    have zero := (least 0).1
    rw [distance_zero, ← Int.natAbs_natCast unitsPerOne, ← Int.natAbs_mul] at zero
    rw [opposite, Int.neg_mul] at tie
    rcases Int.mul_eq_zero.1 (eq_zero_of_tie zero tie) with rfl | absent
    · exact different opposite
    · exact nonzero absent

end Double

namespace Number

open Double (IsNearest ofRatio? twiceLimit unitsPerOne)

/-- The quotient of two integers is the nearest double, or it is too large.  Which of the two
is decided by the middle behind the largest finite double. -/
theorem ratio_int_nearest (m : Int) {n : Int} (nonzero : n ≠ 0) :
    (∃ x units, ratio (.int m) (.int n) = .ok x ∧ IsNearest m n x units ∧
        2 * (m.natAbs * unitsPerOne) < twiceLimit * n.natAbs) ∨
      ratio (.int m) (.int n) = .error .quotientTooLarge ∧
        twiceLimit * n.natAbs ≤ 2 * (m.natAbs * unitsPerOne) := by
  have limit := Double.nearestBits_lt_infinityBits_iff (m.natAbs * unitsPerOne)
    (Int.natAbs_pos.2 nonzero)
  rw [ratio_int m nonzero, ofRatio?]
  by_cases finite : Double.nearestBits (m.natAbs * unitsPerOne) n.natAbs < Double.infinityBits
  · left
    rw [if_pos finite]
    have nearest := Double.isNearest_of_magnitudeBits nonzero (Double.value?_ofSignBits _ finite)
      (Double.aligned_of_sign m n _ unitsPerOne) (Double.magnitudeBits_ofSignBits _ finite.le)
    exact ⟨_, _, rfl, nearest, limit.1 finite⟩
  · right
    rw [if_neg finite]
    exact ⟨rfl, Nat.not_lt.1 (finite ∘ limit.2)⟩

end Number

end NumericKernel

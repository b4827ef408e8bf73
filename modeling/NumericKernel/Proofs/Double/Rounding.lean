import Mathlib.Order.Monotone.Basic
import Mathlib.Tactic.Ring
import NumericKernel.Double.Nearest

/-!
# Rounding to the nearest double

The patterns of the doubles without a sign are in the order of their values, and from one to
the next the value grows by one unit in the last place.  A ratio is rounded by that scale: a
pattern is below the result when the ratio is beyond the middle between it and its successor.

* `unitsOfBits_succ`, `unitsOfBits_strictMono`: the values in the order of the patterns;
* `lt_nearestBits`, `nearestBits_le`: between which middles a ratio lies;
* `nearestBits_unitsOfBits`: a value that a double has is kept;
* `nearestBits_mul`: a ratio is rounded in the same way after a common factor.
-/

namespace NumericKernel.Double

theorem exponentWeight_eq : exponentWeight = 2 ^ 52 := by decide

theorem exponentWeight_pos : 0 < exponentWeight := by decide

theorem shiftLeft_pos {m : Nat} (positive : 0 < m) (s : Nat) : 0 < m <<< s := by
  rw [Nat.shiftLeft_eq]
  exact Nat.mul_pos positive (Nat.two_pow_pos s)

/-! ## The last place of a pattern -/

/-- Units in the last place of a pattern, as the exponent of a power of two. -/
def place (bits : Nat) : Nat := bits / exponentWeight - 1

/-- How often the last place of a pattern is counted. -/
def significand (bits : Nat) : Nat := bits - place bits * exponentWeight

section Pattern

variable (bits : Nat)

theorem place_mul_add_significand : place bits * exponentWeight + significand bits = bits := by
  have whole := Nat.div_mul_le_self bits exponentWeight
  have below : place bits * exponentWeight ≤ bits / exponentWeight * exponentWeight :=
    Nat.mul_le_mul_right _ (Nat.sub_le _ _)
  rw [significand]
  omega

theorem place_mono {a b : Nat} (order : a ≤ b) : place a ≤ place b :=
  Nat.sub_le_sub_right (Nat.div_le_div_right order) 1

theorem lt_of_place_lt {a b : Nat} (below : place a < place b) : a < b :=
  Nat.lt_of_not_le fun order => Nat.not_lt.2 (place_mono order) below

/-- A pattern with an exponent of zero is its own significand, at the lowest place. -/
theorem subnormal_of_div_eq_zero {bits : Nat} (zero : bits / exponentWeight = 0) :
    place bits = 0 ∧ significand bits = bits ∧ bits % exponentWeight = bits := by
  have least : place bits = 0 := by rw [place, zero]
  refine ⟨least, by rw [significand, least, Nat.zero_mul, Nat.sub_zero], ?_⟩
  exact Nat.mod_eq_of_lt ((Nat.div_eq_zero_iff_lt exponentWeight_pos).1 zero)

/-- A pattern with another exponent has a leading bit above its fraction. -/
theorem normal_of_div_ne_zero {bits : Nat} (nonzero : bits / exponentWeight ≠ 0) :
    bits / exponentWeight = place bits + 1 ∧
      significand bits = exponentWeight + bits % exponentWeight := by
  have exponent : bits / exponentWeight = place bits + 1 :=
    (Nat.succ_pred_eq_of_ne_zero nonzero).symm
  have whole := Nat.div_add_mod' bits exponentWeight
  have split := place_mul_add_significand bits
  rw [exponent, Nat.add_mul] at whole
  exact ⟨exponent, by omega⟩

theorem significand_lt : significand bits < 2 * exponentWeight := by
  have fraction := Nat.mod_lt bits exponentWeight_pos
  by_cases zero : bits / exponentWeight = 0
  · obtain ⟨-, whole, same⟩ := subnormal_of_div_eq_zero zero
    omega
  · obtain ⟨-, whole⟩ := normal_of_div_ne_zero zero
    omega

/-- Above the least place the leading bit of the significand is there. -/
theorem place_eq_zero_or_le_significand : place bits = 0 ∨ exponentWeight ≤ significand bits := by
  by_cases zero : bits / exponentWeight = 0
  · exact .inl (subnormal_of_div_eq_zero zero).1
  · exact .inr ((normal_of_div_ne_zero zero).2 ▸ Nat.le_add_right _ _)

theorem significand_pos {bits : Nat} (positive : 0 < bits) : 0 < significand bits := by
  have split := place_mul_add_significand bits
  have weight := exponentWeight_pos
  rcases place_eq_zero_or_le_significand bits with least | normal
  · rw [least] at split
    omega
  · omega

/-- A carry out of the significand is a carry into the exponent. -/
theorem unitsOfBits_add {s q : Nat} (bound : q ≤ 2 * exponentWeight)
    (full : s = 0 ∨ exponentWeight ≤ q) : unitsOfBits (s * exponentWeight + q) = q <<< s := by
  have positive := exponentWeight_pos
  rw [unitsOfBits, Nat.mul_add_mod_self_right, Nat.mul_comm s, Nat.mul_add_div positive]
  rcases Nat.lt_trichotomy q exponentWeight with subnormal | rfl | above
  · obtain rfl : s = 0 := full.resolve_right (Nat.not_le.2 subnormal)
    rw [Nat.div_eq_of_lt subnormal, if_pos rfl, Nat.mod_eq_of_lt subnormal, Nat.shiftLeft_zero]
  · rw [Nat.div_self positive, Nat.mod_self]
    rfl
  · rcases Nat.lt_or_eq_of_le bound with normal | rfl
    · have one : q / exponentWeight = 1 :=
        Nat.div_eq_of_lt_le (by omega) (by omega)
      have fraction := Nat.div_add_mod q exponentWeight
      rw [one, Nat.mul_one] at fraction
      rw [one, fraction]
      rfl
    · rw [Nat.mul_div_cancel _ positive, Nat.mul_mod_left, if_neg (by omega)]
      rw [Nat.shiftLeft_eq, Nat.shiftLeft_eq, show s + 2 - 1 = s + 1 from rfl, Nat.pow_succ]
      ring

/-- The last place is at least the one that was counted. -/
theorem le_place {s q : Nat} (full : s = 0 ∨ exponentWeight ≤ q) :
    s ≤ place (s * exponentWeight + q) := by
  rw [place, Nat.mul_comm, Nat.mul_add_div exponentWeight_pos]
  rcases full with rfl | normal
  · exact Nat.zero_le _
  · have one := Nat.div_pos normal exponentWeight_pos
    omega

theorem unitsOfBits_eq : unitsOfBits bits = significand bits <<< place bits := by
  rw [← unitsOfBits_add (Nat.le_of_lt (significand_lt bits)) (place_eq_zero_or_le_significand bits),
    place_mul_add_significand]

/-- From a pattern to its successor the value grows by one unit in its last place. -/
theorem unitsOfBits_succ : unitsOfBits (bits + 1) = unitsOfBits bits + 1 <<< place bits := by
  have next := unitsOfBits_add (s := place bits) (q := significand bits + 1) (significand_lt bits)
    ((place_eq_zero_or_le_significand bits).imp_right Nat.le_succ_of_le)
  rw [← Nat.add_assoc, place_mul_add_significand] at next
  rw [next, unitsOfBits_eq, Nat.shiftLeft_eq, Nat.shiftLeft_eq, Nat.shiftLeft_eq, Nat.add_mul]

end Pattern

/-- The values of the patterns are in the order of the patterns. -/
theorem unitsOfBits_strictMono : StrictMono unitsOfBits :=
  strictMono_nat_of_lt_succ fun bits => by
    rw [unitsOfBits_succ]
    exact Nat.lt_add_of_pos_right (shiftLeft_pos Nat.one_pos _)

theorem unitsOfBits_zero : unitsOfBits 0 = 0 := rfl

/-- Twice the value in the middle between a pattern and the next one. -/
def twiceMiddle (bits : Nat) : Nat := unitsOfBits bits + unitsOfBits (bits + 1)

theorem twiceMiddle_mono {a b : Nat} (order : a ≤ b) : twiceMiddle a ≤ twiceMiddle b :=
  Nat.add_le_add (unitsOfBits_strictMono.monotone order)
    (unitsOfBits_strictMono.monotone (Nat.succ_le_succ order))

/-! ## The rounded quotient -/

section Quotient

variable {num den : Nat}

/-- The quotient is off by half a divisor at most. -/
theorem roundQuotient_error (num : Nat) (positive : 0 < den) :
    2 * (roundQuotient num den * den) ≤ 2 * num + den ∧
      2 * num ≤ 2 * (roundQuotient num den * den) + den := by
  have whole := Nat.div_add_mod' num den
  have rest := Nat.mod_lt num positive
  rw [roundQuotient]
  split_ifs with up
  · rw [Nat.add_mul]
    omega
  · omega

/-- A whole number that a ratio reaches is reached by the rounded ratio. -/
theorem le_roundQuotient {q : Nat} (positive : 0 < den) (within : q * den ≤ num) :
    q ≤ roundQuotient num den := by
  have whole := (Nat.le_div_iff_mul_le positive).2 within
  rw [roundQuotient]
  split <;> omega

/-- A whole number above a ratio is not passed by the rounded ratio. -/
theorem roundQuotient_le {q : Nat} (positive : 0 < den) (below : num < q * den) :
    roundQuotient num den ≤ q := by
  have whole := (Nat.div_lt_iff_lt_mul positive).2 below
  rw [roundQuotient]
  split <;> omega

theorem roundQuotient_mul (num den : Nat) {c : Nat} (positive : 0 < c) :
    roundQuotient (num * c) (den * c) = roundQuotient num den := by
  have twice : 2 * (num % den * c) = 2 * (num % den) * c := (Nat.mul_assoc ..).symm
  simp only [roundQuotient, Nat.mul_div_mul_right _ _ positive, Nat.mul_mod_mul_right, twice,
    Nat.mul_lt_mul_right positive, Nat.mul_left_inj (Nat.ne_of_gt positive)]

end Quotient

/-! ## The nearest pattern -/

section Nearest

variable {num den bits : Nat}

/-- The place to which a ratio is rounded, as the exponent of a power of two. -/
def roundedPlace (num den : Nat) : Nat := (num / den).log2 - fractionBits

/-- A ratio rounded to its place. -/
def roundedSignificand (num den : Nat) : Nat :=
  roundQuotient num (den <<< roundedPlace num den)

theorem nearestBits_eq (num den : Nat) :
    nearestBits num den = roundedPlace num den * exponentWeight + roundedSignificand num den := rfl

/-- At its place a ratio stays below twice the weight of the leading bit. -/
theorem lt_of_roundedPlace (num : Nat) (positive : 0 < den) :
    num < 2 * exponentWeight * den <<< roundedPlace num den := by
  have log : num / den < 2 ^ (53 + roundedPlace num den) := by
    refine Nat.lt_of_lt_of_le Nat.lt_log2_self (Nat.pow_le_pow_right Nat.two_pos ?_)
    rw [roundedPlace, fractionBits]
    omega
  rw [Nat.div_lt_iff_lt_mul positive, Nat.pow_add] at log
  rw [exponentWeight_eq, Nat.shiftLeft_eq]
  calc num < 2 ^ 53 * 2 ^ roundedPlace num den * den := log
    _ = 2 * 2 ^ 52 * (den * 2 ^ roundedPlace num den) := by ring

/-- At its place a ratio reaches the leading bit, unless the place is the lowest. -/
theorem le_of_roundedPlace (num : Nat) (positive : 0 < den) :
    roundedPlace num den = 0 ∨ exponentWeight * den <<< roundedPlace num den ≤ num := by
  refine (Nat.eq_zero_or_pos _).imp_right fun above => ?_
  have exponent : (num / den).log2 = 52 + roundedPlace num den := by
    rw [roundedPlace, fractionBits] at above ⊢
    omega
  have log : 2 ^ (52 + roundedPlace num den) ≤ num / den := by
    rw [← exponent]
    refine Nat.log2_self_le fun zero => ?_
    rw [zero, Nat.log2_zero] at exponent
    omega
  rw [Nat.le_div_iff_mul_le positive, Nat.pow_add] at log
  rw [exponentWeight_eq, Nat.shiftLeft_eq]
  calc 2 ^ 52 * (den * 2 ^ roundedPlace num den)
    _ = 2 ^ 52 * 2 ^ roundedPlace num den * den := by ring
    _ ≤ num := log

/-- A ratio is rounded to at most twice the weight of the leading bit. -/
theorem roundedSignificand_le (num : Nat) (positive : 0 < den) :
    roundedSignificand num den ≤ 2 * exponentWeight :=
  roundQuotient_le (shiftLeft_pos positive _) (lt_of_roundedPlace num positive)

/-- A ratio is rounded to a full significand, unless its place is the lowest. -/
theorem roundedPlace_eq_zero_or (num : Nat) (positive : 0 < den) :
    roundedPlace num den = 0 ∨ exponentWeight ≤ roundedSignificand num den :=
  (le_of_roundedPlace num positive).imp_right (le_roundQuotient (shiftLeft_pos positive _))

/-- The nearest pattern has the value of the rounded significand at its place. -/
theorem unitsOfBits_nearestBits (num : Nat) (positive : 0 < den) :
    unitsOfBits (nearestBits num den) = roundedSignificand num den <<< roundedPlace num den :=
  unitsOfBits_add (roundedSignificand_le num positive) (roundedPlace_eq_zero_or num positive)

/-- The distance to the next pattern is the rounded place or more. -/
theorem add_unit_le {s : Nat} (within : s ≤ place bits) (den : Nat) :
    unitsOfBits bits * den + den <<< s ≤ unitsOfBits (bits + 1) * den := by
  have smaller : 2 ^ s * den ≤ 2 ^ place bits * den :=
    Nat.mul_le_mul_right _ (Nat.pow_le_pow_right Nat.two_pos within)
  rw [unitsOfBits_succ, Nat.add_mul, Nat.shiftLeft_eq, Nat.shiftLeft_eq, Nat.one_mul,
    Nat.mul_comm den]
  exact Nat.add_le_add_left smaller _

/-- The value of the nearest pattern times the denominator. -/
theorem unitsOfBits_nearestBits_mul (num : Nat) (positive : 0 < den) :
    unitsOfBits (nearestBits num den) * den =
      roundedSignificand num den * den <<< roundedPlace num den := by
  rw [unitsOfBits_nearestBits num positive, Nat.shiftLeft_eq, Nat.shiftLeft_eq, Nat.mul_assoc,
    Nat.mul_comm den]

/-- Unless the result is the least pattern of a place, the one before has the same place. -/
theorem roundedPlace_le_of_carry (nearest : nearestBits num den = bits + 1)
    (carry : roundedPlace num den = 0 ∨ exponentWeight < roundedSignificand num den) :
    roundedPlace num den ≤ place bits := by
  rcases carry with zero | above
  · exact zero.symm ▸ Nat.zero_le _
  · have before := le_place (s := roundedPlace num den) (.inr (Nat.le_sub_one_of_lt above))
    rw [nearestBits_eq] at nearest
    rwa [show bits = roundedPlace num den * exponentWeight + (roundedSignificand num den - 1) by
      omega]

/-- A ratio is not below the middle between its nearest pattern and the one before. -/
theorem middle_le_of_nearestBits (positive : 0 < den) (nearest : nearestBits num den = bits + 1) :
    twiceMiddle bits * den ≤ 2 * num := by
  have value := unitsOfBits_nearestBits_mul num positive
  have error := (roundQuotient_error num (shiftLeft_pos positive (roundedPlace num den))).1
  rw [← roundedSignificand, ← value, nearest] at error
  rw [twiceMiddle, Nat.add_mul]
  by_cases carry : roundedPlace num den = 0 ∨ exponentWeight < roundedSignificand num den
  · have step := add_unit_le (roundedPlace_le_of_carry nearest carry) den
    omega
  · -- the result is the least pattern of its place, and the one before has a finer one
    rw [not_or, Nat.not_lt] at carry
    have lower := (le_of_roundedPlace num positive).resolve_left carry.1
    have upper : unitsOfBits (bits + 1) * den ≤ num := by
      rw [← nearest, value]
      exact Nat.le_trans (Nat.mul_le_mul_right _ carry.2) lower
    have step := add_unit_le (Nat.zero_le (place bits)) den
    omega

/-- A ratio is not beyond the middle between its nearest pattern and the next one. -/
theorem le_middle_of_nearestBits (num : Nat) (positive : 0 < den) :
    2 * num ≤ twiceMiddle (nearestBits num den) * den := by
  have value := unitsOfBits_nearestBits_mul num positive
  have error := (roundQuotient_error num (shiftLeft_pos positive (roundedPlace num den))).2
  have within : roundedPlace num den ≤ place (nearestBits num den) :=
    le_place (roundedPlace_eq_zero_or num positive)
  have step := add_unit_le within den
  rw [← roundedSignificand, ← value] at error
  rw [twiceMiddle, Nat.add_mul]
  omega

/-- Below the middle between a pattern and the next one the result is that pattern or less. -/
theorem nearestBits_le (positive : 0 < den) (below : 2 * num < twiceMiddle bits * den) :
    nearestBits num den ≤ bits := by
  by_contra above
  obtain ⟨n, nearest⟩ := Nat.exists_eq_add_one_of_ne_zero (Nat.ne_zero_of_lt (Nat.not_le.1 above))
  have middle := middle_le_of_nearestBits positive nearest
  have order : twiceMiddle bits ≤ twiceMiddle n := twiceMiddle_mono (by omega)
  exact Nat.not_lt.2 (Nat.le_trans (Nat.mul_le_mul_right den order) middle) below

/-- Beyond the middle between a pattern and the next one the result is above that pattern. -/
theorem lt_nearestBits (positive : 0 < den) (beyond : twiceMiddle bits * den < 2 * num) :
    bits < nearestBits num den := by
  by_contra under
  have middle := le_middle_of_nearestBits num positive
  have order := twiceMiddle_mono (Nat.not_lt.1 under)
  exact Nat.not_lt.2 (Nat.le_trans middle (Nat.mul_le_mul_right den order)) beyond

/-- A value that a pattern has is rounded to that pattern. -/
theorem nearestBits_unitsOfBits (bits : Nat) (positive : 0 < den) :
    nearestBits (unitsOfBits bits * den) den = bits := by
  have twice (n : Nat) : 2 * (n * den) = (n + n) * den := by ring
  apply Nat.le_antisymm
  · apply nearestBits_le positive
    rw [twice, twiceMiddle, Nat.mul_lt_mul_right positive]
    exact Nat.add_lt_add_left (unitsOfBits_strictMono (Nat.lt_succ_self bits)) _
  · rcases bits with _ | bits
    · exact Nat.zero_le _
    · apply lt_nearestBits positive
      rw [twice, twiceMiddle, Nat.mul_lt_mul_right positive]
      exact Nat.add_lt_add_right (unitsOfBits_strictMono (Nat.lt_succ_self bits)) _

/-- A common factor does not change the nearest pattern. -/
theorem nearestBits_mul (num den : Nat) {c : Nat} (positive : 0 < c) :
    nearestBits (num * c) (den * c) = nearestBits num den := by
  have shifted (s : Nat) : (den * c) <<< s = den <<< s * c := by
    rw [Nat.shiftLeft_eq, Nat.shiftLeft_eq, Nat.mul_right_comm]
  simp only [nearestBits, Nat.mul_div_mul_right _ _ positive, shifted,
    roundQuotient_mul _ _ positive]

end Nearest

end NumericKernel.Double

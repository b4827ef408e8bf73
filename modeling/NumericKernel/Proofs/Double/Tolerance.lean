import NumericKernel.Number.Tolerance
import NumericKernel.Proofs.Double.Whole

/-!
# Whole doubles up to rounding

Two whole doubles are taken for equal when their difference is within a share of the greater
one.  The share is a product of doubles and so it is rounded itself.  This shows in one place:
a difference above `2 ^ 23` also counts when one more than the greater number is exactly
`10 ^ 9` of it.  No whole number is so small as to be taken for zero.

* `wholeBits_le_shareBits_iff`: when a difference is within the share of a number;
* `isClose_whole_iff`: when two whole doubles are taken for equal;
* `isNearZero_whole`: none is taken for zero.
-/

namespace NumericKernel.Double

/-! ## The share of a number -/

/-- The last place of the share of one. -/
def sharePlace : Nat := 992

/-- The unit in which the share of a number is counted. -/
def shareUnit : Nat := 1 <<< sharePlace

/-- The share of one in its last place. -/
def shareOfOne : Nat := 4835703278458517

theorem relativeTolerance_eq :
    relativeTolerance = ofSignBits false (sharePlace * exponentWeight + shareOfOne) := by
  decide +kernel

/-- The pattern of the share of a number that counts as rounding. -/
def shareBits (n : Nat) : Nat := nearestBits (shareOfOne * (n * shareUnit)) 1

section Share

variable {m n d b : Nat}

theorem unitsPerOne_eq : unitsPerOne = 2 ^ 82 * shareUnit := by decide

theorem share_isPositive : IsPositive (sharePlace * exponentWeight + shareOfOne) :=
  ⟨by decide, by decide⟩

/-- The share of a whole number is a finite double above zero. -/
theorem shareBits_isPositive (exact : IsExact n) : IsPositive (shareBits n) := by
  have unit : 0 < n * shareUnit := Nat.mul_pos exact.pos (by decide)
  constructor
  · apply lt_nearestBits Nat.one_pos
    change 1 < _
    rw [shareOfOne]
    omega
  · refine Nat.lt_of_le_of_lt (nearestBits_le Nat.one_pos ?_) exact.isPositive.finite
    rw [twiceMiddle, unitsOfBits_succ, unitsOfBits_wholeBits exact, unitsPerOne_eq, shareOfOne,
      Nat.mul_left_comm n]
    generalize 1 <<< place (wholeBits n) = step
    omega

/-- The tolerance times a whole double is the share of its number. -/
theorem relativeTolerance_mul (exact : IsExact n) :
    relativeTolerance * whole n = ofSignBits false (shareBits n) := by
  have share : unitsOfBits (sharePlace * exponentWeight + shareOfOne) = shareOfOne * shareUnit := by
    rw [unitsOfBits_add (by decide) (.inr (by decide)), Nat.shiftLeft_eq, shareUnit,
      Nat.one_shiftLeft]
  have product : shareOfOne * shareUnit * (n * unitsPerOne) =
      shareOfOne * (n * shareUnit) * unitsPerOne := by ring
  rw [relativeTolerance_eq, whole, mul_ofSignBits share_isPositive exact.isPositive, share,
    unitsOfBits_wholeBits exact, product, ofRatio_mul _ _ _ (by decide), ofRatio_unitsPerOne,
    ← shareBits, Nat.min_eq_left (Nat.le_of_lt (shareBits_isPositive exact).finite)]

/-! ## The pattern below a whole number -/

/-- The pattern below a whole number up to a power of two has no higher place than that. -/
theorem place_le_of_le_two_pow (exact : IsExact d) (pattern : wholeBits d = b + 1) {l : Nat}
    (bound : d ≤ 2 ^ l) : place b ≤ l + 1021 := by
  have below : b < (l + 1023) * exponentWeight := by
    rw [← Nat.succ_le_iff, Nat.succ_eq_add_one, ← pattern, ← unitsOfBits_strictMono.le_iff_le,
      unitsOfBits_wholeBits exact, unitsOfBits_two_pow]
    exact Nat.mul_le_mul_right _ bound
  rw [← Nat.div_lt_iff_lt_mul exponentWeight_pos] at below
  rw [place]
  omega

/-- The pattern below a whole number above a power of two has no lower place than that. -/
theorem le_place_of_two_pow_lt (exact : IsExact d) (pattern : wholeBits d = b + 1) {l : Nat}
    (bound : 2 ^ l < d) : l + 1022 ≤ place b := by
  have above : (l + 1023) * exponentWeight ≤ b := by
    rw [← Nat.lt_succ_iff, Nat.succ_eq_add_one, ← pattern, ← unitsOfBits_strictMono.lt_iff_lt,
      unitsOfBits_wholeBits exact, unitsOfBits_two_pow, Nat.mul_lt_mul_right (by decide)]
    exact bound
  rw [← Nat.le_div_iff_mul_le exponentWeight_pos] at above
  rw [place]
  omega

/-! ## Differences within the share of a number -/

/-- A difference counts as rounding of a number when it is a thousand-millionth of it, or when
the product that stands for this is rounded up to it. -/
def IsShare (n d : Nat) : Prop := 10 ^ 9 * d ≤ n ∨ n + 1 = 10 ^ 9 * d ∧ 2 ^ 23 < d

theorem one_shiftLeft_le {p k : Nat} (within : p ≤ k + sharePlace) :
    1 <<< p ≤ 2 ^ k * shareUnit := by
  rw [shareUnit, Nat.one_shiftLeft, Nat.one_shiftLeft, ← Nat.pow_add]
  exact Nat.pow_le_pow_right Nat.two_pos within

theorem le_one_shiftLeft {p k : Nat} (within : k + sharePlace ≤ p) :
    2 ^ k * shareUnit ≤ 1 <<< p := by
  rw [shareUnit, Nat.one_shiftLeft, Nat.one_shiftLeft, ← Nat.pow_add]
  exact Nat.pow_le_pow_right Nat.two_pos within

/-- Twice the middle between a whole number and the double before it. -/
theorem middle_add_step (exact : IsExact d) (pattern : wholeBits d = b + 1) :
    twiceMiddle b + 1 <<< place b = 2 ^ 83 * (d * shareUnit) := by
  have units := unitsOfBits_wholeBits exact
  have step := unitsOfBits_succ b
  rw [pattern, unitsPerOne_eq, Nat.mul_left_comm d] at units
  rw [twiceMiddle]
  omega

/-- A difference that counts as a share lies within the rounded share. -/
theorem middle_lt_of_isShare (right : IsExact d) (pattern : wholeBits d = b + 1)
    (share : IsShare n d) : twiceMiddle b < 2 * (shareOfOne * (n * shareUnit)) := by
  have middle := middle_add_step right pattern
  have unit : 0 < shareUnit := by decide
  rw [shareOfOne]
  rcases share with within | ⟨rounded, large⟩
  · have scaled := Nat.mul_le_mul_right shareUnit within
    have step : 0 < 1 <<< place b := shiftLeft_pos Nat.one_pos _
    rw [Nat.mul_assoc] at scaled
    generalize 1 <<< place b = s at *
    omega
  · have coarse : 2 ^ 53 * shareUnit ≤ 1 <<< place b :=
      le_one_shiftLeft (le_place_of_two_pow_lt right pattern large)
    have scaled := congrArg (· * shareUnit) rounded
    have difference := Nat.mul_lt_mul_of_pos_right large unit
    simp only [Nat.add_mul, Nat.mul_assoc, Nat.one_mul] at scaled
    generalize 1 <<< place b = s at *
    omega

/-- The finer the place below the difference is, the nearer to the difference the share may be. -/
theorem lt_middle_of_not_isShare (left : IsExact n) (right : IsExact d)
    (pattern : wholeBits d = b + 1) (share : ¬ IsShare n d) :
    2 * (shareOfOne * (n * shareUnit)) < twiceMiddle b := by
  have middle := middle_add_step right pattern
  have unit : 0 < shareUnit := by decide
  have scale {x y : Nat} (below : x ≤ y) : x * shareUnit ≤ y * shareUnit :=
    Nat.mul_le_mul_right _ below
  have fine {l : Nat} (bound : d ≤ 2 ^ l) : 1 <<< place b ≤ 2 ^ (l + 29) * shareUnit :=
    one_shiftLeft_le (place_le_of_le_two_pow right pattern bound)
  rw [IsShare] at share
  rw [shareOfOne]
  rcases Nat.lt_or_ge (2 ^ 24) d with large | bounded
  · -- the share of any number below `2 ^ 53` is less than `2 ^ 24`
    have step := fine (Nat.le_of_lt right.small)
    have number := scale (Nat.le_of_lt left.small)
    have difference := scale large
    rw [Nat.succ_mul] at difference
    generalize 1 <<< place b = s at *
    omega
  rcases Nat.lt_or_ge (2 ^ 23) d with medium | small
  · have step := fine bounded
    have short := scale (show n + 2 ≤ 10 ^ 9 * d by omega)
    have difference := scale bounded
    rw [Nat.add_mul, Nat.mul_assoc] at short
    generalize 1 <<< place b = s at *
    omega
  · have step := fine small
    have short := scale (show n + 1 ≤ 10 ^ 9 * d by omega)
    have difference := scale small
    rw [Nat.add_mul, Nat.mul_assoc] at short
    generalize 1 <<< place b = s at *
    omega

/-- A share is rounded up to a difference when it is beyond the middle between this and the
double before. -/
theorem wholeBits_le_shareBits_iff (left : IsExact n) (right : IsExact d) :
    wholeBits d ≤ shareBits n ↔ IsShare n d := by
  obtain ⟨b, pattern⟩ := Nat.exists_eq_add_one_of_ne_zero (Nat.ne_of_gt right.isPositive.pos)
  rw [pattern, Nat.succ_le_iff]
  constructor
  · intro within
    by_contra share
    have below := lt_middle_of_not_isShare left right pattern share
    rw [← Nat.mul_one (twiceMiddle b)] at below
    exact Nat.not_le.2 within (nearestBits_le Nat.one_pos below)
  · intro share
    have beyond := middle_lt_of_isShare right pattern share
    rw [← Nat.mul_one (twiceMiddle b)] at beyond
    exact lt_nearestBits Nat.one_pos beyond

end Share

/-! ## Comparison up to rounding -/

section Tolerance

variable {m n : Nat}

theorem absoluteTolerance_eq :
    absoluteTolerance = ofSignBits false (982 * exponentWeight + 4951760157141521) := by
  decide +kernel

theorem not_whole_le_absoluteTolerance (exact : IsExact n) : ¬ whole n ≤ absoluteTolerance := by
  have one : (0 + 1023) * exponentWeight ≤ wholeBits n := by
    rw [← unitsOfBits_strictMono.le_iff_le, unitsOfBits_two_pow, unitsOfBits_wholeBits exact]
    exact Nat.mul_le_mul_right _ exact.pos
  rw [absoluteTolerance_eq, whole, ofSignBits_le_iff exact.isPositive ⟨by decide, by decide⟩,
    Nat.not_le]
  exact Nat.lt_of_lt_of_le (by decide) one

/-- No whole double other than zero is taken for zero. -/
theorem isNearZero_whole (exact : IsExact n) : (whole n).isNearZero = false := by
  rw [isNearZero, whole, abs_ofSignBits _ exact.isPositive, ← whole, decide_eq_false]
  exact not_whole_le_absoluteTolerance exact

/-- Different numbers that are taken for equal. -/
def Confused (m n : Nat) : Prop := m ≠ n ∧ IsShare (max m n) (max m n - min m n)

instance (m n : Nat) : Decidable (Confused m n) :=
  inferInstanceAs (Decidable (m ≠ n ∧ (_ ≤ _ ∨ _ = _ ∧ _ < _)))

/-- The share of the greater number decides. -/
theorem confused_iff (different : m ≠ n) :
    Confused m n ↔ IsShare m (n - m : Int).natAbs ∨ IsShare n (n - m : Int).natAbs := by
  simp only [Confused, IsShare]
  omega

/-- Two whole doubles are taken for equal exactly if they are equal or confused. -/
theorem isClose_whole_iff (left : IsExact m) (right : IsExact n) :
    (whole m).isClose (whole n) = true ↔ m = n ∨ Confused m n := by
  have same : (whole m == whole n) = true ↔ m = n := by
    rw [whole, whole, ofSignBits_beq_iff left.isPositive right.isPositive, wholeBits_inj left right]
  unfold isClose
  split_ifs with equal infinite
  · exact iff_of_true rfl (.inl (same.1 equal))
  · have finite : ((whole m).isInf || (whole n).isInf) = false := by
      rw [whole, whole, isInf_ofSignBits _ left.isPositive, isInf_ofSignBits _ right.isPositive]
      rfl
    exact absurd (finite.symm.trans infinite) (by decide)
  · have different : m ≠ n := mt same.2 equal
    have gap := right.sub left different.symm
    rw [abs_sub_whole right left different.symm, relativeTolerance_mul left,
      relativeTolerance_mul right, abs_ofSignBits _ (shareBits_isPositive left),
      abs_ofSignBits _ (shareBits_isPositive right)]
    simp only [Bool.or_eq_true, decide_eq_true_eq]
    rw [whole, ofSignBits_le_iff gap.isPositive (shareBits_isPositive left),
      ofSignBits_le_iff gap.isPositive (shareBits_isPositive right), ← whole,
      wholeBits_le_shareBits_iff left gap, wholeBits_le_shareBits_iff right gap,
      or_iff_left (not_whole_le_absoluteTolerance gap), or_iff_right different,
      confused_iff different, or_comm]

/-- The least neighbouring numbers that are taken for equal. -/
example : Confused 999999999 1000000000 ∧ ¬ Confused 999999998 999999999 := by decide

end Tolerance

end NumericKernel.Double

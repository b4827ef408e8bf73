import NumericKernel.Proofs.Double.Unpacked

/-!
# Operations on positive doubles

Difference and product of two positive doubles are the doubles nearest to the exact ones, and
the order of the doubles is that of their patterns.

* `sub_ofSignBits`, `mul_ofSignBits`: the exact result is rounded once;
* `ofSignBits_lt_iff`, `ofSignBits_le_iff`, `ofSignBits_beq_iff`: the order;
* `abs_ofSignBits`, `neg_ofSignBits`: the sign alone changes.
-/

namespace NumericKernel.Double

open Float.Model Float.Model.UnpackedFloat

/-- The pattern of a positive finite double. -/
structure IsPositive (bits : Nat) : Prop where
  pos : 0 < bits
  finite : bits < infinityBits

section Operations

variable {a b : Nat}

/-- A positive double is unpacked to its significand at its place. -/
theorem unpack_ofSignBits (negative : Bool) {bits : Nat} (positive : IsPositive bits) :
    (ofSignBits negative bits).toModel.unpack =
      .finite (signOf negative) (significand bits) (place bits - 1074)
        (significand_pos positive.pos) := by
  have number := Nat.le_of_lt positive.finite
  have unpacked :=
    unpack_of_bits (magnitudeBits_ofSignBits negative number) positive.pos positive.finite
  change _ = UnpackedFloat.finite (signOf (ofSignBits negative bits).signBit) _ _ _ at unpacked
  rw [signBit_ofSignBits negative number] at unpacked
  exact unpacked

theorem unitsOfBits_shift (bits : Nat) {p : Nat} (within : p ≤ place bits) :
    significand bits <<< (place bits - p) <<< p = unitsOfBits bits := by
  rw [← Nat.shiftLeft_add, Nat.sub_add_cancel within, unitsOfBits_eq]

theorem ofRatio_mul (negative : Bool) (num den : Nat) {c : Nat} (positive : 0 < c) :
    ofRatio negative (num * c) (den * c) = ofRatio negative num den := by
  rw [ofRatio, ofRatio, Nat.mul_right_comm, nearestBits_mul _ _ positive]

/-- A count of units is rounded as it is. -/
theorem ofRatio_unitsPerOne (negative : Bool) (units : Nat) :
    ofRatio negative units unitsPerOne =
      ofSignBits negative (min (nearestBits units 1) infinityBits) := by
  have scaled := nearestBits_mul units 1 (c := unitsPerOne) (by decide)
  rw [Nat.one_mul] at scaled
  rw [ofRatio, scaled]

/-! ## Difference and product -/

/-- The place in which two significands are subtracted. -/
def commonPlace (a b : Nat) : Nat := min (place a) (place b)

/-- The difference of two significands in their common place. -/
def alignedDifference (a b : Nat) : Int :=
  (significand a <<< (place a - commonPlace a b) : Nat) -
    (significand b <<< (place b - commonPlace a b) : Nat)

/-- The values of two patterns differ by their difference at the common place. -/
theorem unitsOfBits_sub (a b : Nat) :
    (unitsOfBits a - unitsOfBits b : Int) = alignedDifference a b * (2 ^ commonPlace a b : Nat) := by
  have first := unitsOfBits_shift a (p := commonPlace a b) (Nat.min_le_left _ _)
  have second := unitsOfBits_shift b (p := commonPlace a b) (Nat.min_le_right _ _)
  rw [← first, ← second, Nat.shiftLeft_eq _ (commonPlace a b), Nat.shiftLeft_eq _ (commonPlace a b),
    alignedDifference]
  push_cast
  ring

/-- The difference at the common place is below zero exactly for a lesser pattern. -/
theorem alignedDifference_neg_iff (a b : Nat) : alignedDifference a b < 0 ↔ a < b := by
  have unit : (0 : Int) < (2 ^ commonPlace a b : Nat) := by exact_mod_cast Nat.two_pow_pos _
  have product := mul_neg_iff (a := alignedDifference a b) (b := (2 ^ commonPlace a b : Nat))
  rw [← unitsOfBits_sub] at product
  rw [← unitsOfBits_strictMono.lt_iff_lt]
  omega

theorem alignedDifference_ne_zero (different : a ≠ b) : alignedDifference a b ≠ 0 := by
  intro zero
  have units := unitsOfBits_sub a b
  rw [zero, Int.zero_mul] at units
  exact different (unitsOfBits_strictMono.injective (by omega))

/-- The difference of two positive doubles is the double nearest to the exact difference. -/
theorem sub_ofSignBits (left : IsPositive a) (right : IsPositive b) (different : a ≠ b) :
    ofSignBits false a - ofSignBits false b =
      ofRatio (a < b) (unitsOfBits a - unitsOfBits b : Int).natAbs unitsPerOne := by
  change packed (UnpackedFloat.sub .binary64 _ _) = _
  rw [unpack_ofSignBits false left, unpack_ofSignBits false right, ofRatio_unitsPerOne]
  have magnitude : (unitsOfBits a - unitsOfBits b : Int).natAbs =
      (alignedDifference a b).natAbs <<< commonPlace a b := by
    rw [unitsOfBits_sub, Int.natAbs_mul, Nat.shiftLeft_eq, Int.natAbs_natCast]
  have exponent : min ((place a : Int) - 1074) (place b - 1074) = commonPlace a b - 1074 := by
    rw [commonPlace]
    omega
  have shift {p : Nat} (within : commonPlace a b ≤ p) :
      ((p : Int) - 1074 - (commonPlace a b - 1074)).toNat = p - commonPlace a b := by omega
  rw [magnitude, ← decide_eq_decide.2 (alignedDifference_neg_iff a b),
    ← packed_normalize (alignedDifference_ne_zero different), UnpackedFloat.sub]
  dsimp only
  rw [exponent, decreaseExponent, decreaseExponent, shift (Nat.min_le_left _ _),
    shift (Nat.min_le_right _ _)]
  rfl

/-- The product of two positive doubles is the double nearest to the exact product. -/
theorem mul_ofSignBits (left : IsPositive a) (right : IsPositive b) :
    ofSignBits false a * ofSignBits false b =
      ofRatio false (unitsOfBits a * unitsOfBits b) (unitsPerOne * unitsPerOne) := by
  change packed (UnpackedFloat.mul .binary64 _ _) = _
  rw [unpack_ofSignBits false left, unpack_ofSignBits false right, ofRatio,
    nearestBits_mul _ _ (by decide)]
  have positive := Nat.mul_pos (significand_pos left.pos) (significand_pos right.pos)
  have units : (significand a * significand b) <<< (place a + place b) =
      unitsOfBits a * unitsOfBits b := by
    rw [unitsOfBits_eq, unitsOfBits_eq]
    simp only [Nat.shiftLeft_eq, Nat.pow_add]
    ring
  -- a product is too short only when neither factor has its leading bit
  have full : 52 ≤ (significand a * significand b).log2 ∨ place a + place b ≤ 1074 := by
    by_cases least : place a = 0 ∧ place b = 0
    · right
      omega
    · left
      rw [Nat.le_log2 (Nat.ne_of_gt positive), ← exponentWeight_eq]
      rcases place_eq_zero_or_le_significand a with zero | normal
      · have normal := (place_eq_zero_or_le_significand b).resolve_left fun h => least ⟨zero, h⟩
        exact Nat.le_trans normal (Nat.le_mul_of_pos_left _ (significand_pos left.pos))
      · exact Nat.le_trans normal (Nat.le_mul_of_pos_right _ (significand_pos right.pos))
  have rounded := packed_roundWithAccuracy false positive full
  have exponent : ((place a + place b : Nat) - (1074 : Nat) - 1074 : Int) =
      place a - 1074 + (place b - 1074) := by omega
  rw [units, exponent] at rounded
  exact rounded

/-! ## Order -/

/-- The place decides first, and in one place the significand. -/
theorem compare_place_then_significand (a b : Nat) :
    (compare ((place a : Int) - 1074) (place b - 1074)).then
      (compare (significand a) (significand b)) = compare a b := by
  have first := place_mul_add_significand a
  have second := place_mul_add_significand b
  rcases Nat.lt_trichotomy (place a) (place b) with below | same | above
  · have order : a < b := lt_of_place_lt below
    rw [Std.compare_eq_lt.2 order, Std.compare_eq_lt.2 (by omega)]
    rfl
  · have sameInt : compare ((place a : Int) - 1074) (place b - 1074) = .eq :=
      Std.compare_eq_iff_eq.2 (by omega)
    rw [sameInt, Ordering.eq_then]
    rw [same] at first
    rcases Nat.lt_trichotomy a b with lt | eq | gt
    · rw [Std.compare_eq_lt.2 lt, Std.compare_eq_lt.2 (by omega)]
    · rw [eq, Std.compare_self, Std.compare_self]
    · rw [Std.compare_eq_gt.2 gt, Std.compare_eq_gt.2 (by omega)]
  · have order : b < a := lt_of_place_lt above
    rw [Std.compare_eq_gt.2 order, Std.compare_eq_gt.2 (by omega)]
    rfl

/-- Positive doubles compare as their patterns do. -/
theorem compare_ofSignBits (left : IsPositive a) (right : IsPositive b) :
    UnpackedFloat.compare (ofSignBits false a).toModel.unpack (ofSignBits false b).toModel.unpack =
      some (compare a b) := by
  rw [unpack_ofSignBits false left, unpack_ofSignBits false right, ← compare_place_then_significand]
  rfl

/-- A positive double is less than another exactly if its pattern is. -/
theorem ofSignBits_lt_iff (left : IsPositive a) (right : IsPositive b) :
    ofSignBits false a < ofSignBits false b ↔ a < b := by
  change decide ((UnpackedFloat.compare _ _ == some .lt) = true) = true ↔ _
  rw [compare_ofSignBits left right, decide_eq_true_iff, beq_iff_eq, Option.some_inj,
    Std.compare_eq_lt]

/-- A positive double is at most another exactly if its pattern is. -/
theorem ofSignBits_le_iff (left : IsPositive a) (right : IsPositive b) :
    ofSignBits false a ≤ ofSignBits false b ↔ a ≤ b := by
  change decide (Option.any (·.isLE) (UnpackedFloat.compare _ _) = true) = true ↔ _
  rw [compare_ofSignBits left right, decide_eq_true_iff, Option.any_some, Std.isLE_compare]

/-- Positive doubles are equal exactly if their patterns are. -/
theorem ofSignBits_beq_iff (left : IsPositive a) (right : IsPositive b) :
    (ofSignBits false a == ofSignBits false b) = true ↔ a = b := by
  change (UnpackedFloat.compare _ _ == some .eq) = true ↔ _
  rw [compare_ofSignBits left right, beq_iff_eq, Option.some_inj, Std.compare_eq_iff_eq]

/-! ## Signs -/

/-- The significand of a positive pattern is packed to that pattern. -/
theorem packed_significand (negative : Bool) (positive : IsPositive a) :
    packed (.finite (signOf negative) (significand a) (place a - 1074)
      (significand_pos positive.pos)) = ofSignBits negative a := by
  rw [packed_finite negative (significand_pos positive.pos) (significand_lt a)
    (place_eq_zero_or_le_significand a), place_mul_add_significand,
    Nat.min_eq_left (Nat.le_of_lt positive.finite)]

/-- The absolute value has the same pattern without the sign. -/
theorem abs_ofSignBits (negative : Bool) (positive : IsPositive a) :
    (ofSignBits negative a).abs = ofSignBits false a := by
  rw [← packed_significand false positive]
  change packed (UnpackedFloat.abs _) = _
  rw [unpack_ofSignBits negative positive]
  rfl

/-- The opposite has the same pattern with the other sign. -/
theorem neg_ofSignBits (negative : Bool) (positive : IsPositive a) :
    -ofSignBits negative a = ofSignBits (!negative) a := by
  rw [← packed_significand (!negative) positive]
  change packed (UnpackedFloat.neg _) = _
  rw [unpack_ofSignBits negative positive]
  cases negative <;> rfl

theorem isInf_ofSignBits (negative : Bool) (positive : IsPositive a) :
    (ofSignBits negative a).isInf = false := by
  change UnpackedFloat.isInf _ = false
  rw [unpack_ofSignBits negative positive]
  rfl

end Operations

end NumericKernel.Double

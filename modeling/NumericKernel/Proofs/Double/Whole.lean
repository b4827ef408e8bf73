import NumericKernel.Proofs.Double.Operations

/-!
# Whole doubles

The whole numbers below `2 ^ 53` are doubles, and so are their differences: they are
subtracted without rounding and ordered as numbers.

* `unitsOfBits_wholeBits`: the pattern of a whole number has its value;
* `whole_sub`, `whole_lt_iff`: difference and order of whole doubles;
* `eq_ofWhole`, `value?_ofWhole`: the doubles with a whole value.
-/

namespace NumericKernel.Double

/-- The pattern of a whole number. -/
def wholeBits (n : Nat) : Nat := nearestBits (n * unitsPerOne) 1

/-- The double of a whole number. -/
def whole (n : Nat) : Double := ofSignBits false (wholeBits n)

/-- A number that has a double of its own, above zero. -/
structure IsExact (n : Nat) : Prop where
  pos : 0 < n
  small : n < 2 ^ 53

section Whole

variable {m n d : Nat}

theorem IsExact.of_le (exact : IsExact n) (pos : 0 < m) (within : m ≤ n) : IsExact m :=
  ⟨pos, Nat.lt_of_le_of_lt within exact.small⟩

theorem mul_unitsPerOne (n : Nat) : n * unitsPerOne = n <<< unitBits := by
  rw [unitsPerOne, Nat.shiftLeft_eq, Nat.shiftLeft_eq, Nat.one_mul]

/-- The pattern of a power of two. -/
theorem unitsOfBits_two_pow (k : Nat) :
    unitsOfBits ((k + 1023) * exponentWeight) = 2 ^ k * unitsPerOne := by
  have carried : (k + 1023) * exponentWeight = (k + 1022) * exponentWeight + exponentWeight := by
    ring
  have place : 52 + (k + 1022) = k + unitBits := by
    rw [unitBits]
    omega
  rw [carried, unitsOfBits_add (by decide) (.inr (Nat.le_refl _)), mul_unitsPerOne, exponentWeight,
    fractionBits, ← Nat.one_shiftLeft k, ← Nat.shiftLeft_add, ← Nat.shiftLeft_add, place]

/-- The significand of a whole number is the number, shifted to its full length. -/
theorem unitsOfBits_wholeBits (exact : IsExact n) :
    unitsOfBits (wholeBits n) = n * unitsPerOne := by
  have digits : n.log2 ≤ 52 :=
    Nat.lt_succ_iff.1 ((Nat.log2_lt (Nat.ne_of_gt exact.pos)).2 exact.small)
  have length := log2_shiftLeft exact.pos (52 - n.log2)
  have nonzero := Nat.ne_of_gt (shiftLeft_pos exact.pos (52 - n.log2))
  rw [Nat.add_sub_cancel' digits, Nat.log2_eq_iff nonzero] at length
  have units := unitsOfBits_add (s := n.log2 + 1022) (q := n <<< (52 - n.log2))
    (by rw [exponentWeight_eq]; omega) (.inr (by rw [exponentWeight_eq]; exact length.1))
  have place : 52 - n.log2 + (n.log2 + 1022) = unitBits := by
    rw [unitBits]
    omega
  rw [← Nat.shiftLeft_add, place, ← mul_unitsPerOne] at units
  have nearest := nearestBits_unitsOfBits ((n.log2 + 1022) * exponentWeight + n <<< (52 - n.log2))
    Nat.one_pos
  rw [Nat.mul_one, units] at nearest
  rw [wholeBits, nearest, units]

/-- The patterns of whole numbers are in the order of the numbers. -/
theorem wholeBits_lt_iff (left : IsExact m) (right : IsExact n) :
    wholeBits m < wholeBits n ↔ m < n := by
  rw [← unitsOfBits_strictMono.lt_iff_lt, unitsOfBits_wholeBits left, unitsOfBits_wholeBits right,
    Nat.mul_lt_mul_right (by decide)]

theorem wholeBits_inj (left : IsExact m) (right : IsExact n) :
    wholeBits m = wholeBits n ↔ m = n := by
  rw [← unitsOfBits_strictMono.injective.eq_iff, unitsOfBits_wholeBits left,
    unitsOfBits_wholeBits right, Nat.mul_left_inj (by decide)]

/-- A whole number has a finite pattern above zero. -/
theorem IsExact.isPositive (exact : IsExact n) : IsPositive (wholeBits n) := by
  have units := unitsOfBits_wholeBits exact
  constructor
  · rw [← unitsOfBits_strictMono.lt_iff_lt, units, unitsOfBits_zero]
    exact Nat.mul_pos exact.pos (by decide)
  · have below : wholeBits n < (53 + 1023) * exponentWeight := by
      rw [← unitsOfBits_strictMono.lt_iff_lt, units, unitsOfBits_two_pow,
        Nat.mul_lt_mul_right (by decide)]
      exact exact.small
    exact Nat.lt_trans below (by decide)

/-! ## Difference and order -/

theorem toNat_toBits_whole (exact : IsExact n) : (whole n).toBits.toNat = wholeBits n :=
  toNat_toBits_ofSignBits false (Nat.le_of_lt exact.isPositive.finite)

/-- Whole doubles are in the order of their numbers. -/
theorem whole_lt_iff (left : IsExact m) (right : IsExact n) : whole m < whole n ↔ m < n := by
  rw [whole, whole, ofSignBits_lt_iff left.isPositive right.isPositive, wholeBits_lt_iff left right]

/-- The difference of two whole doubles is again one, unless it is zero. -/
theorem IsExact.sub (left : IsExact m) (right : IsExact n) (different : m ≠ n) :
    IsExact (m - n : Int).natAbs := by
  have first := left.small
  have second := right.small
  exact ⟨by omega, by omega⟩

/-- The difference is exact, and its sign is that of the order. -/
theorem sub_whole (left : IsExact m) (right : IsExact n) (different : m ≠ n) :
    whole m - whole n = ofSignBits (m < n) (wholeBits (m - n : Int).natAbs) := by
  have exact := (left.sub right different).isPositive
  have magnitude : ((m * unitsPerOne : Nat) - (n * unitsPerOne : Nat) : Int).natAbs =
      (m - n : Int).natAbs * unitsPerOne := by
    rw [Nat.cast_mul, Nat.cast_mul, ← Int.sub_mul, Int.natAbs_mul, Int.natAbs_natCast]
  rw [whole, whole, sub_ofSignBits left.isPositive right.isPositive
    (mt (wholeBits_inj left right).1 different), unitsOfBits_wholeBits left,
    unitsOfBits_wholeBits right, ofRatio_unitsPerOne,
    decide_eq_decide.2 (wholeBits_lt_iff left right), magnitude, ← wholeBits,
    Nat.min_eq_left (Nat.le_of_lt exact.finite)]

/-- The difference of a whole double and a lesser one is that of the numbers. -/
theorem whole_sub (left : IsExact m) (right : IsExact n) (less : n < m) :
    whole m - whole n = whole (m - n) := by
  rw [sub_whole left right (Nat.ne_of_gt less), decide_eq_false (Nat.not_lt.2 (Nat.le_of_lt less)),
    show (m - n : Int).natAbs = m - n by omega, whole]

theorem abs_sub_whole (left : IsExact m) (right : IsExact n) (different : m ≠ n) :
    (whole m - whole n).abs = whole (m - n : Int).natAbs := by
  rw [sub_whole left right different, abs_ofSignBits _ (left.sub right different).isPositive, whole]

/-! ## Doubles with a whole value -/

/-- A number has only one pattern. -/
theorem eq_ofSignBits_magnitudeBits {x : Double} (number : x.magnitudeBits ≤ infinityBits) :
    x = ofSignBits x.signBit x.magnitudeBits := by
  have bound : x.toBits.toNat < 2 * signWeight := x.toBits.toBitVec.isLt
  apply eq_ofSignBits number
  rw [magnitudeBits, signBit]
  by_cases high : signWeight ≤ x.toBits.toNat
  · rw [decide_eq_true high, if_pos rfl, Nat.mod_eq_sub_mod high, Nat.mod_eq_of_lt (by omega)]
    omega
  · rw [decide_eq_false high, if_neg (by decide), Nat.mod_eq_of_lt (Nat.not_le.1 high)]

/-- The double of an integer. -/
def ofWhole (a : Int) : Double := ofSignBits (a < 0) (wholeBits a.natAbs)

/-- A double with the value of a whole number is the double of that number. -/
theorem eq_ofWhole {x : Double} {a : Int} (exact : IsExact a.natAbs)
    (value : x.value? = some (.ofInt a)) : x = ofWhole a := by
  have finite := magnitudeBits_of_finite value
  rw [value?_of_finite finite, Exact.ofInt, Option.some_inj, Exact.finite.injEq] at value
  have unit : (0 : Int) < unitsPerOne := by decide
  have magnitude : x.magnitudeBits = wholeBits a.natAbs := by
    apply unitsOfBits_strictMono.injective
    rw [unitsOfBits_wholeBits exact, ← Int.natAbs_natCast unitsPerOne, ← Int.natAbs_mul, ← value]
    split <;> simp
  have positive : (0 : Int) < unitsOfBits x.magnitudeBits := by
    rw [magnitude, unitsOfBits_wholeBits exact]
    exact_mod_cast Nat.mul_pos exact.pos (by decide)
  have sign : x.signBit = decide (a < 0) := by
    have product := mul_neg_iff (a := a) (b := unitsPerOne)
    rw [← value] at product
    cases negative : x.signBit with
    | false =>
      rw [negative, if_neg (by decide)] at product
      rw [eq_comm, decide_eq_false_iff_not]
      omega
    | true =>
      rw [negative, if_pos rfl] at product
      rw [eq_comm, decide_eq_true_iff]
      omega
  rw [eq_ofSignBits_magnitudeBits (Nat.le_of_lt finite), sign, magnitude, ofWhole]

/-- The double of a whole number has it as its value. -/
theorem value?_ofWhole {a : Int} (exact : IsExact a.natAbs) :
    (ofWhole a).value? = some (.ofInt a) := by
  have magnitude : (a.natAbs * unitsPerOne : Nat) = (a.natAbs : Int) * unitsPerOne :=
    Nat.cast_mul _ _
  rw [ofWhole, value?_ofSignBits _ exact.isPositive.finite, unitsOfBits_wholeBits exact, magnitude,
    Exact.ofInt]
  rcases Int.lt_or_le a 0 with negative | nonneg
  · rw [decide_eq_true negative, if_pos rfl, ← Int.neg_mul, Int.ofNat_natAbs_of_nonpos
      (Int.le_of_lt negative), Int.neg_neg]
  · rw [decide_eq_false (Int.not_lt.2 nonneg), if_neg (by decide), Int.natAbs_of_nonneg nonneg]

theorem neg_ofWhole {a : Int} (exact : IsExact a.natAbs) : -ofWhole a = ofWhole (-a) := by
  have nonzero := exact.pos
  have sign : (!decide (a < 0)) = decide (-a < 0) := by
    rw [← decide_not, decide_eq_decide]
    omega
  rw [ofWhole, neg_ofSignBits _ exact.isPositive, sign, ofWhole, Int.natAbs_neg]

theorem ofWhole_natCast (n : Nat) : ofWhole n = whole n := by
  rw [ofWhole, decide_eq_false (by omega), Int.natAbs_natCast, whole]

end Whole

end NumericKernel.Double

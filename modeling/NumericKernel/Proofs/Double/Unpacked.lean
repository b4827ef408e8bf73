import NumericKernel.Proofs.Double.Pattern
import NumericKernel.Proofs.Double.Rounding

/-!
# Packing and rounding of doubles

The operations on doubles work on a sign, a significand and the exponent of the last place,
and round the result to its place before it is packed into a pattern.  Whatever the place of
an exact result is, what is packed is the double nearest to it.

* `unpack_of_bits`, `packed_finite`: the fields of a pattern and back;
* `roundedMantissa_shiftRight`: the bits that a shift keeps are enough to round;
* `packed_roundWithAccuracy`, `packed_round`, `packed_normalize`: the nearest double.
-/

namespace NumericKernel.Double

open Float.Model Float.Model.UnpackedFloat

/-! ## Packing -/

/-- The sign of an unpacked double. -/
def signOf (negative : Bool) : Sign := if negative then .negative else .positive

theorem finite_congr {s t : Sign} {m n : Nat} {e f : Int} (hm : 0 < m) (hn : 0 < n) (sign : s = t)
    (mantissa : m = n) (exponent : e = f) : finite s m e hm = finite t n f hn := by
  subst sign mantissa exponent
  rfl

/-- The fields of a pattern have their weights in it. -/
theorem toNat_packComponents (s : Sign) (e : BitVec 11) (m : BitVec 52) :
    (packComponents .binary64 s e m).toNat =
      s.toBitVec.toNat * signWeight + e.toNat * exponentWeight + m.toNat := by
  unfold packComponents
  rw [BitVec.toNat_append, BitVec.toNat_append, ← Nat.shiftLeft_add_eq_or_of_lt m.isLt,
    ← Nat.shiftLeft_add_eq_or_of_lt e.isLt, Nat.shiftLeft_eq, Nat.shiftLeft_eq]
  have weight : exponentWeight = 4503599627370496 := by decide
  have sign : signWeight = 2048 * 4503599627370496 := by decide
  rw [weight, sign]
  change (_ * 2 ^ 11 + _) * 2 ^ 52 + _ = _
  omega

/-- The double that an unpacked one stands for. -/
def packed (u : UnpackedFloat) : Double := ⟨Float.Model.pack u⟩

/-- A double with the pattern of a sign and a magnitude is made from these. -/
theorem eq_ofSignBits {x : Double} {negative : Bool} {bits : Nat} (number : bits ≤ infinityBits)
    (pattern : x.toBits.toNat = if negative then bits + signWeight else bits) :
    x = ofSignBits negative bits := by
  rw [← Float.toBits_inj, ← UInt64.toNat_inj, pattern, toNat_toBits_ofSignBits negative number]

/-- Below the carry a significand has its leading bit exactly when it has all 53 digits. -/
theorem log2_eq_iff_le {q : Nat} (positive : 0 < q) (bound : q < 2 * exponentWeight) :
    q.log2 + 1 = 53 ↔ exponentWeight ≤ q := by
  rw [exponentWeight_eq] at bound ⊢
  rw [show q.log2 + 1 = 53 ↔ q.log2 = 52 by omega, Nat.log2_eq_iff (Nat.ne_of_gt positive)]
  omega

theorem toNat_signOf (negative : Bool) (bits : Nat) :
    (signOf negative).toBitVec.toNat * signWeight + bits =
      if negative then bits + signWeight else bits := by
  cases negative with
  | false => exact (congrArg (· + bits) (Nat.zero_mul _)).trans (Nat.zero_add bits)
  | true => exact (congrArg (· + bits) (Nat.one_mul _)).trans (Nat.add_comm _ _)

/-- A significand of full length, or in the least place, makes a pattern; beyond the greatest
place it makes an infinity. -/
theorem packed_finite (negative : Bool) {s q : Nat} (positive : 0 < q)
    (bound : q < 2 * exponentWeight) (full : s = 0 ∨ exponentWeight ≤ q) :
    packed (.finite (signOf negative) q (s - 1074) positive) =
      ofSignBits negative (min (s * exponentWeight + q) infinityBits) := by
  have weight : exponentWeight = 4503599627370496 := by decide
  have infinity : infinityBits = 2047 * 4503599627370496 := by decide
  apply eq_ofSignBits (Nat.min_le_right _ _)
  change (UnpackedFloat.pack .binary64 _).toNat = _
  rw [← toNat_signOf, UnpackedFloat.pack]
  have biased : ((s : Int) - 1074 + Format.binary64.exponentBias +
      Format.binary64.mantissaBitsWithoutImplicit).toNat = s + 1 := by
    change ((s : Int) - 1074 + 1023 + 52).toNat = s + 1
    omega
  have top : 2 ^ Format.binary64.exponentBits = 2048 := by decide
  have digits : Format.binary64.mantissaBits = 53 := by decide
  have log := log2_eq_iff_le positive bound
  rw [biased, top, digits]
  rw [weight] at bound full log
  split_ifs with overflow normal
  · have ones : (-1#11).toNat = 2047 := by decide
    rw [packedInfinity, toNat_packComponents]
    change _ + (-1#11).toNat * _ + 0 = _
    rw [ones, weight, infinity]
    omega
  · rw [log] at normal
    have exponent : (BitVec.ofNat 11 (s + 1)).toNat = s + 1 := by
      rw [BitVec.toNat_ofNat, Nat.mod_eq_of_lt (by omega)]
    have fraction : (BitVec.ofNat 52 q).toNat + 4503599627370496 = q := by
      rw [BitVec.toNat_ofNat]
      omega
    have pattern : (s + 1) * exponentWeight + (BitVec.ofNat 52 q).toNat =
        min (s * exponentWeight + q) infinityBits := by
      rw [weight, infinity]
      omega
    rw [toNat_packComponents, exponent, Nat.add_assoc]
    exact congrArg _ pattern
  · rw [toNat_packComponents, BitVec.toNat_ofNat]
    change _ + 0 * _ + _ % 2 ^ 52 = _
    rw [log] at normal
    obtain rfl : s = 0 := full.resolve_right normal
    rw [weight, infinity]
    omega

theorem packed_zero (negative : Bool) :
    packed (.zero (signOf negative)) = ofSignBits negative 0 := by
  apply eq_ofSignBits (Nat.zero_le _)
  change (packComponents .binary64 _ _ _).toNat = _
  rw [toNat_packComponents]
  cases negative <;> decide

/-! ## Unpacking -/

/-- The sign of a pattern is its highest bit. -/
theorem ofBitVec_unpackSign (b : BitVec 64) :
    Sign.ofBitVec (@unpackSign .binary64 b) = signOf (signWeight ≤ b.toNat) := by
  have digit : (@unpackSign .binary64 b).toNat = b.toNat / signWeight % 2 := by
    rw [unpackSign_def, BitVec.extractLsb'_toNat, Nat.shiftRight_eq_div_pow]
    rfl
  have bound : b.toNat < 2 * signWeight := b.isLt
  have zero : @unpackSign .binary64 b = 0#1 ↔ b.toNat < signWeight := by
    rw [← BitVec.toNat_inj, digit]
    change _ = 0 ↔ _
    rw [show signWeight = 9223372036854775808 by decide] at bound ⊢
    omega
  rw [Sign.ofBitVec, signOf]
  by_cases high : signWeight ≤ b.toNat
  · rw [if_neg (mt zero.1 (Nat.not_lt.2 high)), decide_eq_true high, if_pos rfl]
  · rw [if_pos (zero.2 (Nat.not_le.1 high)), decide_eq_false high, if_neg (by decide)]

theorem signWeight_eq : signWeight = exponentWeight * 2048 := by decide

/-- A finite pattern other than zero is unpacked to its significand at its place. -/
theorem unpack_of_bits {b : BitVec 64} {bits : Nat} (pattern : b.toNat % signWeight = bits)
    (positive : 0 < bits) (finite : bits < infinityBits) :
    UnpackedFloat.unpack .binary64 b =
      .finite (signOf (signWeight ≤ b.toNat)) (significand bits) (place bits - 1074)
        (significand_pos positive) := by
  have sign := ofBitVec_unpackSign b
  have exponent : (@unpackExponent .binary64 b).toNat = bits / exponentWeight := by
    rw [toNat_unpackExponent, ← pattern, signWeight_eq, Nat.mod_mul_right_div_self]
  have mantissa : (@unpackMantissa .binary64 b).toNat = bits % exponentWeight := by
    rw [toNat_unpackMantissa, ← pattern, signWeight_eq, Nat.mod_mul_right_mod]
  have below : bits / exponentWeight < 2047 :=
    (Nat.div_lt_iff_lt_mul exponentWeight_pos).2 finite
  have notOnes : @unpackExponent .binary64 b ≠ -1#11 := by
    rw [Ne, ← BitVec.toNat_inj, exponent, show (-1#11).toNat = 2047 by decide]
    exact Nat.ne_of_lt below
  unfold UnpackedFloat.unpack
  extract_lets m e exponent' s sign'
  have scaled : exponent' = (bits / exponentWeight : Nat) - 1075 := by
    rw [← exponent]
    rfl
  rw [if_neg notOnes]
  split_ifs with zero empty
  · have none : bits / exponentWeight = 0 := exponent.symm.trans (congrArg BitVec.toNat zero)
    obtain ⟨-, -, fraction⟩ := subnormal_of_div_eq_zero none
    rw [← fraction, ← mantissa] at positive
    exact absurd (congrArg BitVec.toNat empty) (Nat.ne_of_gt positive)
  · have none : bits / exponentWeight = 0 := exponent.symm.trans (congrArg BitVec.toNat zero)
    obtain ⟨least, whole, fraction⟩ := subnormal_of_div_eq_zero none
    refine finite_congr _ _ sign (mantissa.trans (fraction.trans whole.symm)) ?_
    rw [scaled, none, least]
    rfl
  · have some : bits / exponentWeight ≠ 0 := fun none =>
      zero (BitVec.toNat_inj.1 (exponent.trans none))
    obtain ⟨next, whole⟩ := normal_of_div_ne_zero some
    refine finite_congr _ _ sign ?_ ?_
    · rw [BitVec.toNat_append, ← Nat.shiftLeft_add_eq_or_of_lt m.isLt, whole, ← mantissa]
      rfl
    · rw [scaled, next]
      omega

/-! ## Rounding -/

section Shift

variable (m k : Nat)

theorem shiftRight_succ (em : ExtendedMantissa) : em >>> (k + 1) = (em >>> k).shiftRightOne := rfl

/-- A mantissa shifted out of its exact value keeps the next bit, and whether any bit below that
is set. -/
theorem shiftRight_exact :
    ExtendedMantissa.ofMantissaAndAccuracy m .exact >>> k =
      ⟨m / 2 ^ k, 2 ^ k ≤ 2 * (m % 2 ^ k), 2 * (m % 2 ^ k) ≠ 0 ∧ 2 * (m % 2 ^ k) ≠ 2 ^ k⟩ := by
  induction k with
  | zero =>
    rw [Nat.pow_zero, Nat.mod_one, Nat.div_one]
    rfl
  | succ k ih =>
    have unit := Nat.two_pow_pos k
    have rest := Nat.mod_lt m unit
    have next := Nat.mod_pow_succ (x := m) (b := 2) (k := k)
    have digit := Nat.mod_two_eq_zero_or_one (m / 2 ^ k)
    rw [shiftRight_succ, ih, next, Nat.pow_succ]
    change ExtendedMantissa.mk (m / 2 ^ k / 2) (m / 2 ^ k % 2 != 0) (_ || _) = _
    rw [ExtendedMantissa.mk.injEq, Nat.div_div_eq_div_mul]
    refine ⟨rfl, ?_, ?_⟩
    · rw [Bool.eq_iff_iff, bne_iff_ne, decide_eq_true_iff]
      rcases digit with even | odd
      · rw [even]
        omega
      · rw [odd]
        omega
    · rw [Bool.eq_iff_iff, Bool.or_eq_true, decide_eq_true_iff, decide_eq_true_iff,
        decide_eq_true_iff]
      rcases digit with even | odd
      · rw [even]
        omega
      · rw [odd]
        omega

/-- Rounding what a shift keeps is rounding the quotient by a power of two. -/
theorem roundedMantissa_shiftRight :
    (ExtendedMantissa.ofMantissaAndAccuracy m .exact >>> k).roundedMantissa =
      roundQuotient m (1 <<< k) := by
  have unit := Nat.two_pow_pos k
  have rest := Nat.mod_lt m unit
  rw [shiftRight_exact, roundQuotient, Nat.one_shiftLeft]
  generalize m / 2 ^ k = q
  generalize m % 2 ^ k = r at *
  generalize 2 ^ k = u at *
  rw [ExtendedMantissa.roundedMantissa]
  rcases Nat.lt_trichotomy (2 * r) u with below | middle | beyond
  · rw [decide_eq_false (by omega), if_neg (by omega)]
    rcases Nat.eq_zero_or_pos r with zero | positive
    · rw [decide_eq_false (by omega)]
      rfl
    · rw [decide_eq_true (by omega)]
      rfl
  · rw [decide_eq_true (by omega), decide_eq_false (by omega)]
    change q + q % 2 = _
    split <;> omega
  · rw [decide_eq_true (by omega), decide_eq_true (by omega), if_pos (by omega)]
    rfl

end Shift

section Round

variable (negative : Bool) {m i j s q : Nat}

theorem log2_shiftLeft (positive : 0 < m) (i : Nat) : (m <<< i).log2 = m.log2 + i := by
  rw [Nat.shiftLeft_eq, Nat.log2_eq_iff (Nat.ne_of_gt (Nat.mul_pos positive (Nat.two_pow_pos i)))]
  constructor
  · rw [Nat.pow_add]
    exact Nat.mul_le_mul_right _ (Nat.log2_self_le (Nat.ne_of_gt positive))
  · rw [Nat.add_right_comm, Nat.pow_add]
    exact Nat.mul_lt_mul_of_pos_right Nat.lt_log2_self (Nat.two_pow_pos i)

theorem roundedPlace_shiftLeft (positive : 0 < m) (i j : Nat) :
    roundedPlace (m <<< i) (1 <<< j) = m.log2 + i - j - 52 := by
  rw [roundedPlace, Nat.one_shiftLeft, Nat.log2_eq_log_two, Nat.log_div_base_pow,
    ← Nat.log2_eq_log_two, log2_shiftLeft positive]
  rfl

/-- The shift that brings a mantissa to its place. -/
theorem shiftToTargetExponent_eq (m : Nat) {e : Int} {k : Nat}
    (shift : k = (max (m.log2 + e - 52) (-1074) - e).toNat) :
    shiftToTargetExponent .binary64 m e .exact =
      (ExtendedMantissa.ofMantissaAndAccuracy m .exact >>> k, e + k) := by
  have same : Format.binary64.targetExponent (totalExponent m e) =
      max (m.log2 + e - 52) (-1074) := by
    change max ((m.log2 : Int) + 1 + e - 53) (-1074) = _
    omega
  rw [shift, shiftToTargetExponent, same]
  rfl

/-- A mantissa that may have come to nothing. -/
def finiteOrZero (sign : Sign) (m : Nat) (e : Int) : UnpackedFloat :=
  if h : m = 0 then .zero sign else .finite sign m e (Nat.pos_of_ne_zero h)

/-- A rounded mantissa, brought to its place again after a carry. -/
def settled (sign : Sign) (q : Nat) (e : Int) : UnpackedFloat :=
  let second := shiftToTargetExponent .binary64 q e .exact
  finiteOrZero sign second.1.mantissa second.2

/-- Rounding moves the significand to its place, rounds it and settles a carry. -/
theorem roundWithAccuracy_eq (sign : Sign) (m : Nat) (e : Int) :
    roundWithAccuracy .binary64 sign m e .exact =
      let first := shiftToTargetExponent .binary64 m e .exact
      settled sign first.1.roundedMantissa first.2 := rfl

/-- A significand at its place, zero or not, is packed to the pattern of these. -/
theorem packed_finiteOrZero (bound : q < 2 * exponentWeight) (full : s = 0 ∨ exponentWeight ≤ q) :
    packed (finiteOrZero (signOf negative) q (s - 1074)) =
      ofSignBits negative (min (s * exponentWeight + q) infinityBits) := by
  rcases Nat.eq_zero_or_pos q with rfl | positive
  · obtain rfl : s = 0 := full.resolve_right (Nat.not_le.2 exponentWeight_pos)
    exact packed_zero negative
  · rw [finiteOrZero, dif_neg (Nat.ne_of_gt positive)]
    exact packed_finite negative positive bound full

/-- A rounded significand is packed to the pattern of the value, carried over or not. -/
theorem packed_settled (bound : q ≤ 2 * exponentWeight) (full : s = 0 ∨ exponentWeight ≤ q) :
    packed (settled (signOf negative) q (s - 1074)) =
      ofSignBits negative (min (s * exponentWeight + q) infinityBits) := by
  rw [settled]
  rcases Nat.lt_or_eq_of_le bound with whole | carry
  · have digits : q.log2 ≤ 52 := by
      rcases Nat.eq_zero_or_pos q with rfl | positive
      · decide
      · exact Nat.lt_succ_iff.1 ((Nat.log2_lt (Nat.ne_of_gt positive)).2 whole)
    rw [shiftToTargetExponent_eq q (k := 0) (by omega), shiftRight_exact, Nat.pow_zero, Nat.div_one,
      ← packed_finiteOrZero negative whole full]
    exact congrArg (fun e => packed (finiteOrZero _ q e)) (Int.add_zero _)
  · have digits : q.log2 = 53 := by
      rw [carry]
      decide
    have next : s * exponentWeight + q = (s + 1 : Nat) * exponentWeight + exponentWeight := by
      rw [carry]
      ring
    rw [next, ← packed_finiteOrZero negative (by decide) (.inr (Nat.le_refl _)),
      shiftToTargetExponent_eq q (k := 1) (by omega), shiftRight_exact, carry, Nat.pow_one,
      Nat.mul_div_cancel_left _ Nat.two_pos]
    exact congrArg (fun e => packed (finiteOrZero _ exponentWeight e)) (by omega)

/-- A value in units, rounded to its place and packed, is the double nearest to it. -/
theorem packed_roundWithAccuracy (positive : 0 < m) (full : 52 ≤ m.log2 ∨ i ≤ j) :
    packed (roundWithAccuracy .binary64 (signOf negative) m (i - j - 1074) .exact) =
      ofSignBits negative (min (nearestBits (m <<< i) (1 <<< j)) infinityBits) := by
  have den : 0 < 1 <<< j := shiftLeft_pos Nat.one_pos j
  have target := roundedPlace_shiftLeft positive i j
  obtain ⟨k, shift⟩ : ∃ k, k + i = j + roundedPlace (m <<< i) (1 <<< j) :=
    ⟨j + roundedPlace (m <<< i) (1 <<< j) - i, by omega⟩
  have rounded : roundQuotient m (1 <<< k) = roundedSignificand (m <<< i) (1 <<< j) := by
    rw [roundedSignificand, ← Nat.shiftLeft_add, ← shift, Nat.shiftLeft_add, Nat.shiftLeft_eq m,
      Nat.shiftLeft_eq _ i, roundQuotient_mul _ _ (Nat.two_pow_pos i)]
  have exponent : (i - j - 1074 + k : Int) = (roundedPlace (m <<< i) (1 <<< j) : Nat) - 1074 := by
    omega
  rw [nearestBits_eq, roundWithAccuracy_eq, shiftToTargetExponent_eq m (k := k) (by omega)]
  dsimp only
  rw [roundedMantissa_shiftRight, rounded, exponent]
  exact packed_settled negative (roundedSignificand_le _ den) (roundedPlace_eq_zero_or _ den)

/-- A mantissa that is too short for its place is lengthened first. -/
theorem packed_round (positive : 0 < m) (i : Nat) :
    packed (UnpackedFloat.round .binary64 (signOf negative) m (i - 1074)) =
      ofSignBits negative (min (nearestBits (m <<< i) 1) infinityBits) := by
  obtain ⟨t, shift⟩ : ∃ t : Nat, t = ((i - 1074 : Int) -
      Format.binary64.targetExponent (totalExponent m (i - 1074))).toNat := ⟨_, rfl⟩
  have target : Format.binary64.targetExponent (totalExponent m (i - 1074)) =
      max ((m.log2 : Int) + 1 + (i - 1074) - 53) (-1074) := rfl
  rw [target] at shift
  have place : t + (i - t) = i := by omega
  have digits := log2_shiftLeft positive t
  have rounded := packed_roundWithAccuracy negative (i := i - t) (j := 0) (shiftLeft_pos positive t)
    (by omega)
  have exponent : ((i - t : Nat) - (0 : Nat) - 1074 : Int) = i - 1074 - t := by omega
  rw [← Nat.shiftLeft_add, place, exponent] at rounded
  rw [UnpackedFloat.round, decreaseExponent, target, ← shift]
  exact rounded

/-- A difference taken at one place is packed to the double nearest to it. -/
theorem packed_normalize {d : Int} (nonzero : d ≠ 0) (i : Nat) :
    packed (normalize .binary64 d (i - 1074) .positive) =
      ofSignBits (d < 0) (min (nearestBits (d.natAbs <<< i) 1) infinityBits) := by
  rw [UnpackedFloat.normalize]
  rcases Int.lt_trichotomy d 0 with below | zero | above
  · rw [Std.compare_eq_lt.2 below, decide_eq_true below, ← packed_round true (by omega)]
    rw [show d.natAbs = (-d).toNat by omega]
    rfl
  · exact absurd zero nonzero
  · rw [Std.compare_eq_gt.2 above, decide_eq_false (by omega), ← packed_round false (by omega)]
    rw [show d.natAbs = d.toNat by omega]
    rfl

end Round

end NumericKernel.Double

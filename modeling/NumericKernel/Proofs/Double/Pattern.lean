import Mathlib
import NumericKernel.Double.Decimal

/-!
# Bit patterns of doubles

A double keeps the bit pattern that it is made from, unless the pattern is not a number.
So a double made from a sign and a pattern up to that of the infinity has the value which
the two say:

* `Double.toBits_ofBits`: the pattern is kept;
* `Double.value?_ofSignBits`, `Double.value?_ofSignBits_infinityBits`: the exact value;
* `Double.isSome_value?_toDouble`: a decimal form always reads as a number;
* `Double.text_of_name`: the infinite doubles show as the names of their infinities.
-/

namespace NumericKernel.Double

open Float.Model Float.Model.UnpackedFloat

/-! ## The fields of a pattern -/

/-- The patterns up to the infinity leave the sign bit free. -/
theorem infinityBits_lt_signWeight : infinityBits < signWeight := by decide

/-- The exponent is the field of eleven bits above the fraction. -/
theorem toNat_unpackExponent (b : BitVec 64) :
    (@unpackExponent .binary64 b).toNat = b.toNat / exponentWeight % 2048 := by
  rw [unpackExponent_def, BitVec.extractLsb'_toNat, Nat.shiftRight_eq_div_pow]
  rfl

/-- The fraction is the lowest field. -/
theorem toNat_unpackMantissa (b : BitVec 64) :
    (@unpackMantissa .binary64 b).toNat = b.toNat % exponentWeight := by
  rw [unpackMantissa_def, BitVec.extractLsb'_toNat, Nat.shiftRight_zero]
  rfl

/-- The patterns above that of the infinity are those that are not numbers. -/
theorem isNaNBits_iff (b : BitVec 64) :
    @isNaNBits .binary64 b = true ↔ infinityBits < b.toNat % signWeight := by
  rw [isNaNBits, decide_eq_true_eq, ← BitVec.toNat_inj, ne_eq, ← BitVec.toNat_inj,
    toNat_unpackExponent, toNat_unpackMantissa]
  have exponent : (-1#11).toNat = 2047 := by decide
  have mantissa : (0#52).toNat = 0 := by decide
  have weight : exponentWeight = 4503599627370496 := by decide
  have infinity : infinityBits = 2047 * 4503599627370496 := by decide
  have sign : signWeight = 2048 * 4503599627370496 := by decide
  rw [weight, infinity, sign]
  change _ = (-1#11).toNat ∧ ¬ _ = (0#52).toNat ↔ _
  rw [exponent, mantissa]
  omega

/-- A double keeps the pattern that it is made from, if the pattern is a number. -/
theorem toBits_ofBits {b : UInt64} (number : b.toNat % signWeight ≤ infinityBits) :
    (Float.ofBits b).toBits = b := by
  rw [← UInt64.toBitVec_inj]
  change pack .binary64 (unpack .binary64 b.toBitVec) = b.toBitVec
  rw [pack_unpack, if_neg]
  rw [isNaNBits_iff]
  exact Nat.not_lt.2 number

/-! ## The value of a pattern -/

section Value

variable {x : Double}

/-- A pattern below the infinity has the units of its magnitude, with its sign. -/
theorem value?_of_finite (finite : x.magnitudeBits < infinityBits) :
    x.value? = some (.finite
      (if x.signBit then -unitsOfBits x.magnitudeBits else unitsOfBits x.magnitudeBits)) := by
  simp only [value?, if_pos finite]

/-- The pattern of the infinity has the infinity of its sign as its value. -/
theorem value?_of_infinite (infinite : x.magnitudeBits = infinityBits) :
    x.value? = some (if x.signBit then .negInf else .posInf) := by
  simp only [value?, infinite, Nat.lt_irrefl, if_false, if_true]

/-- A pattern beyond the infinity has no value. -/
theorem value?_of_not_number (above : infinityBits < x.magnitudeBits) : x.value? = none := by
  simp only [value?, if_neg (Nat.lt_asymm above), if_neg (Nat.ne_of_gt above)]

/-- A double with a finite value has a pattern below the infinity. -/
theorem magnitudeBits_of_finite {units : Int} (value : x.value? = some (.finite units)) :
    x.magnitudeBits < infinityBits := by
  rcases Nat.lt_trichotomy x.magnitudeBits infinityBits with finite | infinite | above
  · exact finite
  · rw [value?_of_infinite infinite] at value
    cases sign : x.signBit <;> rw [sign] at value <;> cases value
  · rw [value?_of_not_number above] at value
    cases value

end Value

/-! ## Doubles made from a sign and a pattern -/

section OfSignBits

variable (negative : Bool) {bits : Nat}

/-- The sign bit is put above a pattern that is a number. -/
theorem toNat_toBits_ofSignBits (number : bits ≤ infinityBits) :
    (ofSignBits negative bits).toBits.toNat = if negative then bits + signWeight else bits := by
  have small : bits < signWeight := Nat.lt_of_le_of_lt number infinityBits_lt_signWeight
  have weight : UInt64.size = signWeight + signWeight := by decide
  have pattern : (UInt64.ofNat (if negative then bits + signWeight else bits)).toNat =
      if negative then bits + signWeight else bits := by
    apply UInt64.toNat_ofNat_of_lt'
    split <;> omega
  rw [ofSignBits, toBits_ofBits, pattern]
  rw [pattern]
  cases negative with
  | false => exact Nat.le_trans (Nat.mod_le _ _) number
  | true =>
    rw [if_pos rfl, Nat.add_mod_right]
    exact Nat.le_trans (Nat.mod_le _ _) number

/-- A double made from a sign and a pattern has that pattern. -/
theorem magnitudeBits_ofSignBits (number : bits ≤ infinityBits) :
    (ofSignBits negative bits).magnitudeBits = bits := by
  have small : bits < signWeight := Nat.lt_of_le_of_lt number infinityBits_lt_signWeight
  rw [magnitudeBits, toNat_toBits_ofSignBits negative number]
  cases negative with
  | false => exact Nat.mod_eq_of_lt small
  | true => rw [if_pos rfl, Nat.add_mod_right, Nat.mod_eq_of_lt small]

/-- A double made from a sign and a pattern has that sign. -/
theorem signBit_ofSignBits (number : bits ≤ infinityBits) :
    (ofSignBits negative bits).signBit = negative := by
  have small : bits < signWeight := Nat.lt_of_le_of_lt number infinityBits_lt_signWeight
  rw [signBit, toNat_toBits_ofSignBits negative number]
  cases negative with
  | false => exact decide_eq_false (Nat.not_le.2 small)
  | true => exact decide_eq_true (Nat.le_add_left _ _)

/-- A double made from a sign and a finite pattern has their units as its value. -/
theorem value?_ofSignBits (finite : bits < infinityBits) :
    (ofSignBits negative bits).value? =
      some (.finite (if negative then -unitsOfBits bits else unitsOfBits bits)) := by
  have number : bits ≤ infinityBits := Nat.le_of_lt finite
  have kept := magnitudeBits_ofSignBits negative number
  rw [value?_of_finite (kept.symm ▸ finite), kept, signBit_ofSignBits negative number]

/-- A double made from a sign and the infinite pattern is an infinity. -/
theorem value?_ofSignBits_infinityBits :
    (ofSignBits negative infinityBits).value? = some (if negative then .negInf else .posInf) := by
  have number : infinityBits ≤ infinityBits := Nat.le_refl _
  rw [value?_of_infinite (magnitudeBits_ofSignBits negative number),
    signBit_ofSignBits negative number]

/-- A double made from a pattern up to the infinity is a number. -/
theorem isSome_value?_ofSignBits (number : bits ≤ infinityBits) :
    (ofSignBits negative bits).value?.isSome = true := by
  rcases Nat.lt_or_eq_of_le number with finite | rfl
  · rw [value?_ofSignBits negative finite]
    rfl
  · rw [value?_ofSignBits_infinityBits]
    rfl

/-- A decimal form always reads as a number, though perhaps as an infinite one. -/
theorem isSome_value?_toDouble (form : Decimal) : (form.toDouble negative).value?.isSome = true := by
  unfold Decimal.toDouble
  split
  · exact isSome_value?_ofSignBits negative (Nat.zero_le _)
  · split
    · exact isSome_value?_ofSignBits negative (Nat.le_refl _)
    · exact isSome_value?_ofSignBits negative (Nat.min_le_right _ _)

end OfSignBits

/-! ## The names of the infinities -/

/-- The text of an infinite value. -/
def Exact.name? : Exact → Option String
  | .negInf => some "-inf"
  | .finite _ => none
  | .posInf => some "inf"

/-- The infinities have two names. -/
theorem Exact.name?_eq {e : Exact} {name : String} (named : e.name? = some name) :
    name = "inf" ∨ name = "-inf" := by
  cases e with
  | negInf => exact .inr (Option.some.inj named).symm
  | finite => cases named
  | posInf => exact .inl (Option.some.inj named).symm

/-- A name belongs to one infinity. -/
theorem Exact.name?_inj {e f : Exact} {name : String} (left : e.name? = some name)
    (right : f.name? = some name) : e = f := by
  cases e with
  | finite => cases left
  | negInf =>
    cases f with
    | finite => cases right
    | negInf => rfl
    | posInf => exact absurd (left.trans right.symm) (by decide)
  | posInf =>
    cases f with
    | finite => cases right
    | negInf => exact absurd (left.trans right.symm) (by decide)
    | posInf => rfl

theorem unsignedText_infinityBits : unsignedText infinityBits = "inf" := by decide

/-- An infinite double shows as the name of its value. -/
theorem text_of_name {x : Double} {e : Exact} {name : String} (value : x.value? = some e)
    (named : e.name? = some name) : x.text = name := by
  rcases Nat.lt_trichotomy x.magnitudeBits infinityBits with finite | infinite | above
  · rw [value?_of_finite finite] at value
    cases value
    cases named
  · rw [value?_of_infinite infinite] at value
    cases value
    simp only [text, infinite, Nat.le_refl, and_true, unsignedText_infinityBits]
    cases sign : x.signBit with
    | false =>
      rw [sign] at named
      exact Option.some.inj named
    | true =>
      rw [sign] at named
      exact Option.some.inj named
  · rw [value?_of_not_number above] at value
    cases value

end NumericKernel.Double

import Mathlib.Logic.ExistsUnique
import NumericKernel.Proofs.Numeral.Written

/-!
# Canonical numerals

A digit list is canonical when it has no leading zero and its digits are those of the
base, all of one sign; a text is canonical when it is a zero, or symbols of digits
without a leading zero after at most one minus sign.  An integer is written in its only
canonical form:

* `Canonical.digits_positional`, `canonical_digits`: canonical digits are recovered
  from the integer they stand for, and the digits of an integer are canonical;
* `toDigits_ofDigits`: uniqueness of digit lists, in bases of either sign;
* `Magnitude.exists_digits`, `magnitude_symbols`, `canonicalText_iff`: the canonical
  texts are those that integers are written as;
* `toBase_ofBase`: uniqueness of texts, where the minus sign is no digit of the base.
-/

namespace NumericKernel.Numeral

/-! ## Canonical digit lists -/

/-- A digit list without a leading zero whose digits are those of a base: none is
negative, or, in a positive base only, none is positive. -/
structure Canonical (b : Int) (ds : List Int) : Prop where
  leading : ds = [0] ∨ ∃ d rest, ds = d :: rest ∧ d ≠ 0
  ranged : (∀ d ∈ ds, 0 ≤ d ∧ d ≤ |b| - 1) ∨ 0 < b ∧ ∀ d ∈ ds, -(b - 1) ≤ d ∧ d ≤ 0

/-- Digits of either sign are bounded, up to the sign in a positive base. -/
theorem Canonical.bounded {b : Int} {ds : List Int} (canonical : Canonical b ds) :
    Bounded b ds ∨ 0 < b ∧ Bounded b (ds.map (- ·)) := by
  rcases canonical.ranged with above | ⟨positive, below⟩
  · exact .inl fun d member => ⟨(above d member).1, Int.lt_of_le_sub_one (above d member).2⟩
  · refine .inr ⟨positive, fun e member => ?_⟩
    obtain ⟨d, dMember, rfl⟩ := List.mem_map.1 member
    have range := below d dMember
    rw [abs_of_pos positive]
    exact ⟨by omega, by omega⟩

/-- Bounded digits are canonical when there is only one of them or no leading zero. -/
theorem Bounded.canonical {b d : Int} {rest : List Int} (bounded : Bounded b (d :: rest))
    (leading : rest = [] ∨ d ≠ 0) : Canonical b (d :: rest) := by
  constructor
  · by_cases zero : d = 0
    · rw [zero, leading.resolve_right (not_not.2 zero)]
      exact .inl rfl
    · exact .inr ⟨d, rest, rfl, zero⟩
  · exact .inl fun e member => ⟨(bounded e member).1, Int.le_sub_one_of_lt (bounded e member).2⟩

/-- Canonical digits are the digits of the integer they stand for. -/
theorem Canonical.digits_positional {b : Base} {ds : List Int} (canonical : Canonical b.val ds) :
    digits b (positional b.val ds) = ds := by
  rcases canonical.leading with rfl | ⟨d, rest, rfl, nonzero⟩
  · have zero : positional b.val [0] = 0 := by simp [positional]
    rw [zero, digits_zero]
  rcases canonical.bounded with bounded | ⟨positive, bounded⟩
  · refine Numeral.digits_positional b bounded nonzero ?_
    rcases lt_or_gt_of_ne b.ne_zero with negative | positive
    · exact .inl negative
    · exact .inr (bounded.positional_lt positive).1
  · -- The digits with their signs turned are those of the magnitude.
    have above : 0 < positional b.val ((d :: rest).map (- ·)) :=
      bounded.positional_pos positive (neg_ne_zero.2 nonzero)
    have magnitude : digits b (positional b.val ((d :: rest).map (- ·))) = (d :: rest).map (- ·) :=
      Numeral.digits_positional b bounded (neg_ne_zero.2 nonzero) (.inr above.le)
    have turned := digits_neg b positive above
    rw [magnitude, positional_map_neg, Int.neg_neg, List.map_map] at turned
    rw [turned]
    exact List.map_id'' Int.neg_neg (d :: rest)

/-- The digits of an integer are canonical. -/
theorem canonical_digits (b : Base) (v : Int) : Canonical b.val (digits b v) where
  leading := by
    by_cases zero : v = 0
    · exact .inl (by rw [zero, digits_zero])
    · exact .inr (digits_head b zero)
  ranged := by
    by_cases direct : b.val < 0 ∨ 0 ≤ v
    · have bounded := digits_bounded b direct
      exact .inl fun d member => ⟨(bounded d member).1, Int.le_sub_one_of_lt (bounded d member).2⟩
    · obtain ⟨notNegative, below⟩ := not_or.1 direct
      have positive : 0 < b.val := lt_of_le_of_ne (not_lt.1 notNegative) b.ne_zero.symm
      have negated := digits_neg b (v := -v) positive (by omega)
      have bounded := digits_bounded b (v := -v) (.inr (by omega))
      refine .inr ⟨positive, fun d member => ?_⟩
      rw [Int.neg_neg] at negated
      rw [negated] at member
      obtain ⟨e, eMember, rfl⟩ := List.mem_map.1 member
      have range := bounded.range positive eMember
      exact ⟨by omega, by omega⟩

/-- Canonical digits are written again for the integer they are read as, so every
integer has exactly one canonical digit list in every base, of either sign. -/
theorem toDigits_ofDigits (b : Int) (base : 2 ≤ |b|) :
    (∀ ds : List Int, Canonical b ds → ∃ v : Int,
      Operation.ofDigits (ds.map .int) b = .ok (.int v) ∧ Operation.toDigits v b = .ok ds) ∧
    (∀ ds es : List Int, Canonical b ds → Canonical b es →
      Operation.ofDigits (ds.map .int) b = Operation.ofDigits (es.map .int) b → ds = es) ∧
    (∀ v : Int, ∃! ds : List Int,
      Canonical b ds ∧ Operation.ofDigits (ds.map .int) b = .ok (.int v)) := by
  have two : 2 ≤ b.natAbs := by
    rw [Int.abs_eq_natAbs] at base
    exact_mod_cast base
  have read (ds : List Int) := ofDigits_int ds two
  have recovered (ds : List Int) (canonical : Canonical b ds) :
      digits ⟨b, two⟩ (positional b ds) = ds := canonical.digits_positional (b := ⟨b, two⟩)
  refine ⟨fun ds canonical => ⟨positional b ds, read ds, ?_⟩, fun ds es left right same => ?_,
    fun v => ⟨digits ⟨b, two⟩ v, ⟨canonical_digits ⟨b, two⟩ v, ?_⟩, ?_⟩⟩
  · rw [toDigits_int _ two, recovered ds canonical]
  · rw [read, read] at same
    rw [← recovered ds left, ← recovered es right, Number.int.inj (Except.ok.inj same)]
  · rw [read, positional_digits ⟨b, two⟩]
  · rintro ds ⟨canonical, stands⟩
    rw [read] at stands
    rw [← recovered ds canonical, Number.int.inj (Except.ok.inj stands)]

/-- One nine in base minus ten is minus one, and nothing else is written so. -/
theorem toDigits_ofDigits_minus_ten : 2 ≤ |(-10 : Int)| ∧ Canonical (-10) [1, 9] ∧
    Operation.ofDigits ([1, 9].map .int) (-10 : Int) = .ok (.int (-1)) ∧
    Operation.toDigits (-1 : Int) (-10 : Int) = .ok [1, 9] ∧
    ∃! ds : List Int, Canonical (-10) ds ∧
      Operation.ofDigits (ds.map .int) (-10 : Int) = .ok (.int (-1)) := by
  have canonical : Canonical (-10) [1, 9] :=
    ⟨.inr ⟨1, [9], rfl, by decide⟩, .inl (by decide)⟩
  obtain ⟨recovered, _, unique⟩ := toDigits_ofDigits (-10) (by decide)
  obtain ⟨v, read, written⟩ := recovered [1, 9] canonical
  rw [ofDigits_int [1, 9] (by decide)] at read
  cases read
  exact ⟨by decide, canonical, ofDigits_int [1, 9] (by decide), written, unique (-1)⟩

/-! ## Canonical texts -/

/-- Symbols of digits of a base, one at least and the first of them not a zero. -/
structure Magnitude (b : Int) (cs : List Char) : Prop where
  leading : ∃ c rest, cs = c :: rest ∧ c ≠ '0'
  ranged : ∀ c ∈ cs, ∃ d : Nat, digit? c = some d ∧ d < b

/-- The one zero, or a magnitude after at most one minus sign. -/
def CanonicalText (b : Int) (s : String) : Prop :=
  s = "0" ∨ ∃ cs, Magnitude b cs ∧ (s.toList = cs ∨ s.toList = '-' :: cs)

theorem write_zero (b : Base) : write b 0 = "0" := by
  have single : symbols (digits b (0 : Int).natAbs) = ['0'] := by
    rw [Int.natAbs_zero, Int.natCast_zero, digits_zero, symbols, List.map_singleton,
      Int.toNat_zero, symbol_of_digit? digit?_zero]
  rw [write_eq, if_neg (Int.lt_irrefl 0), single]

/-- Symbols of digits of a positive base are the symbols of bounded digits. -/
theorem exists_symbols {b : Int} (positive : 0 < b) {cs : List Char}
    (ranged : ∀ c ∈ cs, ∃ d : Nat, digit? c = some d ∧ d < b) :
    ∃ ds, cs = symbols ds ∧ Bounded b ds := by
  induction cs with
  | nil => exact ⟨[], rfl, bounded_nil b⟩
  | cons c rest ih =>
    obtain ⟨⟨d, found, small⟩, restRanged⟩ := List.forall_mem_cons.1 ranged
    obtain ⟨ds, rfl, bounded⟩ := ih restRanged
    refine ⟨(d : Int) :: ds, ?_, bounded_cons.2 ⟨⟨Int.natCast_nonneg d, ?_⟩, bounded⟩⟩
    · rw [symbols, symbols, List.map_cons, Int.toNat_natCast, symbol_of_digit? found]
    · rwa [abs_of_pos positive]

section Texts

variable {b : Base} (positive : 0 < b.val) (high : b.val ≤ 255)

include positive

/-- A magnitude consists of the symbols of the digits of a positive integer. -/
theorem Magnitude.exists_digits {cs : List Char} (magnitude : Magnitude b.val cs) :
    ∃ n : Int, 0 < n ∧ cs = symbols (digits b n) := by
  obtain ⟨⟨c, rest, eq, notZero⟩, ranged⟩ := magnitude
  obtain ⟨ds, rfl, bounded⟩ := exists_symbols positive ranged
  cases ds with
  | nil => exact absurd eq (List.cons_ne_nil c rest).symm
  | cons d tail =>
    have nonzero : d ≠ 0 := by
      rintro rfl
      exact notZero ((List.cons.inj eq).1.symm.trans (symbol_of_digit? digit?_zero))
    have above := bounded.positional_pos positive nonzero
    have again := digits_positional b bounded nonzero (.inr above.le)
    exact ⟨positional b.val (d :: tail), above, by rw [again]⟩

include high in
/-- The symbols of the digits of a positive integer are a magnitude. -/
theorem magnitude_symbols {n : Int} (above : 0 < n) : Magnitude b.val (symbols (digits b n)) := by
  have bounded := digits_bounded b (v := n) (.inr above.le)
  have found (d : Int) (member : d ∈ digits b n) : digit? (symbol d.toNat) = some d.toNat :=
    digit?_symbol ((bounded.writable positive high) d member).2
  constructor
  · obtain ⟨d, rest, eq, nonzero⟩ := digits_head b above.ne'
    have member : d ∈ digits b n := by
      rw [eq]
      exact List.mem_cons_self
    refine ⟨symbol d.toNat, symbols rest, by rw [eq]; rfl, fun zero => nonzero ?_⟩
    have leading := found d member
    rw [zero, digit?_zero, Option.some_inj] at leading
    have least := (bounded d member).1
    omega
  · intro c member
    obtain ⟨d, dMember, rfl⟩ := List.mem_map.1 member
    have range := bounded.range positive dMember
    exact ⟨d.toNat, found d dMember, by omega⟩

include high in
/-- The canonical texts are those that integers are written as. -/
theorem canonicalText_iff {s : String} : CanonicalText b.val s ↔ ∃ v : Int, s = write b v := by
  constructor
  · rintro (rfl | ⟨cs, magnitude, signed⟩)
    · exact ⟨0, (write_zero b).symm⟩
    · obtain ⟨n, above, rfl⟩ := magnitude.exists_digits positive
      have size : (n.natAbs : Int) = n := by omega
      rcases signed with plain | minus
      · refine ⟨n, ?_⟩
        rw [write_eq, if_neg (by omega), size, ← plain, String.ofList_toList]
      · refine ⟨-n, ?_⟩
        rw [write_eq, if_pos (by omega), Int.natAbs_neg, size, ← minus, String.ofList_toList]
  · rintro ⟨v, rfl⟩
    by_cases zero : v = 0
    · rw [zero]
      exact .inl (write_zero b)
    · have magnitude := magnitude_symbols positive high (n := v.natAbs) (by omega)
      refine .inr ⟨symbols (digits b v.natAbs), magnitude, ?_⟩
      rw [write_eq, String.toList_ofList]
      by_cases below : v < 0
      · exact .inr (if_pos below)
      · exact .inl (if_neg below)

end Texts

/-- In a base in which the minus sign is no digit, a canonical text is written again for
the integer it is read as, and every integer is written canonically. -/
theorem toBase_ofBase (b : Int) (low : 2 ≤ b) (high : b ≤ 107) :
    digit? '-' = some 107 ∧
    (∀ s : String, CanonicalText b s → ∃ v : Int,
      Operation.ofBase (.text s) b = .ok (.int v) ∧ Operation.toBase v b = .ok s) ∧
    (∀ v : Int, ∃ s : String, Operation.toBase v b = .ok s ∧ CanonicalText b s) := by
  have positive : 0 < b := by omega
  have within : b ≤ 255 := by omega
  let base : Base := ⟨b, by omega⟩
  have noMinus (v : Int) : (digits base v.natAbs).head? ≠ some (minusDigit : Int) := by
    intro leading
    have bounded := digits_bounded base (v := v.natAbs) (.inr (Int.natCast_nonneg _))
    have small := (bounded.range positive (List.mem_of_mem_head? leading)).2
    exact absurd small (not_lt.2 high)
  refine ⟨digit?_minus, fun s canonical => ?_, fun v => ?_⟩
  · obtain ⟨v, rfl⟩ := (canonicalText_iff (b := base) positive within).1 canonical
    refine ⟨v, ?_, toBase_int low within v⟩
    rw [ofBase_text low within]
    exact read_write positive within (noMinus v)
  · exact ⟨write base v, toBase_int low within v,
      (canonicalText_iff (b := base) positive within).2 ⟨v, rfl⟩⟩

/-- In base 107 the greatest digit is the comma, and a minus sign before it is a sign. -/
theorem toBase_ofBase_107 : (2 : Int) ≤ 107 ∧ (107 : Int) ≤ 107 ∧ CanonicalText 107 "-,0" ∧
    ∃ v : Int, Operation.ofBase (.text "-,0") (107 : Int) = .ok (.int v) ∧
      Operation.toBase v (107 : Int) = .ok "-,0" := by
  have comma : digit? ',' = some 106 := digit?_eq_some_iff.2 alphabet_facts.2.2.2.2
  have magnitude : Magnitude 107 [',', '0'] := by
    refine ⟨⟨',', ['0'], rfl, by decide⟩, fun c member => ?_⟩
    rcases List.mem_pair.1 member with rfl | rfl
    · exact ⟨106, comma, by decide⟩
    · exact ⟨0, digit?_zero, by decide⟩
  have canonical : CanonicalText 107 "-,0" := .inr ⟨[',', '0'], magnitude, .inr rfl⟩
  obtain ⟨_, recovered, _⟩ := toBase_ofBase 107 (by decide) (by decide)
  exact ⟨by decide, by decide, canonical, recovered "-,0" canonical⟩

end NumericKernel.Numeral

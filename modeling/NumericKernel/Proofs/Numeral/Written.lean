import Mathlib.Data.List.Nodup
import NumericKernel.Proofs.Arithmetic.Integer
import NumericKernel.Proofs.Numeral.Digits

/-!
# Written numerals and the minus sign

The digit alphabet holds the minus sign as one of its digits.  A numeral is read back
as the integer it was written for, unless its leading digit is that one: then the
reader takes the digit for a sign.  So written numerals are unambiguous exactly in
the bases in which the minus sign is no digit.

* `digit?_symbol`: every digit is found again by its symbol;
* `readSymbols_symbols`, `exists_readSymbols`: what the reader makes of digits without
  and with a leading minus sign;
* `ofBase_toBase_iff`: when writing and reading undo each other.
-/

namespace NumericKernel.Numeral

/-! ## The alphabet -/

/-- Whether no code occurs twice, where the bits of a mask are the codes met before. -/
def distinctFrom (mask : Nat) : List Nat → Bool
  | [] => true
  | code :: rest => !mask.testBit code && distinctFrom (mask ||| 1 <<< code) rest

/-- Codes that are found distinct are so, and none of them is in the mask. -/
theorem nodup_of_distinctFrom {mask : Nat} {codes : List Nat}
    (distinct : distinctFrom mask codes = true) :
    codes.Nodup ∧ ∀ code ∈ codes, mask.testBit code = false := by
  induction codes generalizing mask with
  | nil => simp
  | cons code rest ih =>
    rw [distinctFrom, Bool.and_eq_true, Bool.not_eq_true'] at distinct
    obtain ⟨restNodup, unmet⟩ := ih distinct.2
    have separate (other : Nat) (member : other ∈ rest) :
        mask.testBit other = false ∧ code ≠ other := by
      have bit := unmet other member
      rw [Nat.testBit_or, Bool.or_eq_false_iff, Nat.one_shiftLeft] at bit
      refine ⟨bit.1, fun same => ?_⟩
      rw [same, Nat.testBit_two_pow_self] at bit
      exact Bool.noConfusion bit.2
    constructor
    · exact List.nodup_cons.2 ⟨fun member => (separate code member).2 rfl, restNodup⟩
    · intro other member
      rcases List.mem_cons.1 member with rfl | later
      · exact distinct.1
      · exact (separate other later).1

/-- The digit whose symbol is the minus sign. -/
def minusDigit : Nat := 107

/-- How long the alphabet is, where it has the minus sign, and with what it begins. -/
theorem alphabet_facts :
    alphabet.length = 255 ∧ alphabet[minusDigit]? = some '-' ∧
      distinctFrom 0 (alphabet.map Char.toNat) = true ∧
      alphabet.take 10 = (List.range 10).map Nat.digitChar ∧ alphabet[106]? = some ',' := by
  unfold alphabet
  rw [String.toList_append, String.toList_append, String.toList_append, String.toList_append]
  -- A literal unfolds to its characters, which the kernel evaluates faster than it decodes bytes.
  change (fun cs : List Char => cs.length = 255 ∧ cs[minusDigit]? = some '-' ∧
      distinctFrom 0 (cs.map Char.toNat) = true ∧
      cs.take 10 = (List.range 10).map Nat.digitChar ∧ cs[106]? = some ',')
    (String.toList (String.ofList _) ++ String.toList (String.ofList _) ++
      String.toList (String.ofList _) ++ String.toList (String.ofList _) ++
      String.toList (String.ofList _))
  simp only [String.toList_ofList]
  decide +kernel

theorem alphabet_nodup : alphabet.Nodup :=
  List.Nodup.of_map Char.toNat (nodup_of_distinctFrom alphabet_facts.2.2.1).1

/-- Every digit is found again by its symbol. -/
theorem digit?_symbol {d : Nat} (small : d < alphabet.length) : digit? (symbol d) = some d := by
  have found : symbol d = alphabet[d] := by
    rw [symbol, List.getD_eq_getElem?_getD, List.getElem?_eq_getElem small, Option.getD_some]
  rw [digit?, found, List.idxOf?_eq_some_iff]
  refine ⟨small, rfl, fun j earlier => ?_⟩
  intro same
  have := (List.Nodup.getElem_inj_iff alphabet_nodup).1 same
  omega

/-- A symbol with a digit is the symbol of that digit. -/
theorem digit?_eq_some_iff {c : Char} {d : Nat} : digit? c = some d ↔ alphabet[d]? = some c := by
  constructor
  · intro found
    rw [digit?, List.idxOf?_eq_some_iff] at found
    obtain ⟨small, same, _⟩ := found
    rw [List.getElem?_eq_getElem small, same]
  · intro found
    have small : d < alphabet.length := (List.getElem?_eq_some_iff.1 found).1
    have same : symbol d = c := by
      rw [symbol, List.getD_eq_getElem?_getD, found, Option.getD_some]
    rw [← same, digit?_symbol small]

theorem symbol_of_digit? {c : Char} {d : Nat} (found : digit? c = some d) : symbol d = c := by
  rw [symbol, List.getD_eq_getElem?_getD, digit?_eq_some_iff.1 found, Option.getD_some]

/-- The first symbols are the decimal digits. -/
theorem getElem?_alphabet_of_lt_ten {d : Nat} (small : d < 10) :
    alphabet[d]? = some (Nat.digitChar d) := by
  rw [← List.getElem?_take_of_lt small, alphabet_facts.2.2.2.1, List.getElem?_map,
    List.getElem?_range small, Option.map_some]

theorem digit?_zero : digit? '0' = some 0 :=
  digit?_eq_some_iff.2 (getElem?_alphabet_of_lt_ten (by decide))

theorem digit?_minus : digit? '-' = some minusDigit := digit?_eq_some_iff.2 alphabet_facts.2.1

theorem symbol_minusDigit : symbol minusDigit = '-' := symbol_of_digit? digit?_minus

/-- Only one digit is written as a minus sign. -/
theorem symbol_eq_minus_iff {d : Nat} (small : d < alphabet.length) :
    symbol d = '-' ↔ d = minusDigit := by
  constructor
  · intro same
    have found := digit?_minus
    rw [← same, digit?_symbol small] at found
    exact Option.some.inj found
  · rintro rfl
    exact symbol_minusDigit

/-! ## Reading the symbols of digits -/

/-- The symbols of a list of digits. -/
def symbols (ds : List Int) : List Char := ds.map fun digit => symbol digit.toNat

theorem symbols_minus (rest : List Int) :
    symbols ((minusDigit : Int) :: rest) = '-' :: symbols rest := by
  rw [symbols, List.map_cons, Int.toNat_natCast, symbol_minusDigit, symbols]

/-- A numeral is the symbols of the digits, after a minus sign if there is one. -/
theorem write_eq (b : Base) (v : Int) :
    write b v =
      String.ofList
        (if v < 0 then '-' :: symbols (digits b v.natAbs) else symbols (digits b v.natAbs)) :=
  rfl

/-- Digits of the alphabet: each of them has a symbol of its own. -/
def Writable (ds : List Int) : Prop := ∀ d ∈ ds, 0 ≤ d ∧ d.toNat < alphabet.length

theorem Bounded.writable {b : Int} {ds : List Int} (positive : 0 < b) (high : b ≤ 255)
    (bounded : Bounded b ds) : Writable ds := by
  intro d member
  obtain ⟨low, small⟩ := bounded.range positive member
  rw [alphabet_facts.1]
  exact ⟨low, by omega⟩

theorem requireDigit_of_digit? {c : Char} {d : Nat} (found : digit? c = some d) :
    requireDigit c = .ok (.int d) := by
  -- Unfolded as a function: applied, it would be compared by searching the alphabet.
  rw [show requireDigit = _ by delta requireDigit; rfl, found]

/-- The symbols of digits are read as these. -/
theorem mapM_requireDigit {ds : List Int} (writable : Writable ds) :
    (symbols ds).mapM requireDigit = .ok (ds.map .int) := by
  refine mapM_eq_ok_iff.2 (List.forall₂_map_left_iff.2 (List.forall₂_map_right_iff.2 ?_))
  refine List.forall₂_same.2 fun d member => ?_
  obtain ⟨low, small⟩ := writable d member
  have found := requireDigit_of_digit? (digit?_symbol small)
  rwa [Int.toNat_of_nonneg low] at found

/-- A leading minus sign turns the sign of what follows. -/
theorem readSymbols_minus {b : Base} {rest : List Char} {x : Int}
    (read : readSymbols b rest = .ok (.int x)) :
    readSymbols b ('-' :: rest) = .ok (.int (-x)) := by
  rw [readSymbols, if_pos rfl, read]
  rfl

/-- Without a leading minus sign the symbols of digits are read as the digits. -/
theorem readSymbols_symbols (b : Base) {ds : List Int} (writable : Writable ds)
    (leading : ds.head? ≠ some (minusDigit : Int)) :
    readSymbols b (symbols ds) = .ok (.int (positional b.val ds)) := by
  cases ds with
  | nil => exact value_int b []
  | cons d rest =>
    obtain ⟨low, small⟩ := writable d List.mem_cons_self
    have noMinus : symbol d.toNat ≠ '-' := by
      intro minus
      have digit := (symbol_eq_minus_iff small).1 minus
      exact leading (congrArg some (by omega))
    have digits := mapM_requireDigit writable
    rw [symbols, List.map_cons] at digits ⊢
    rw [readSymbols, if_neg noMinus, digits]
    exact value_int b (d :: rest)

/-- Leading minus signs or not, symbols of digits are read as an integer that is no
larger in magnitude than what the digits stand for. -/
theorem exists_readSymbols (b : Base) (positive : 0 < b.val) (high : b.val ≤ 255) {ds : List Int}
    (bounded : Bounded b.val ds) :
    ∃ x, readSymbols b (symbols ds) = .ok (.int x) ∧ |x| ≤ positional b.val ds := by
  induction ds with
  | nil => exact ⟨0, value_int b [], by simp [positional]⟩
  | cons d rest ih =>
    have below := (bounded.positional_lt positive).1
    by_cases leading : d = (minusDigit : Int)
    · obtain ⟨x, read, small⟩ := ih (bounded_cons.1 bounded).2
      refine ⟨-x, ?_, ?_⟩
      · rw [leading, symbols_minus]
        exact readSymbols_minus read
      · have : 0 ≤ b.val ^ rest.length * d := by
          rw [leading]
          positivity
        rw [abs_neg, positional]
        omega
    · refine ⟨positional b.val (d :: rest), ?_, (abs_of_nonneg below).le⟩
      exact readSymbols_symbols b (bounded.writable positive high)
        fun same => leading (Option.some.inj same)

/-! ## Reading what was written -/

section Written

variable {b : Base} (positive : 0 < b.val) (high : b.val ≤ 255)

include positive high

/-- A numeral whose leading digit is not the minus sign is read as it was written. -/
theorem read_write {v : Int} (leading : (digits b v.natAbs).head? ≠ some (minusDigit : Int)) :
    read b (write b v) = .ok (.int v) := by
  have bounded := digits_bounded b (v := v.natAbs) (.inr (Int.natCast_nonneg _))
  have magnitude := readSymbols_symbols b (bounded.writable positive high) leading
  rw [positional_digits] at magnitude
  rw [read, write_eq, String.toList_ofList]
  by_cases below : v < 0
  · rw [if_pos below, readSymbols_minus magnitude]
    congr 2
    omega
  · rw [if_neg below, magnitude]
    congr 2
    omega

/-- A leading digit that looks like a sign is dropped, so that what is read is smaller
than the integer that was written. -/
theorem exists_read_write_ne {v : Int} {rest : List Int}
    (leading : digits b v.natAbs = (minusDigit : Int) :: rest) :
    ∃ x, read b (write b v) = .ok (.int x) ∧ x ≠ v := by
  have bounded := digits_bounded b (v := v.natAbs) (.inr (Int.natCast_nonneg _))
  have whole := positional_digits b v.natAbs
  rw [leading] at bounded whole
  obtain ⟨x, readTail, small⟩ := exists_readSymbols b positive high (bounded_cons.1 bounded).2
  have dropped : 0 < b.val ^ rest.length * (minusDigit : Int) :=
    mul_pos (pow_pos positive _) (by decide)
  have short : |x| < |v| := by
    rw [Int.abs_eq_natAbs v, ← whole, positional]
    omega
  rw [read, write_eq, String.toList_ofList, leading, symbols_minus]
  have once := readSymbols_minus readTail
  by_cases below : v < 0
  · rw [if_pos below, readSymbols_minus once, Int.neg_neg]
    exact ⟨x, rfl, fun same => by rw [same] at short; exact lt_irrefl _ short⟩
  · rw [if_neg below, once]
    refine ⟨-x, rfl, fun same => ?_⟩
    rw [← same, abs_neg] at short
    exact lt_irrefl _ short

end Written

/-- In a base that has the minus sign as a digit, every negative integer shares its
numeral with a positive one. -/
theorem write_neg_eq {b : Base} (large : (minusDigit : Int) < b.val) {v : Int} (above : 0 < v) :
    write b (-v) = write b (b.val ^ (digits b v).length * (minusDigit : Int) + v) := by
  have positive : 0 < b.val := lt_of_le_of_lt (Int.natCast_nonneg _) large
  have bounded := digits_bounded b (v := v) (.inr above.le)
  have longer : Bounded b.val ((minusDigit : Int) :: digits b v) :=
    bounded_cons.2 ⟨⟨Int.natCast_nonneg _, by rwa [abs_of_pos positive]⟩, bounded⟩
  have whole : positional b.val ((minusDigit : Int) :: digits b v) =
      b.val ^ (digits b v).length * (minusDigit : Int) + v := by
    rw [positional, positional_digits]
  have nonneg := (longer.positional_lt positive).1
  have again := digits_positional b longer (by decide) (.inr nonneg)
  rw [whole] at again nonneg
  have magnitude : ((-v).natAbs : Int) = v := by omega
  rw [write_eq, write_eq, if_pos (by omega), if_neg (not_lt.2 nonneg), magnitude,
    Int.natAbs_of_nonneg nonneg, again, symbols_minus]

/-! ## The leading digit -/

section Leading

variable {b : Base} (positive : 0 < b.val)

include positive

/-- The leading digit is the quotient by the highest power that has a digit. -/
theorem ediv_pow_eq_leading {n : Int} (nonneg : 0 ≤ n) {d : Int} {rest : List Int}
    (eq : digits b n = d :: rest) : n / b.val ^ rest.length = d := by
  have bounded := digits_bounded b (.inr nonneg)
  have whole := positional_digits b n
  rw [eq] at bounded whole
  obtain ⟨low, high⟩ := (bounded_cons.1 bounded).2.positional_lt positive
  have power : b.val ^ rest.length ≠ 0 := (pow_pos positive _).ne'
  rw [← whole, positional, Int.add_comm, Int.add_mul_ediv_left _ _ power,
    Int.ediv_eq_zero_of_lt low high, Int.zero_add]

/-- Only the leading digit is a quotient by a power and a digit of the base. -/
theorem leading_eq_of_ediv_pow {n : Int} (nonneg : 0 ≤ n) {d : Int} {k : Nat}
    (above : 0 < d) (small : d < b.val) (quotient : n / b.val ^ k = d) :
    (digits b n).head? = some d := by
  have nonzero : n ≠ 0 := by
    rintro rfl
    rw [Int.zero_ediv] at quotient
    omega
  obtain ⟨e, rest, eq, leading⟩ := digits_head b nonzero
  have bounded := digits_bounded b (.inr nonneg)
  rw [eq] at bounded
  have first := ediv_pow_eq_leading positive nonneg eq
  obtain ⟨low, high⟩ := bounded.range positive List.mem_cons_self
  -- Both quotients are digits of the base, so both powers are the highest one up to `n`.
  have within (m : Nat) (q : Int) (qLow : 0 < q) (qHigh : q < b.val) (eqn : n / b.val ^ m = q) :
      b.val ^ m ≤ n ∧ n < b.val ^ (m + 1) := by
    have power : 0 < b.val ^ m := pow_pos positive m
    constructor
    · calc b.val ^ m ≤ b.val ^ m * q := le_mul_of_one_le_right power.le qLow
        _ ≤ n := by rw [← eqn]; exact Int.mul_ediv_self_le power.ne'
    · calc n < b.val ^ m * (q + 1) := by
            rw [← eqn, Int.mul_add, Int.mul_one]
            exact Int.lt_mul_ediv_self_add power
        _ ≤ b.val ^ (m + 1) := by
          rw [pow_succ]
          exact Int.mul_le_mul_of_nonneg_left (by omega) power.le
  have one : 1 < b.val := by omega
  obtain ⟨least, greatest⟩ := within rest.length e (by omega) high first
  obtain ⟨least', greatest'⟩ := within k d above small quotient
  have le := (pow_lt_pow_iff_right₀ one).1 (lt_of_le_of_lt least greatest')
  have ge := (pow_lt_pow_iff_right₀ one).1 (lt_of_le_of_lt least' greatest)
  have same : rest.length = k := by omega
  rw [eq, List.head?_cons, ← first, same, quotient]

/-- When the leading digit of a natural number is the minus sign. -/
theorem head?_digits_eq_minusDigit_iff {n : Int} (nonneg : 0 ≤ n) :
    (digits b n).head? = some (minusDigit : Int) ↔
      (minusDigit : Int) < b.val ∧ ∃ k : Nat, n / b.val ^ k = minusDigit := by
  constructor
  · intro leading
    obtain ⟨rest, eq⟩ := List.head?_eq_some_iff.1 leading
    have bounded := digits_bounded b (.inr nonneg)
    rw [eq] at bounded
    have small := (bounded.range positive List.mem_cons_self).2
    exact ⟨small, rest.length, ediv_pow_eq_leading positive nonneg eq⟩
  · rintro ⟨small, k, quotient⟩
    exact leading_eq_of_ediv_pow positive nonneg (by decide) small quotient

end Leading

/-! ## The calls on written numerals -/

section Calls

variable {b : Int} (low : 2 ≤ b) (high : b ≤ 255)

include low high

theorem writtenBase_int : writtenBase (.int b) = .ok ⟨b, by omega⟩ := by
  have base : 2 ≤ b.natAbs := by omega
  unfold writtenBase Base.ofNumberWithin
  rw [Base.ofNumber_int base, alphabet_facts.1]
  change (if b < 0 then _ else if ((255 : Nat) : Int) < b then _ else _) = _
  rw [if_neg (by omega), if_neg (by omega)]
  rfl

theorem toBase_int (v : Int) : Operation.toBase v b = .ok (write ⟨b, by omega⟩ v) := by
  change (writtenBase (.int b)).bind _ = _
  rw [writtenBase_int low high]
  rfl

theorem ofBase_text (s : String) : Operation.ofBase (.text s) b = read ⟨b, by omega⟩ s := by
  change (writtenBase (.int b)).bind _ = _
  rw [writtenBase_int low high]
  rfl

end Calls

/-- What is written is read back exactly when its leading digit does not look like a
minus sign, and different integers are written differently exactly when no digit of
the base does. -/
theorem ofBase_toBase_iff (b : Int) (low : 2 ≤ b) (high : b ≤ 255) :
    (∀ v : Int, ∃ s, Operation.toBase v b = .ok s ∧
      (Operation.ofBase (.text s) b = .ok (.int v) ↔
        b ≤ minusDigit ∨ ∀ k : Nat, |v| / b ^ k ≠ minusDigit)) ∧
    ((∀ v w : Int, Operation.toBase v b = Operation.toBase w b → v = w) ↔ b ≤ minusDigit) := by
  have positive : 0 < b := by omega
  let base : Base := ⟨b, by omega⟩
  have leading (v : Int) := head?_digits_eq_minusDigit_iff (b := base) positive (abs_nonneg v)
  have magnitude (v : Int) : |v| = v.natAbs := Int.abs_eq_natAbs v
  have roundTrip (v : Int) : read base (write base v) = .ok (.int v) ↔
      b ≤ minusDigit ∨ ∀ k : Nat, |v| / b ^ k ≠ minusDigit := by
    by_cases minus : (digits base v.natAbs).head? = some (minusDigit : Int)
    · obtain ⟨rest, eq⟩ := List.head?_eq_some_iff.1 minus
      obtain ⟨x, readBack, other⟩ := exists_read_write_ne positive high eq
      rw [← magnitude, leading] at minus
      constructor
      · intro same
        rw [readBack] at same
        cases same
        exact absurd rfl other
      · rintro (small | never)
        · exact absurd minus.1 (not_lt.2 small)
        · obtain ⟨k, quotient⟩ := minus.2
          exact absurd quotient (never k)
    · have same := read_write (b := base) positive high minus
      rw [← magnitude, leading, not_and_or, not_lt, not_exists] at minus
      exact ⟨fun _ => minus, fun _ => same⟩
  refine ⟨fun v => ⟨write base v, toBase_int low high v, ?_⟩, ?_, ?_⟩
  · rw [ofBase_text low high]
    exact roundTrip v
  · intro injective
    by_contra large
    have shared := write_neg_eq (b := base) (not_le.1 large) one_pos
    have power : 0 < b ^ (digits base 1).length * (minusDigit : Int) :=
      mul_pos (pow_pos positive _) (by decide)
    have equal := injective (-1) (b ^ (digits base 1).length * (minusDigit : Int) + 1)
      (by rw [toBase_int low high, toBase_int low high, shared])
    omega
  · intro small v w same
    rw [toBase_int low high, toBase_int low high] at same
    have readV := (roundTrip v).2 (.inl small)
    have readW := (roundTrip w).2 (.inl small)
    rw [Except.ok.inj same, readW] at readV
    cases readV
    rfl

/-- In base 200 the integer with the digits 107 and 5 is not read back. -/
theorem ofBase_toBase_200 : (2 : Int) ≤ 200 ∧ (200 : Int) ≤ 255 ∧
    (∃ s, Operation.toBase (21405 : Int) (200 : Int) = .ok s ∧
      Operation.ofBase (.text s) (200 : Int) ≠ .ok (.int 21405)) ∧
    ¬ ∀ v w : Int, Operation.toBase v (200 : Int) = Operation.toBase w (200 : Int) → v = w := by
  obtain ⟨roundTrip, injective⟩ := ofBase_toBase_iff 200 (by decide) (by decide)
  obtain ⟨s, written, same⟩ := roundTrip 21405
  refine ⟨by decide, by decide, ⟨s, written, fun readBack => ?_⟩, fun all => ?_⟩
  · rcases same.1 readBack with small | never
    · exact absurd small (by decide)
    · exact never 1 (by decide)
  · exact absurd (injective.1 all) (by decide)

/-- The least integer that is not read back: its only digit is taken for a sign. -/
theorem ofBase_lone_minus : Operation.toBase (107 : Int) (108 : Int) = .ok "-" ∧
    Operation.ofBase (.text "-") (108 : Int) = .ok (.int 0) := by
  let base : Base := ⟨108, by decide⟩
  have bounded : Bounded base.val [107] := by
    intro d member
    rw [List.mem_singleton.1 member]
    decide
  have single : digits base 107 = [107] :=
    digits_positional base bounded (by decide) (.inr (by decide))
  constructor
  · rw [toBase_int (by decide) (by decide), write_eq]
    change Except.ok (String.ofList (symbols (digits base 107))) = _
    rw [single]
    exact congrArg (fun cs => Except.ok (String.ofList cs)) (symbols_minus [])
  · rw [ofBase_text (by decide) (by decide)]
    have nothing : readSymbols base [] = .ok (.int 0) := value_int base []
    exact readSymbols_minus nothing

end NumericKernel.Numeral

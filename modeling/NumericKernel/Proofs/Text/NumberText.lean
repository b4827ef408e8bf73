import NumericKernel.Display
import NumericKernel.Proofs.Double.Pattern
import NumericKernel.Proofs.Text.Grammar

/-!
# Texts of numbers read as numbers

The text of an integer is digits, and that of a finite double is a numeral with a point or
an exponent; either may have a minus sign.  So both are in the grammar of numbers, the text of
an integer with its value, and what a text is read as always has an exact value:

* `Text.Numeral.exists_readNumber?`: numerals are read as Reals;
* `Number.exists_readNumber?_text`: the texts of finite numbers are read, if they can be shown;
* `Number.integerText_toString`: the text of an integer writes it;
* `Number.isShowable_int_iff`, `Value.display_int_eq_ok_iff`: how large the integers are that
  can be shown;
* `Text.isSome_value?_of_readNumber?`: no text reads as a pattern that is not a number.
-/

namespace NumericKernel.Text

/-! ## Numerals -/

/-- Only the digits from `0` to `9`. -/
def Digits (cs : List Char) : Prop := ∀ c ∈ cs, c.isDigit = true

/-- The end of a numeral: nothing, or an exponent with its sign. -/
inductive ExponentPart : List Char → Prop where
  | absent : ExponentPart []
  | present {sign : Char} {digits : List Char} (signed : sign = '+' ∨ sign = '-')
      (nonempty : digits ≠ []) (ascii : Digits digits) : ExponentPart ('e' :: sign :: digits)

/-- The numerals without a sign that the texts of doubles are: without a point, they have an
exponent. -/
inductive Numeral : List Char → Prop where
  | whole {whole after : List Char} (nonempty : whole ≠ []) (ascii : Digits whole)
      (exponent : ExponentPart after) (marked : after ≠ []) : Numeral (whole ++ after)
  | pointed {whole fraction after : List Char} (nonempty : whole ≠ []) (ascii : Digits whole)
      (asciiAfter : Digits fraction) (exponent : ExponentPart after) :
      Numeral (whole ++ '.' :: (fraction ++ after))

theorem Digits.append {cs ds : List Char} (left : Digits cs) (right : Digits ds) :
    Digits (cs ++ ds) :=
  fun c mem => (List.mem_append.1 mem).elim (left c) (right c)

theorem Digits.zeros (n : Nat) : Digits (List.replicate n '0') := by
  intro c mem
  rw [List.eq_of_mem_replicate mem]
  rfl

theorem Digits.sublist {cs ds : List Char} (right : Digits ds) (within : cs.Sublist ds) : Digits cs :=
  fun c mem => right c (within.mem mem)

theorem Digits.toDigits (n : Nat) : Digits (Nat.toDigits 10 n) :=
  fun _ mem => Nat.isDigit_of_mem_toDigits (by omega) (by omega) mem

/-! ## Numerals in the grammar -/

/-- A text that writes an integer consists of a sign and digits. -/
theorem IntegerText.mem {cs : List Char} {n : Int} (integer : IntegerText cs n) {c : Char}
    (mem : c ∈ cs) : c ∈ ['+', '-'] ∨ isDigit c = true := by
  obtain @⟨negative, sign, digits, values, signed, nonempty, each⟩ := integer
  refine (List.mem_append.1 mem).imp (fun mem => ?_) (exists_values_iff.2 ⟨_, each⟩ c)
  cases signed with
  | absent => cases mem
  | plus | minus => simp_all

/-- An ASCII digit has its distance from zero as its value. -/
theorem digitValue?_of_ascii {c : Char} (ascii : c.isDigit = true) :
    digitValue? c = some (c.toNat - '0'.toNat) := by
  have found : (digitZeros.find? fun start => start ≤ c.toNat && c.toNat ≤ start + 9) = some 0x30 := by
    apply List.find?_cons_of_pos
    simp only [Bool.and_eq_true, decide_eq_true_eq]
    exact Char.isDigit_iff_toNat.1 ascii
  rw [digitValue?, found]
  rfl

theorem Digits.isDigit {digits : List Char} (ascii : Digits digits) :
    ∀ c ∈ digits, isDigit c = true := by
  intro c digit
  rw [Text.isDigit, digitValue?_of_ascii (ascii c digit)]
  rfl

/-- The exponent of a numeral is one of the grammar. -/
theorem ExponentPart.exponentText {after : List Char} (exponent : ExponentPart after) :
    ExponentText after := by
  cases exponent with
  | absent => exact .absent
  | present signed nonempty ascii =>
    obtain ⟨values, each⟩ := exists_values_iff.1 ascii.isDigit
    rcases signed with rfl | rfl
    · exact .present (.inl rfl) (.signed .plus nonempty each)
    · exact .present (.inl rfl) (.signed .minus nonempty each)

/-- A numeral, after any sign, is the text of a Real. -/
theorem Numeral.realText {cs sign : List Char} {negative : Bool} (numeral : Numeral cs)
    (signed : Sign negative sign) : RealText (sign ++ cs) := by
  cases numeral with
  | whole nonempty ascii exponent marked =>
    exact .signed signed (.whole ⟨nonempty, ascii.isDigit⟩) exponent.exponentText
  | @pointed whole fraction after nonempty ascii asciiAfter exponent =>
    have cut : whole ++ '.' :: (fraction ++ after) = (whole ++ '.' :: fraction) ++ after := by
      rw [List.append_assoc, List.cons_append]
    rw [cut]
    exact .signed signed (.pointed ⟨nonempty, ascii.isDigit⟩ asciiAfter.isDigit) exponent.exponentText

/-- A numeral is no integer: its point or its exponent is neither a sign nor a digit. -/
theorem Numeral.not_integerText {cs : List Char} (numeral : Numeral cs) (sign : List Char) :
    ¬∃ n, IntegerText (sign ++ cs) n := by
  intro ⟨n, integer⟩
  have mark : ∃ c ∈ cs, c = '.' ∨ c = 'e' := by
    cases numeral with
    | whole nonempty ascii exponent marked =>
      cases exponent with
      | absent => exact absurd rfl marked
      | present => exact ⟨'e', List.mem_append_right _ List.mem_cons_self, .inr rfl⟩
    | pointed => exact ⟨'.', List.mem_append_right _ List.mem_cons_self, .inl rfl⟩
  obtain ⟨c, mem, mark⟩ := mark
  have plain := integer.mem (List.mem_append_right sign mem)
  rcases mark with rfl | rfl <;> exact absurd plain (by decide)

/-- A numeral starts with a digit. -/
theorem Numeral.head {cs : List Char} (numeral : Numeral cs) :
    ∃ c rest, cs = c :: rest ∧ c.isDigit = true := by
  have first {whole : List Char} (nonempty : whole ≠ []) (ascii : Digits whole) (rest : List Char) :
      ∃ c after, whole ++ rest = c :: after ∧ c.isDigit = true := by
    cases whole with
    | nil => exact absurd rfl nonempty
    | cons c whole => exact ⟨c, whole ++ rest, rfl, ascii c List.mem_cons_self⟩
  cases numeral with
  | whole nonempty ascii exponent marked => exact first nonempty ascii _
  | pointed nonempty ascii asciiAfter exponent => exact first nonempty ascii _

/-! ## Blanks -/

theorem Sign.not_isBlank {negative : Bool} {sign : List Char} (signed : Sign negative sign) :
    ∀ c ∈ sign, isBlank c = false := by
  cases signed with
  | absent => exact List.forall_mem_nil _
  | plus | minus => exact List.forall_mem_singleton.2 (by decide)

theorem not_isBlank_of_isDigit {c : Char} (digit : c.isDigit = true) : isBlank c = false := by
  have bounds : 48 ≤ c.toNat ∧ c.toNat ≤ 57 := Char.isDigit_iff_toNat.1 digit
  simp [isBlank, inRanges, blankRanges]
  omega

/-- No exponent has a blank in it. -/
theorem ExponentPart.not_isBlank {after : List Char} (exponent : ExponentPart after) :
    ∀ c ∈ after, isBlank c = false := by
  cases exponent with
  | absent =>
    intro c mem
    cases mem
  | present signed nonempty ascii =>
    intro c mem
    rcases List.mem_cons.1 mem with rfl | mem
    · decide
    · rcases List.mem_cons.1 mem with rfl | mem
      · rcases signed with rfl | rfl <;> decide
      · exact not_isBlank_of_isDigit (ascii c mem)

/-- No numeral has a blank in it. -/
theorem Numeral.not_isBlank {cs : List Char} (numeral : Numeral cs) :
    ∀ c ∈ cs, isBlank c = false := by
  intro c mem
  cases numeral with
  | whole nonempty ascii exponent marked =>
    rcases List.mem_append.1 mem with mem | mem
    · exact not_isBlank_of_isDigit (ascii c mem)
    · exact exponent.not_isBlank c mem
  | pointed nonempty ascii asciiAfter exponent =>
    rcases List.mem_append.1 mem with mem | mem
    · exact not_isBlank_of_isDigit (ascii c mem)
    · rcases List.mem_cons.1 mem with rfl | mem
      · decide
      · rcases List.mem_append.1 mem with mem | mem
        · exact not_isBlank_of_isDigit (asciiAfter c mem)
        · exact exponent.not_isBlank c mem

/-- A text that is a numeral, perhaps after a minus sign, is read as a Real. -/
theorem Numeral.exists_readNumber? {cs : List Char} (numeral : Numeral cs) {s : String}
    (text : s.toList = cs ∨ s.toList = '-' :: cs) : ∃ x, readNumber? s = .ok (some (.real x)) := by
  rcases text with text | text
  · exact (exists_readNumber?_real_iff (.of_eq text numeral.not_isBlank)).2
      ⟨numeral.not_integerText [], numeral.realText .absent⟩
  · have plain : ∀ c ∈ '-' :: cs, isBlank c = false :=
      List.forall_mem_cons.2 ⟨by decide, numeral.not_isBlank⟩
    exact (exists_readNumber?_real_iff (.of_eq text plain)).2
      ⟨numeral.not_integerText ['-'], numeral.realText .minus⟩

/-- A Real that is read has an exact value. -/
theorem isSome_value?_of_readReal? {cs : List Char} {x : Double} (reads : readReal? cs = some x) :
    x.value?.isSome = true := by
  simp only [readReal?, Option.bind_eq_bind, Option.bind_eq_some_iff] at reads
  rcases reads with ⟨power, _, reads⟩
  split at reads
  · cases reads
  · cases reads
    exact Double.isSome_value?_toDouble _ _

/-- What a text is read as has an exact value. -/
theorem isSome_value?_of_readNumber? {s : String} {n : Number}
    (reads : readNumber? s = .ok (some n)) : n.value?.isSome = true := by
  cases n with
  | int n => rfl
  | real x =>
    have other := ((exists_readNumber?_real_iff (stripped_trim _)).1 ⟨x, reads⟩).1
    rw [readNumber?_of_not_integerText (stripped_trim _) other] at reads
    rcases Option.map_eq_some_iff.1 (Except.ok.inj reads) with ⟨y, real, same⟩
    cases same
    exact isSome_value?_of_readReal? real

end NumericKernel.Text

namespace NumericKernel

open Text

/-! ## Texts of doubles -/

namespace Double

theorem digits_digits (form : Decimal) : Digits form.digits := by
  intro c mem
  rw [Decimal.digits, List.mem_reverse] at mem
  exact Digits.toDigits _ c (List.mem_reverse.1 ((List.dropWhile_sublist _).mem mem))

theorem toList_toString_nat (n : Nat) : (toString n).toList = Nat.toDigits 10 n := by
  rw [Nat.toString_eq_repr, Nat.repr_eq_ofList_toDigits, String.toList_ofList]

/-- The exponent of a double is written as that of a numeral. -/
theorem exponentPart_exponentText (e : Int) : ExponentPart (exponentText e).toList := by
  have shown {sign : Char} (signed : sign = '+' ∨ sign = '-') {digits : String}
      (same : digits.toList = Nat.toDigits 10 e.natAbs) :
      ExponentPart ('e' :: sign :: (if digits.length < 2 then "0" ++ digits else digits).toList) := by
    split
    · rw [String.toList_append, same]
      exact .present signed (List.cons_ne_nil _ _) (Digits.append (Digits.zeros 1) (.toDigits _))
    · rw [same]
      exact .present signed Nat.toDigits_ne_nil (.toDigits _)
  rw [exponentText, String.toList_append]
  split
  · exact shown (.inr rfl) (toList_toString_nat _)
  · exact shown (.inl rfl) (toList_toString_nat _)

theorem exponentText_ne_nil (e : Int) : (exponentText e).toList ≠ [] := by
  rw [exponentText, String.toList_append]
  split <;> exact List.append_ne_nil_of_left_ne_nil (by decide) _

/-- A text with an exponent is a numeral. -/
theorem numeral_scientificText {digits : List Char} (ascii : Digits digits) (e : Int) :
    Numeral (scientificText digits e).toList := by
  have exponent := exponentPart_exponentText e
  have marked := exponentText_ne_nil e
  match digits with
  | [] =>
    rw [scientificText, String.toList_append]
    exact .whole (List.cons_ne_nil _ _) (Digits.zeros 1) exponent marked
  | [lead] =>
    rw [scientificText, String.toList_append, Char.toString_eq_singleton, String.toList_singleton]
    exact .whole (List.cons_ne_nil _ _) ascii exponent marked
  | lead :: next :: rest =>
    have text : (scientificText (lead :: next :: rest) e).toList =
        [lead] ++ '.' :: (next :: rest ++ (exponentText e).toList) := by
      simp [scientificText]
    rw [text]
    exact .pointed (List.cons_ne_nil _ _) (ascii.sublist (by simp)) (ascii.sublist (by simp)) exponent

/-- A text without an exponent is a numeral. -/
theorem numeral_plainText {digits : List Char} (ascii : Digits digits) (e : Int) :
    Numeral (plainText digits e).toList := by
  have pointed {whole fraction : List Char} (nonempty : whole ≠ []) (left : Digits whole)
      (right : Digits fraction) : Numeral (whole ++ '.' :: fraction) := by
    have numeral := Numeral.pointed nonempty left right .absent
    rwa [List.append_nil] at numeral
  unfold plainText
  split
  · have text (after : List Char) : ("0." ++ String.ofList after).toList = ['0'] ++ '.' :: after := by
      simp
    rw [text]
    exact pointed (List.cons_ne_nil _ _) (Digits.zeros 1) ((Digits.zeros _).append ascii)
  · have all := ascii.append (Digits.zeros (e.toNat + 1 - digits.length))
    have long : digits ++ List.replicate (e.toNat + 1 - digits.length) '0' ≠ [] := by
      rw [← List.length_pos_iff, List.length_append, List.length_replicate]
      omega
    have front : (digits ++ List.replicate (e.toNat + 1 - digits.length) '0').take (e.toNat + 1) ≠ [] :=
      fun empty => (List.take_eq_nil_iff.1 empty).elim (Nat.succ_ne_zero _) long
    have text (before : List Char) (after : String) :
        (String.ofList before ++ "." ++ after).toList = before ++ '.' :: after.toList := by
      simp
    dsimp only
    rw [text]
    split
    · exact pointed front (all.sublist (List.take_sublist _ _)) (Digits.zeros 1)
    · rw [String.toList_ofList]
      exact pointed front (all.sublist (List.take_sublist _ _)) (all.sublist (List.drop_sublist _ _))

/-- The text of a finite pattern is a numeral. -/
theorem numeral_unsignedText {bits : Nat} (finite : bits < infinityBits) :
    Numeral (unsignedText bits).toList := by
  unfold unsignedText
  split
  · exact Numeral.pointed (List.cons_ne_nil _ _) (Digits.zeros 1) (Digits.zeros 1) .absent
  · dsimp only
    split
    · exact numeral_plainText (digits_digits _) _
    · exact numeral_scientificText (digits_digits _) _

/-- The text of a finite double is a numeral, after a minus sign if the sign bit is set. -/
theorem exists_readNumber?_text {x : Double} (finite : x.magnitudeBits < infinityBits) :
    ∃ y, readNumber? x.text = .ok (some (.real y)) := by
  apply (numeral_unsignedText finite).exists_readNumber?
  simp only [text]
  split
  · exact .inr (String.toList_append.trans rfl)
  · exact .inl rfl

/-- No pattern has an empty text. -/
theorem unsignedText_ne_empty (bits : Nat) : unsignedText bits ≠ "" := by
  rcases Nat.lt_or_ge bits infinityBits with finite | beyond
  · intro empty
    rcases (numeral_unsignedText finite).head with ⟨c, rest, same, -⟩
    rw [empty] at same
    cases same
  · have positive : bits ≠ 0 := Nat.ne_of_gt (Nat.lt_of_lt_of_le (by decide) beyond)
    rw [unsignedText, if_neg positive, if_neg (Nat.not_lt.2 beyond)]
    split <;> decide

/-- No double has an empty text. -/
theorem text_ne_empty (x : Double) : x.text ≠ "" := by
  simp only [text]
  split
  · simp [unsignedText_ne_empty]
  · exact unsignedText_ne_empty _

end Double

/-! ## Texts of numbers -/

namespace Number

theorem digitsValue_toDigits (n : Nat) : digitsValue (Nat.toDigits 10 n) = n :=
  calc
    digitsValue (Nat.toDigits 10 n) = Nat.ofDigitChars 10 (Nat.toDigits 10 n) 0 := by
      rw [Nat.ofDigitChars_eq_foldl]
      refine List.foldl_ext _ _ _ fun value c digit => ?_
      rw [digitValue?_of_ascii (Digits.toDigits n c digit), Option.getD_some]
    _ = n := Nat.ofDigitChars_toDigits (by decide) (by decide)

/-- The text of an integer: the digits of its amount, after a minus sign if it is negative. -/
theorem toList_toString (n : Int) : (toString n).toList =
    if n < 0 then '-' :: Nat.toDigits 10 n.natAbs else Nat.toDigits 10 n.natAbs := by
  rw [Int.toString_eq_repr, Int.repr_eq_if]
  split
  case isTrue natural =>
    have amount : n.toNat = n.natAbs := by omega
    rw [if_neg (Int.not_lt.2 natural), amount, Nat.repr_eq_ofList_toDigits, String.toList_ofList]
  case isFalse negative =>
    have amount : (-n).toNat = n.natAbs := by omega
    -- the minus sign is itself the string of a list, hence the rule twice
    rw [if_pos (Int.not_le.1 negative), amount, Nat.repr_eq_ofList_toDigits, String.toList_append,
      String.toList_ofList, String.toList_ofList, List.singleton_append]

/-- The text of an integer is a sign and the digits of its size. -/
theorem exists_sign_toString (n : Int) : ∃ negative sign, Sign negative sign ∧
    (if negative then -(n.natAbs : Int) else n.natAbs) = n ∧
      (toString n).toList = sign ++ Nat.toDigits 10 n.natAbs := by
  rw [toList_toString]
  rcases Int.lt_or_le n 0 with negative | natural
  · refine ⟨true, ['-'], .minus, ?_, if_pos negative⟩
    rw [if_pos rfl]
    omega
  · exact ⟨false, [], .absent, Int.natAbs_of_nonneg natural, if_neg (Int.not_lt.2 natural)⟩

/-- The text of an integer writes it. -/
theorem integerText_toString (n : Int) : IntegerText (toString n).toList n := by
  obtain ⟨negative, sign, signed, value, text⟩ := exists_sign_toString n
  obtain ⟨values, each⟩ := exists_values_iff.1 (Digits.toDigits n.natAbs).isDigit
  have integer := IntegerText.signed signed Nat.toDigits_ne_nil each
  rwa [← digitsValue_eq each, digitsValue_toDigits, value, ← text] at integer

theorem not_isBlank_toString (n : Int) : ∀ c ∈ (toString n).toList, isBlank c = false := by
  obtain ⟨negative, sign, signed, -, text⟩ := exists_sign_toString n
  rw [text, List.forall_mem_append]
  exact ⟨signed.not_isBlank, fun c digit => not_isBlank_of_isDigit (Digits.toDigits _ c digit)⟩

/-- The digits of the text of an integer are those of its amount. -/
theorem countP_isDigit_toString (n : Int) :
    (toString n).toList.countP isDigit = (Nat.toDigits 10 n.natAbs).length := by
  obtain ⟨negative, sign, signed, -, text⟩ := exists_sign_toString n
  have unsigned : sign.countP isDigit = 0 := by cases signed <;> decide
  rw [text, List.countP_append, unsigned, Nat.zero_add,
    List.countP_eq_length.2 (Digits.toDigits _).isDigit]

/-- The text of an integer that can be shown reads as that integer. -/
theorem readNumber?_toString {n : Int} (short : (Number.int n).isShowable = true) :
    readNumber? (toString n) = .ok (some (.int n)) :=
  (readNumber?_eq_int_iff (.of_eq rfl (not_isBlank_toString n))).2
    ⟨integerText_toString n, countP_isDigit_toString n ▸ of_decide_eq_true short⟩

/-- How many digits a natural number has. -/
theorem length_toDigits_le_iff {n e : Nat} (positive : 0 < e) :
    (Nat.toDigits 10 n).length ≤ e ↔ n < 10 ^ e := by
  refine ⟨fun few => ?_, Nat.toDigits_length 10 n e positive⟩
  induction n using Nat.strongRecOn generalizing e with
  | ind n ih =>
    rw [Nat.toDigits_eq_if (by decide)] at few
    split at few
    case isTrue small => exact Nat.lt_of_lt_of_le small (Nat.le_self_pow positive.ne' 10)
    case isFalse large =>
      obtain ⟨k, rfl⟩ := Nat.exists_eq_succ_of_ne_zero positive.ne'
      rw [List.length_append, List.length_singleton, Nat.succ_le_succ_iff] at few
      have some : 0 < k := Nat.lt_of_lt_of_le (List.length_pos_iff.2 Nat.toDigits_ne_nil) few
      have fewer := ih (n / 10) (by omega) some few
      rw [Nat.pow_succ]
      omega

/-- The integers that can be shown are those below a power of ten. -/
theorem isShowable_int_iff {n : Int} :
    (Number.int n).isShowable = true ↔ n.natAbs < 10 ^ maxDigits :=
  decide_eq_true_iff.trans (length_toDigits_le_iff (by decide))

/-- The text of a finite number that can be shown reads as a number. -/
theorem exists_readNumber?_text {n : Number} (finite : n.isFinite = true)
    (short : n.isShowable = true) : ∃ m, readNumber? n.text = .ok (some m) := by
  cases n with
  | int n => exact ⟨_, readNumber?_toString short⟩
  | real x =>
    refine (Double.exists_readNumber?_text ?_).imp' Number.real fun _ => id
    simp only [isFinite, value?] at finite
    split at finite
    · rename_i value
      exact Double.magnitudeBits_of_finite value
    · cases finite

theorem text_ne_empty (n : Number) : n.text ≠ "" := by
  cases n with
  | real x => exact x.text_ne_empty
  | int n =>
    intro empty
    obtain ⟨negative, sign, -, -, text⟩ := exists_sign_toString n
    rw [show toString n = "" from empty] at text
    exact Nat.toDigits_ne_nil (List.append_eq_nil_iff.1 text.symm).2

/-- A number that is not finite but has a value has the name of an infinity. -/
theorem name_of_infinite {n : Number} {e : Double.Exact} (value : n.value? = some e)
    (infinite : n.isFinite = false) : ∃ name, e.name? = some name := by
  cases e with
  | negInf => exact ⟨_, rfl⟩
  | posInf => exact ⟨_, rfl⟩
  | finite units =>
    rw [isFinite, value] at infinite
    cases infinite

/-- An infinite number shows as the name of its value. -/
theorem text_of_name {n : Number} {e : Double.Exact} {name : String} (value : n.value? = some e)
    (named : e.name? = some name) : n.text = name := by
  cases n with
  | int m =>
    cases value
    cases named
  | real x => exact Double.text_of_name value named

end Number

namespace Value

/-- An integer that is small enough is shown by its text, and no other one is shown. -/
theorem display_int_eq_ok_iff {n : Int} {text : String} :
    Value.display (.number (.int n)) = .ok text ↔
      n.natAbs < 10 ^ Number.maxDigits ∧ text = (Number.int n).text := by
  rw [← Number.isShowable_int_iff, display, shownAs, isShowable]
  split
  case isTrue short => rw [and_iff_right short, Except.ok.injEq, eq_comm]; rfl
  case isFalse long => exact iff_of_false nofun fun shown => long shown.1

end Value

end NumericKernel

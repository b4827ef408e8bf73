import Mathlib.Data.List.DropRight
import Mathlib.Data.List.Forall2
import Mathlib.Data.List.TakeDrop
import Mathlib.Data.Nat.Digits.Defs
import Mathlib.Tactic.Ring
import NumericKernel.Text.NumberText

/-!
# The grammar of numbers in texts

The readers of numbers take the longest run of digits wherever digits may stand, and never
have to take it back: what may follow a run is a point, an exponent or the end, and none of
these starts with a digit.  So they accept exactly the texts of a grammar:

* `stripped_trim`, `Stripped.trim_eq`: the text between the blanks at the two ends;
* `integerValue?_eq_some_iff`: integers, with their value;
* `isSome_readReal?_iff`: texts with a point or an exponent as well;
* `readNumber?_eq_int_iff`, `exists_readNumber?_real_iff`, `readNumber?_eq_none_iff` and
  `readNumber?_eq_error_iff`: the four outcomes of reading a number.
-/

namespace NumericKernel.Text

/-! ## The grammar -/

/-- One decimal digit or more, of any scripts. -/
def DigitRun (cs : List Char) : Prop := cs ≠ [] ∧ ∀ c ∈ cs, isDigit c = true

/-- A minus sign, or else a plus sign or nothing. -/
inductive Sign : Bool → List Char → Prop where
  | absent : Sign false []
  | plus : Sign false ['+']
  | minus : Sign true ['-']

/-- A sign and digits, with the value that they write to base ten. -/
inductive IntegerText : List Char → Int → Prop where
  | signed {negative : Bool} {sign digits : List Char} {values : List Nat}
      (signed : Sign negative sign) (nonempty : digits ≠ [])
      (each : List.Forall₂ (fun c value => digitValue? c = some value) digits values) :
      IntegerText (sign ++ digits)
        (if negative then -(Nat.ofDigits 10 values.reverse : Nat)
          else (Nat.ofDigits 10 values.reverse : Nat))

/-- Digits with perhaps a point among them, before them or after them. -/
inductive Mantissa : List Char → Prop where
  | whole {digits : List Char} (run : DigitRun digits) : Mantissa digits
  | pointed {whole fraction : List Char} (run : DigitRun whole)
      (digits : ∀ c ∈ fraction, isDigit c = true) : Mantissa (whole ++ '.' :: fraction)
  | fraction {digits : List Char} (run : DigitRun digits) : Mantissa ('.' :: digits)

/-- Nothing, or a letter and the integer that follows it. -/
inductive ExponentText : List Char → Prop where
  | absent : ExponentText []
  | present {letter : Char} {cs : List Char} {power : Int} (marked : letter = 'e' ∨ letter = 'E')
      (integer : IntegerText cs power) : ExponentText (letter :: cs)

/-- The texts of Reals. -/
inductive RealText : List Char → Prop where
  | signed {negative : Bool} {sign mantissa exponent : List Char}
      (signed : Sign negative sign) (front : Mantissa mantissa) (back : ExponentText exponent) :
      RealText (sign ++ (mantissa ++ exponent))

/-- What is left of a text without the blanks at its two ends. -/
structure Stripped (cs t : List Char) : Prop where
  blanks : ∃ left right, cs = left ++ (t ++ right) ∧ (∀ c ∈ left, isBlank c = true) ∧
    ∀ c ∈ right, isBlank c = true
  front : ∀ c ∈ t.head?, isBlank c = false
  back : ∀ c ∈ t.getLast?, isBlank c = false

/-! ## Blanks -/

variable {cs t body digits rest : List Char} {negative : Bool}

theorem dropWhile_isBlank_eq_self (front : ∀ c ∈ t.head?, isBlank c = false) :
    t.dropWhile isBlank = t := by
  cases t with
  | nil => rfl
  | cons c t => exact List.dropWhile_cons_of_neg (Bool.eq_false_iff.1 (front c rfl))

/-- What is left without the blanks at the two ends is unique. -/
theorem Stripped.trim_eq (stripped : Stripped cs t) : trim cs = t := by
  obtain ⟨left, right, rfl, blankLeft, blankRight⟩ := stripped.blanks
  have back : ∀ c ∈ t.reverse.head?, isBlank c = false := by
    rw [List.head?_reverse]
    exact stripped.back
  have blankReverse : ∀ c ∈ right.reverse, isBlank c = true :=
    fun c mem => blankRight c (List.mem_reverse.1 mem)
  rw [trim, List.dropWhile_append_of_pos blankLeft]
  rcases eq_or_ne t [] with rfl | nonempty
  -- nothing but blanks: the first pass takes those on the right as well
  · rw [List.nil_append, List.dropWhile_eq_nil_iff.2 blankRight]
    rfl
  · have front : ∀ c ∈ (t ++ right).head?, isBlank c = false := by
      rw [List.head?_append_of_ne_nil _ nonempty]
      exact stripped.front
    rw [dropWhile_isBlank_eq_self front, List.reverse_append, List.dropWhile_append_of_pos blankReverse,
      dropWhile_isBlank_eq_self back, List.reverse_reverse]

/-- Trimming leaves no blanks at the two ends. -/
theorem stripped_trim (cs : List Char) : Stripped cs (trim cs) where
  blanks := by
    refine ⟨cs.takeWhile isBlank, (cs.dropWhile isBlank).rtakeWhile isBlank, ?_,
      fun c => List.mem_takeWhile_imp, fun c => List.mem_rtakeWhile_imp⟩
    exact (congrArg _ List.rdropWhile_append_rtakeWhile).trans List.takeWhile_append_dropWhile |>.symm
  front := by
    intro c front
    obtain ⟨right, within⟩ := List.rdropWhile_prefix isBlank (cs.dropWhile isBlank)
    have first := List.head?_dropWhile_not isBlank cs
    change c ∈ (List.rdropWhile isBlank (cs.dropWhile isBlank)).head? at front
    rw [← within, List.head?_append_of_ne_nil _ (List.ne_nil_of_mem (List.mem_of_mem_head? front)),
      Option.mem_def.1 front] at first
    exact first
  back := by
    intro c back
    obtain ⟨nonempty, rfl⟩ := List.mem_getLast?_eq_getLast back
    exact Bool.eq_false_iff.2 (List.rdropWhile_last_not isBlank _ nonempty)

/-- Blanks around a text that has none. -/
theorem Stripped.of_plain {left right : List Char} (same : cs = left ++ (t ++ right))
    (blankLeft : ∀ c ∈ left, isBlank c = true) (blankRight : ∀ c ∈ right, isBlank c = true)
    (plain : ∀ c ∈ t, isBlank c = false) : Stripped cs t where
  blanks := ⟨left, right, same, blankLeft, blankRight⟩
  front c first := plain c (List.mem_of_mem_head? first)
  back c last := plain c (List.mem_of_getLast? last)

theorem Stripped.of_eq (same : cs = t) (plain : ∀ c ∈ t, isBlank c = false) : Stripped cs t :=
  .of_plain (same.trans (List.append_nil t).symm) (List.forall_mem_nil _) (List.forall_mem_nil _) plain

/-! ## Signs and digits -/

/-- A sign is split off from what cannot be one. -/
theorem Sign.splitSign_append {sign : List Char} (signed : Sign negative sign)
    (front : ∀ c ∈ body.head?, c ≠ '+' ∧ c ≠ '-') : splitSign (sign ++ body) = (negative, body) := by
  cases signed with
  | plus => rfl
  | minus => rfl
  | absent =>
    rw [List.nil_append]
    unfold splitSign
    split
    · exact absurd rfl (front _ rfl).2
    · exact absurd rfl (front _ rfl).1
    · rfl

/-- What is split off is a sign. -/
theorem exists_sign_of_splitSign (split : splitSign cs = (negative, body)) :
    ∃ sign, Sign negative sign ∧ cs = sign ++ body := by
  unfold splitSign at split
  split at split <;> cases split
  · exact ⟨_, .minus, rfl⟩
  · exact ⟨_, .plus, rfl⟩
  · exact ⟨_, .absent, rfl⟩

theorem isDigits_iff : isDigits digits = true ↔ DigitRun digits := by
  simp [isDigits, DigitRun]

theorem ne_sign_of_isDigit {c : Char} (digit : isDigit c = true) : c ≠ '+' ∧ c ≠ '-' := by
  refine ⟨?_, ?_⟩ <;> rintro rfl <;> exact absurd digit (by decide)

theorem DigitRun.head_ne_sign (run : DigitRun digits) (rest : List Char) :
    ∀ c ∈ (digits ++ rest).head?, c ≠ '+' ∧ c ≠ '-' := by
  obtain ⟨first, more, rfl⟩ := List.exists_cons_of_ne_nil run.1
  intro c front
  cases front
  exact ne_sign_of_isDigit (run.2 _ List.mem_cons_self)

/-- Digits are digits just if each has a value. -/
theorem exists_values_iff : (∀ c ∈ digits, isDigit c = true) ↔
    ∃ values, List.Forall₂ (fun c value => digitValue? c = some value) digits values := by
  induction digits with
  | nil => simp
  | cons c digits ih =>
    rw [List.forall_mem_cons, ih, isDigit, Option.isSome_iff_exists]
    simp [List.forall₂_cons_left_iff]

/-- The digits are taken in from the left, each behind those before. -/
theorem foldl_digitValue? {values : List Nat}
    (each : List.Forall₂ (fun c value => digitValue? c = some value) digits values) (n : Nat) :
    digits.foldl (fun n c => 10 * n + (digitValue? c).getD 0) n =
      n * 10 ^ values.length + Nat.ofDigits 10 values.reverse := by
  induction each generalizing n with
  | nil => simp
  | cons found each ih =>
    rw [List.foldl_cons, ih, found, Option.getD_some, List.reverse_cons, Nat.ofDigits_append,
      Nat.ofDigits_singleton, List.length_reverse, List.length_cons]
    ring

/-- A run of digits has the value of them to base ten. -/
theorem digitsValue_eq {values : List Nat}
    (each : List.Forall₂ (fun c value => digitValue? c = some value) digits values) :
    digitsValue digits = Nat.ofDigits 10 values.reverse := by
  rw [digitsValue, foldl_digitValue? each, Nat.zero_mul, Nat.zero_add]

/-! ## Integers -/

/-- An integer is read from what follows its sign. -/
theorem integerValue?_of_splitSign (split : splitSign cs = (negative, body)) :
    integerValue? cs =
      if isDigits body then
        some (if negative then -(digitsValue body : Int) else digitsValue body)
      else none := by
  rw [integerValue?, split]

/-- The integers in the grammar are those that have a value, which is the one that they write. -/
theorem integerValue?_eq_some_iff {n : Int} : integerValue? cs = some n ↔ IntegerText cs n := by
  refine ⟨fun reads => ?_, fun ⟨signed, nonempty, each⟩ => ?_⟩
  · cases split : splitSign cs with
    | mk negative body =>
      obtain ⟨sign, signed, rfl⟩ := exists_sign_of_splitSign split
      rw [integerValue?_of_splitSign split, Option.ite_none_right_eq_some] at reads
      obtain ⟨digits, reads⟩ := reads
      obtain ⟨nonempty, each⟩ := isDigits_iff.1 digits
      obtain ⟨values, each⟩ := exists_values_iff.1 each
      rw [← Option.some.inj reads, digitsValue_eq each]
      exact .signed signed nonempty each
  · have run : DigitRun _ := ⟨nonempty, exists_values_iff.2 ⟨_, each⟩⟩
    have front := run.head_ne_sign []
    rw [List.append_nil] at front
    rw [integerValue?_of_splitSign (signed.splitSign_append front), if_pos (isDigits_iff.2 run),
      digitsValue_eq each]

/-- An exponent is read exactly if the grammar has it. -/
theorem isSome_readExponent?_iff : (readExponent? cs).isSome = true ↔ ExponentText cs := by
  cases cs with
  | nil => exact iff_of_true rfl .absent
  | cons letter rest =>
    rw [readExponent?]
    refine ⟨fun reads => ?_, fun exponent => ?_⟩
    · split at reads
      case isTrue marked =>
        obtain ⟨power, integer⟩ := Option.isSome_iff_exists.1 reads
        exact .present marked (integerValue?_eq_some_iff.1 integer)
      case isFalse => cases reads
    · obtain _ | ⟨marked, integer⟩ := exponent
      rw [if_pos marked, integerValue?_eq_some_iff.2 integer]
      rfl

/-! ## Reals -/

/-- A run of digits ends before the first other character. -/
theorem span_isDigit (inside : ∀ c ∈ digits, isDigit c = true)
    (stop : ∀ c ∈ rest.head?, isDigit c = false) :
    (digits ++ rest).span isDigit = (digits, rest) := by
  rw [List.span_eq_takeWhile_dropWhile, List.takeWhile_append_of_pos inside,
    List.dropWhile_append_of_pos inside]
  cases rest with
  | nil => rw [List.takeWhile_nil, List.dropWhile_nil, List.append_nil]
  | cons c rest =>
    have other : ¬isDigit c = true := Bool.eq_false_iff.1 (stop c rfl)
    rw [List.takeWhile_cons_of_neg other, List.dropWhile_cons_of_neg other, List.append_nil]

theorem of_span_isDigit (split : body.span isDigit = (digits, rest)) :
    body = digits ++ rest ∧ ∀ c ∈ digits, isDigit c = true := by
  rw [List.span_eq_takeWhile_dropWhile] at split
  cases split
  exact ⟨List.takeWhile_append_dropWhile.symm, fun c => List.mem_takeWhile_imp⟩

/-- An exponent, which starts with a letter if it is there, ends a run of digits ... -/
theorem ExponentText.head_not_isDigit (exponent : ExponentText cs) :
    ∀ c ∈ cs.head?, isDigit c = false := by
  cases exponent with
  | absent => exact fun c front => nomatch front
  | present marked integer =>
    intro c front
    cases front
    rcases marked with rfl | rfl <;> decide

/-- ... and a number without a fraction. -/
theorem ExponentText.splitFraction_eq (exponent : ExponentText cs) : splitFraction cs = ([], cs) := by
  cases exponent with
  | absent => rfl
  | present marked integer => rcases marked with rfl | rfl <;> rfl

/-- A Real is read exactly if there are digits and a right exponent. -/
theorem isSome_readReal?_of_parts {whole fraction after : List Char}
    (split : splitSign cs = (negative, body)) (front : body.span isDigit = (whole, rest))
    (point : splitFraction rest = (fraction, after)) :
    (readReal? cs).isSome = true ↔ whole ++ fraction ≠ [] ∧ ExponentText after := by
  simp only [readReal?, split, front, point, ← isSome_readExponent?_iff]
  cases readExponent? after with
  | none => simp
  | some power =>
    rw [Option.bind_eq_bind, Option.bind_some, Option.isSome_some, and_iff_left rfl,
      ← List.isEmpty_eq_false_iff]
    cases (whole ++ fraction).isEmpty <;> simp

/-- The parts at which the reader of Reals cuts a mantissa and an exponent. -/
theorem Mantissa.parts {mantissa after : List Char} (front : Mantissa mantissa)
    (exponent : ExponentText after) : ∃ whole rest fraction,
      (mantissa ++ after).span isDigit = (whole, rest) ∧ splitFraction rest = (fraction, after) ∧
        whole ++ fraction ≠ [] := by
  have point (rest : List Char) : ∀ c ∈ ('.' :: rest).head?, isDigit c = false := by
    intro c front
    cases front
    decide
  cases front with
  | whole run =>
    refine ⟨_, _, [], span_isDigit run.2 exponent.head_not_isDigit, exponent.splitFraction_eq, ?_⟩
    rw [List.append_nil]
    exact run.1
  | @pointed whole fraction run digits =>
    rw [List.append_assoc, List.cons_append]
    exact ⟨_, _, fraction, span_isDigit run.2 (point _),
      span_isDigit digits exponent.head_not_isDigit, List.append_ne_nil_of_left_ne_nil run.1 _⟩
  | @fraction digits run =>
    have none : ∀ c ∈ ([] : List Char), isDigit c = true := List.forall_mem_nil _
    exact ⟨[], _, digits, span_isDigit none (point (digits ++ after)),
      span_isDigit run.2 exponent.head_not_isDigit, run.1⟩

/-- No mantissa begins with a sign. -/
theorem Mantissa.head_ne_sign {mantissa : List Char} (front : Mantissa mantissa) (after : List Char) :
    ∀ c ∈ (mantissa ++ after).head?, c ≠ '+' ∧ c ≠ '-' := by
  intro c first
  cases front with
  | whole run => exact run.head_ne_sign after c first
  | pointed run digits =>
    rw [List.append_assoc] at first
    exact run.head_ne_sign _ c first
  | fraction run =>
    cases first
    decide

/-- What the reader of Reals cuts off before the exponent is a mantissa. -/
theorem exists_mantissa {whole fraction after : List Char} (digits : ∀ c ∈ whole, isDigit c = true)
    (point : splitFraction rest = (fraction, after)) (nonempty : whole ++ fraction ≠ []) :
    ∃ mantissa, Mantissa mantissa ∧ whole ++ rest = mantissa ++ after := by
  unfold splitFraction at point
  split at point
  case h_1 rest =>
    obtain ⟨rfl, digitsAfter⟩ := of_span_isDigit point
    rcases eq_or_ne whole [] with rfl | some
    · exact ⟨'.' :: fraction, .fraction ⟨nonempty, digitsAfter⟩, rfl⟩
    · exact ⟨_, .pointed ⟨some, digits⟩ digitsAfter, by rw [List.append_assoc, List.cons_append]⟩
  case h_2 =>
    cases point
    rw [List.append_nil] at nonempty
    exact ⟨whole, .whole ⟨nonempty, digits⟩, rfl⟩

/-- A Real is read exactly if the grammar has it. -/
theorem isSome_readReal?_iff : (readReal? cs).isSome = true ↔ RealText cs := by
  refine ⟨fun reads => ?_, fun (@RealText.signed _ _ _ exponentText signed front exponent) => ?_⟩
  · cases split : splitSign cs with | mk negative body
    cases front : body.span isDigit with | mk whole rest
    cases point : splitFraction rest with | mk fraction after
    obtain ⟨nonempty, exponent⟩ := (isSome_readReal?_of_parts split front point).1 reads
    obtain ⟨sign, signed, rfl⟩ := exists_sign_of_splitSign split
    obtain ⟨rfl, digits⟩ := of_span_isDigit front
    obtain ⟨mantissa, front, same⟩ := exists_mantissa digits point nonempty
    rw [same]
    exact .signed signed front exponent
  · obtain ⟨whole, rest, fraction, run, point, nonempty⟩ := front.parts exponent
    have split := signed.splitSign_append (front.head_ne_sign exponentText)
    exact (isSome_readReal?_of_parts split run point).2 ⟨nonempty, exponent⟩

/-! ## Numbers -/

section Numbers

variable {s : String} {fault : Fault} {n : Int}

/-- Every digit of a text that writes an integer is counted, and the sign is not. -/
theorem IntegerText.length_eq_countP (integer : IntegerText t n) :
    (splitSign t).2.length = t.countP isDigit := by
  obtain @⟨negative, sign, digits, values, signed, nonempty, each⟩ := integer
  have run : DigitRun digits := ⟨nonempty, exists_values_iff.2 ⟨_, each⟩⟩
  have front := run.head_ne_sign []
  rw [List.append_nil] at front
  have unsigned : sign.countP isDigit = 0 := by cases signed <;> decide
  rw [signed.splitSign_append front, List.countP_append, unsigned, Nat.zero_add,
    List.countP_eq_length.2 run.2]

theorem integerValue?_eq_none (other : ¬∃ n, IntegerText cs n) : integerValue? cs = none :=
  Option.eq_none_iff_forall_ne_some.2 fun n reads => other ⟨n, integerValue?_eq_some_iff.1 reads⟩

/-- An integer is read from its text, if that has few enough digits. -/
theorem readInteger?_of_integerText (integer : IntegerText t n) :
    readInteger? t =
      if t.countP isDigit ≤ Number.maxDigits then .ok (some n)
      else .error (.tooManyDigits (t.countP isDigit)) := by
  rw [readInteger?, integerValue?_eq_some_iff.2 integer, ← integer.length_eq_countP]

/-- A text that writes an integer is read as that, or refused for the number of its digits. -/
theorem readNumber?_of_integerText (stripped : Stripped s.toList t) (integer : IntegerText t n) :
    readNumber? s =
      if t.countP isDigit ≤ Number.maxDigits then .ok (some (.int n))
      else .error (.tooManyDigits (t.countP isDigit)) := by
  rw [readNumber?, stripped.trim_eq, readInteger?_of_integerText integer]
  split <;> rfl

theorem readNumber?_of_not_integerText (stripped : Stripped s.toList t)
    (other : ¬∃ n, IntegerText t n) : readNumber? s = .ok ((readReal? t).map .real) := by
  rw [readNumber?, stripped.trim_eq, readInteger?, integerValue?_eq_none other]
  rfl

/-- A text is read as an integer if it writes that integer with few enough digits. -/
theorem readNumber?_eq_int_iff (stripped : Stripped s.toList t) :
    readNumber? s = .ok (some (.int n)) ↔
      IntegerText t n ∧ t.countP isDigit ≤ Number.maxDigits := by
  by_cases written : ∃ m, IntegerText t m
  · obtain ⟨m, integer⟩ := written
    have same : IntegerText t n ↔ m = n := by
      rw [← integerValue?_eq_some_iff, integerValue?_eq_some_iff.2 integer, Option.some_inj]
    rw [readNumber?_of_integerText stripped integer, same]
    split <;> simp_all
  · rw [readNumber?_of_not_integerText stripped written]
    refine iff_of_false (fun reads => ?_) fun integer => written ⟨n, integer.1⟩
    obtain ⟨x, -, same⟩ := Option.map_eq_some_iff.1 (Except.ok.inj reads)
    cases same

/-- A text is read as a Real if it writes one and no integer. -/
theorem exists_readNumber?_real_iff (stripped : Stripped s.toList t) :
    (∃ x, readNumber? s = .ok (some (.real x))) ↔ (¬∃ n, IntegerText t n) ∧ RealText t := by
  by_cases written : ∃ m, IntegerText t m
  · obtain ⟨m, integer⟩ := written
    rw [readNumber?_of_integerText stripped integer]
    refine iff_of_false (fun ⟨x, reads⟩ => ?_) fun other => other.1 ⟨m, integer⟩
    split at reads <;> cases reads
  · rw [readNumber?_of_not_integerText stripped written, and_iff_right written,
      ← isSome_readReal?_iff]
    simp [Option.isSome_iff_exists]

/-- A text is read as nothing if it writes no number at all. -/
theorem readNumber?_eq_none_iff (stripped : Stripped s.toList t) :
    readNumber? s = .ok none ↔ (¬∃ n, IntegerText t n) ∧ ¬RealText t := by
  by_cases written : ∃ m, IntegerText t m
  · obtain ⟨m, integer⟩ := written
    rw [readNumber?_of_integerText stripped integer]
    refine iff_of_false (fun reads => ?_) fun other => other.1 ⟨m, integer⟩
    split at reads <;> cases reads
  · rw [readNumber?_of_not_integerText stripped written, and_iff_right written,
      ← isSome_readReal?_iff]
    simp

/-- A text is refused if it writes an integer with too many digits. -/
theorem readNumber?_eq_error_iff (stripped : Stripped s.toList t) :
    readNumber? s = .error fault ↔ (∃ n, IntegerText t n) ∧
      Number.maxDigits < t.countP isDigit ∧ fault = .tooManyDigits (t.countP isDigit) := by
  by_cases written : ∃ m, IntegerText t m
  · obtain ⟨m, integer⟩ := written
    rw [readNumber?_of_integerText stripped integer, and_iff_right ⟨m, integer⟩, ← Nat.not_le]
    split <;> simp_all [eq_comm]
  · rw [readNumber?_of_not_integerText stripped written]
    exact iff_of_false nofun fun refused => written refused.1

theorem fault_of_readNumber? (fails : readNumber? s = .error fault) :
    ∃ digits, fault = .tooManyDigits digits :=
  ⟨_, ((readNumber?_eq_error_iff (stripped_trim _)).1 fails).2.2⟩

end Numbers

end NumericKernel.Text

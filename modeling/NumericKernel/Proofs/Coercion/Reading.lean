import NumericKernel.Proofs.Coercion.Equality
import NumericKernel.Proofs.Text.NumberText

/-!
# Texts that stand for numbers

A coercion without words reads a text by the grammar of numbers: what stands between the
blanks at its two ends is an integer, a Real, or nothing that stands for a number.  An integer
with more digits than are converted is refused, although it is in the grammar.

* `standard_toNumber_text`: the coercion and the reader;
* `toNumber_text_grammar`: the texts of each kind, and the texts of integers read back;
* `toNumber_zeros`: a zero in the grammar that is not read.
-/

namespace NumericKernel.Coercion

open Text

variable {s : String} {t : List Char} {fault : Fault}

/-- The coercion without words reads a text by the reader of numbers. -/
theorem standard_toNumber_text (s : String) :
    standard.toNumber (.text s) =
      match readNumber? s with
      | .ok (some n) => .ok n
      | .ok none => .error (.notNumeric (.text s))
      | .error fault => .error fault := by
  rw [toNumber_text, standard, List.lookup_nil]
  cases readNumber? s with
  | error fault => rfl
  | ok read => cases read <;> rfl

theorem toNumber_text_eq_ok_iff {n : Number} :
    standard.toNumber (.text s) = .ok n ↔ readNumber? s = .ok (some n) := by
  rw [standard_toNumber_text]
  cases readNumber? s with
  | error fault => simp
  | ok read => cases read <;> simp

/-- A text stands for no number if none is read from it, or reading fails. -/
theorem toNumber_text_eq_error_iff : standard.toNumber (.text s) = .error fault ↔
    readNumber? s = .ok none ∧ fault = .notNumeric (.text s) ∨ readNumber? s = .error fault := by
  rw [standard_toNumber_text]
  cases readNumber? s with
  | error fault => simp
  | ok read => cases read <;> simp [eq_comm]

/-- What a text is read as, from what is left of it without the blanks at its two ends: an
integer if that is a sign and digits of any scripts, not too many, with the value of these; a
Real if it is no such text but has a point among the digits or an exponent; and no number if it
is neither.  A sign and too many digits are refused for their number.  So the text of an integer
that can be shown is read as that integer, with any blanks around it. -/
theorem toNumber_text_grammar (s : String) (n : Int) (text : String) :
    (∃ t, Stripped s.toList t ∧
      (∀ m, standard.toNumber (.text s) = .ok (.int m) ↔
        IntegerText t m ∧ t.countP isDigit ≤ Number.maxDigits) ∧
      ((∃ x, standard.toNumber (.text s) = .ok (.real x)) ↔ (¬∃ n, IntegerText t n) ∧ RealText t) ∧
      ∀ fault, standard.toNumber (.text s) = .error fault ↔
        (((¬∃ n, IntegerText t n) ∧ ¬RealText t) ∧
          fault = .notNumeric (.text s) ∧ fault.kind = .undefinedDomain) ∨
        (((∃ n, IntegerText t n) ∧ Number.maxDigits < t.countP isDigit) ∧
          fault = .tooManyDigits (t.countP isDigit) ∧ fault.kind = .badParameter)) ∧
    (Value.display (.number (.int n)) = .ok text ↔
      n.natAbs < 10 ^ Number.maxDigits ∧ text = (Number.int n).text) ∧
    (Value.display (.number (.int n)) = .ok text →
      ∀ left right : String, (∀ c ∈ left.toList, isBlank c = true) →
        (∀ c ∈ right.toList, isBlank c = true) →
        standard.toNumber (.text (left ++ (text ++ right))) = .ok (.int n)) := by
  refine ⟨⟨trim s.toList, stripped_trim _, ?_, ?_, ?_⟩, Value.display_int_eq_ok_iff,
    fun display left right blankLeft blankRight => ?_⟩
  · intro m
    rw [toNumber_text_eq_ok_iff, readNumber?_eq_int_iff (stripped_trim _)]
  · simp only [toNumber_text_eq_ok_iff]
    exact exists_readNumber?_real_iff (stripped_trim _)
  · intro fault
    rw [toNumber_text_eq_error_iff, readNumber?_eq_none_iff (stripped_trim _),
      readNumber?_eq_error_iff (stripped_trim _), ← and_assoc (b := Number.maxDigits < _)]
    refine or_congr (and_congr_right fun _ => ?_) (and_congr_right fun _ => ?_) <;>
      exact ⟨fun same => ⟨same, same ▸ rfl⟩, And.left⟩
  · obtain ⟨small, rfl⟩ := Value.display_int_eq_ok_iff.1 display
    have short := of_decide_eq_true (Number.isShowable_int_iff.2 small)
    have whole : (left ++ ((Number.int n).text ++ right)).toList =
        left.toList ++ ((toString n).toList ++ right.toList) := by
      rw [String.toList_append, String.toList_append]
      rfl
    rw [toNumber_text_eq_ok_iff, readNumber?_eq_int_iff
      (.of_plain whole blankLeft blankRight (Number.not_isBlank_toString n))]
    exact ⟨Number.integerText_toString n, Number.countP_isDigit_toString n ▸ short⟩

/-- A negative integer between two kinds of blanks. -/
theorem toNumber_text_grammar_minus_twelve :
    Value.display (.number (.int (-12))) = .ok "-12" ∧
      standard.toNumber (.text "\u00A0-12\n") = .ok (.int (-12)) := by
  have shown : Value.display (.number (.int (-12))) = .ok "-12" := by decide +kernel
  obtain ⟨-, -, reread⟩ := toNumber_text_grammar "" (-12) "-12"
  exact ⟨shown, reread shown "\u00A0" "\n" (List.forall_mem_singleton.2 (by decide))
    (List.forall_mem_singleton.2 (by decide))⟩

/-! ## Too many zeros -/

/-- Any number of zeros writes zero. -/
theorem integerText_zeros {n : Nat} (positive : n ≠ 0) : IntegerText (List.replicate n '0') 0 := by
  have each : List.Forall₂ (fun c value => digitValue? c = some value)
      (List.replicate n '0') (List.replicate n 0) :=
    List.forall₂_iff_get.2 ⟨by simp, fun i _ _ => by simp; rfl⟩
  have value : Nat.ofDigits 10 (List.replicate n 0).reverse = 0 := by
    rw [List.reverse_replicate]
    exact Nat.ofDigits_replicate_zero
  have integer := IntegerText.signed .absent (mt (List.replicate_eq_nil_iff _).1 positive) each
  rw [value] at integer
  exact integer

/-- Zeros write zero, however many they are, and more of them than are converted are refused. -/
theorem toNumber_zeros {n : Nat} (many : Number.maxDigits < n) :
    standard.toNumber (.text (String.ofList (List.replicate n '0'))) = .error (.tooManyDigits n) := by
  have stripped : Stripped (String.ofList (List.replicate n '0')).toList (List.replicate n '0') :=
    .of_eq String.toList_ofList fun c zero => by rw [List.eq_of_mem_replicate zero]; decide
  have count : (List.replicate n '0').countP isDigit = n := by
    rw [List.countP_replicate, if_pos (by decide)]
  rw [toNumber_text_eq_error_iff, readNumber?_eq_error_iff stripped, count]
  exact .inr ⟨⟨0, integerText_zeros (Nat.ne_of_gt (Nat.zero_lt_of_lt many))⟩, many, rfl⟩

/-- The first text of zeros that is refused. -/
theorem toNumber_zeros_4301 :
    IntegerText (List.replicate 4301 '0') 0 ∧
      standard.toNumber (.text (String.ofList (List.replicate 4301 '0'))) =
        .error (.tooManyDigits 4301) :=
  ⟨integerText_zeros (by decide), toNumber_zeros (by decide)⟩

/-- Digits of two scripts between two kinds of blanks. -/
example : standard.toNumber (.text "\u00A0-1\u0662\n") = .ok (.int (-12)) := rfl

end NumericKernel.Coercion

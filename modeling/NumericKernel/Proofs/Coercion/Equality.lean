import NumericKernel.Coercion
import NumericKernel.Proofs.Arithmetic.Integer
import NumericKernel.Proofs.Computation
import NumericKernel.Proofs.Text.Grammar

/-!
# Equality of content

Numbers are equal when they have the same exact value, so an integer can equal a Real,
and a pattern that is not a number equals nothing.  Equality by content is built on
that.  Whether it has an answer can depend on the order of its two sides, since a text with
too many digits is only refused where it is read; but where it says that two values are equal,
it says so in both orders:

* `Number.equal_iff`: numbers through their exact values;
* `Coercion.Alike`, `Coercion.equalScalar_eq_ok_true_iff`: the two ways in which scalars are
  equal;
* `Coercion.equal_list_eq_ok_true_iff`: lists, item by item;
* `Coercion.equal_symm`: values of any kind, lists nested to any depth included.
-/

namespace NumericKernel

/-! ## Numbers -/

namespace Double.Exact

theorem compare_eq_iff {x y : Exact} : x.compare y = .eq ↔ x = y := by
  cases x <;> cases y <;> simp [compare]

theorem ofInt_inj {m n : Int} : ofInt m = ofInt n ↔ m = n := by
  have positive : 0 < unitsPerOne := by
    rw [unitsPerOne, Nat.one_shiftLeft]
    exact Nat.pow_pos Nat.two_pos
  rw [ofInt, ofInt, finite.injEq, Int.mul_eq_mul_right_iff (by omega)]

/-- Comparison through values that may be missing finds equal ones only. -/
theorem lift_compare_eq_iff {x y : Option Exact} :
    (do return (← x).compare (← y)) = some Ordering.eq ↔ ∃ v, x = some v ∧ y = some v := by
  cases x with
  | none => simp
  | some u =>
    cases y with
    | none => simp
    | some v =>
      change some (u.compare v) = some .eq ↔ _
      rw [Option.some_inj, compare_eq_iff]
      constructor
      · rintro rfl
        exact ⟨u, rfl, rfl⟩
      · rintro ⟨w, left, right⟩
        exact Option.some.inj (left.trans right.symm)

end Double.Exact

namespace Number

/-- Two numbers are equal when they have an exact value, the same for both. -/
theorem equal_iff {a b : Number} :
    a.equal b = true ↔ ∃ v, a.value? = some v ∧ b.value? = some v := by
  rw [equal, beq_iff_eq]
  cases a with
  | int m =>
    cases b with
    | int n =>
      change some (compare m n) = some .eq ↔ _
      rw [Option.some_inj, Std.compare_eq_iff_eq]
      constructor
      · rintro rfl
        exact ⟨.ofInt m, rfl, rfl⟩
      · rintro ⟨v, left, right⟩
        exact Double.Exact.ofInt_inj.1 (Option.some.inj (left.trans right.symm))
    | real y => exact Double.Exact.lift_compare_eq_iff
  | real x => exact Double.Exact.lift_compare_eq_iff

theorem equal_comm (a b : Number) : a.equal b = b.equal a := by
  rw [Bool.eq_iff_iff, equal_iff, equal_iff]
  simp only [and_comm]

end Number

namespace Coercion

variable {c : Coercion} {v w : Value}

/-! ## What a value reads as -/

/-- A text reads as its word does, or else as the number that it writes. -/
theorem toNumber_text (c : Coercion) (s : String) :
    c.toNumber (.text s) =
      match c.words.lookup s, Text.readNumber? s with
      | some n, _ => .ok n
      | none, .ok (some n) => .ok n
      | none, .ok none => .error (.notNumeric (.text s))
      | none, .error fault => .error fault := by
  rw [toNumber]
  cases c.words.lookup s with
  | some n => rfl
  | none => cases Text.readNumber? s with
    | error fault => rfl
    | ok read => cases read <;> rfl

/-- A value that is not read stands for no number, or is a text with too many digits. -/
theorem fault_of_toNumber {fault : Fault} (fails : c.toNumber v = .error fault) :
    fault = .notNumeric v ∨ ∃ s digits, v = .text s ∧ fault = .tooManyDigits digits := by
  cases v with
  | text s =>
    rw [toNumber_text] at fails
    split at fails
    case h_3 => exact .inl (Except.error.inj fails).symm
    case h_4 refused =>
      obtain ⟨digits, rfl⟩ := Text.fault_of_readNumber? refused
      exact .inr ⟨s, digits, rfl, (Except.error.inj fails).symm⟩
    all_goals cases fails
  | number n => cases fails
  | _ => exact .inl (Except.error.inj fails).symm

/-- Of the faults of reading, the one of a value that is no number is the undefined one. -/
theorem kind_of_toNumber {fault : Fault} (fails : c.toNumber v = .error fault) :
    fault.kind = .undefinedDomain ↔ fault = .notNumeric v := by
  rcases fault_of_toNumber fails with rfl | ⟨s, digits, -, rfl⟩
  · exact iff_of_true rfl rfl
  · exact iff_of_false nofun nofun

/-! ## Scalars -/

/-- The texts of the values that are no numbers, and of the infinite numbers. -/
def wordless : List String := ["None", "True", "False", "inf", "-inf"]

theorem readNumber?_of_wordless : ∀ s ∈ wordless, Text.readNumber? s = .ok none := by
  decide +kernel

/-- The two ways in which scalars are equal: as numbers, or by their texts if one of the two
stands for no number. -/
inductive Alike (c : Coercion) (v w : Value) : Prop where
  | numbers {m n : Number} (left : c.toNumber v = .ok m) (right : c.toNumber w = .ok n)
      (same : m.equal n = true)
  | texts {text : String}
      (unread : c.toNumber v = .error (.notNumeric v) ∨ c.toNumber w = .error (.notNumeric w))
      (left : v.display = .ok text) (right : w.display = .ok text)

theorem Alike.symm (alike : Alike c v w) : Alike c w v := by
  cases alike with
  | numbers left right same => exact .numbers right left (Number.equal_comm _ _ ▸ same)
  | texts unread left right => exact .texts unread.symm right left

/-- A comparison of numbers has an answer exactly if both sides read as one. -/
theorem equalNumbers_eq_ok_iff {b : Bool} : c.equalNumbers v w = .ok b ↔
    ∃ m n, c.toNumber v = .ok m ∧ c.toNumber w = .ok n ∧ m.equal n = b := by
  simp [equalNumbers, bind_eq_ok_iff, pure, Except.pure]

/-- The comparison as numbers is given up for the first value that stands for none. -/
theorem equalNumbers_undefined_iff :
    (∃ fault, c.equalNumbers v w = .error fault ∧ fault.kind = .undefinedDomain) ↔
      c.toNumber v = .error (.notNumeric v) ∨
        ∃ m, c.toNumber v = .ok m ∧ c.toNumber w = .error (.notNumeric w) := by
  unfold equalNumbers
  cases left : c.toNumber v with
  | error fault => simp [bind, Except.bind, kind_of_toNumber left]
  | ok m =>
    cases right : c.toNumber w with
    | error fault => simp [bind, Except.bind, kind_of_toNumber right]
    | ok n => simp [bind, Except.bind, pure, Except.pure]

/-- A comparison of texts finds them equal exactly if both sides show the same. -/
theorem equalTexts_eq_ok_true_iff : equalTexts v w = .ok true ↔
    ∃ text, v.display = .ok text ∧ w.display = .ok text := by
  simp [equalTexts, bind_eq_ok_iff, pure, Except.pure]

/-- A value that stands for no number does not show the text of one with too many digits. -/
theorem display_ne_of_tooManyDigits {fault : Fault} {text : String}
    (refused : c.toNumber v = .error fault) (other : fault ≠ .notNumeric v)
    (unread : c.toNumber w = .error (.notNumeric w)) (scalar : isIterable w = false)
    (left : v.display = .ok text) : w.display ≠ .ok text := by
  obtain ⟨s, digits, rfl, rfl⟩ := (fault_of_toNumber refused).resolve_left other
  obtain rfl : s = text := Except.ok.inj left
  -- without a number of its own, the text is read by the reader of numbers
  have named {name : String} (shown : name ∈ wordless) : name ≠ s := by
    intro same
    rw [toNumber_text, ← same, readNumber?_of_wordless name shown] at refused
    split at refused <;> simp_all
  intro right
  cases w with
  | text t =>
    obtain rfl : t = s := Except.ok.inj right
    cases refused.symm.trans unread
  | null => exact named (by decide) (Except.ok.inj right)
  | bool b => cases b <;> exact named (by decide) (Except.ok.inj right)
  | number n => cases unread
  | list items => cases scalar

/-- Scalars are found equal exactly if they are alike. -/
theorem equalScalar_eq_ok_true_iff (scalar : isIterable w = false) :
    c.equalScalar v w = .ok true ↔ Alike c v w := by
  rw [equalScalar, whereUndefined_eq_ok_iff, equalNumbers_eq_ok_iff, equalNumbers_undefined_iff,
    equalTexts_eq_ok_true_iff]
  constructor
  · intro outcome
    rcases outcome with ⟨m, n, readLeft, readRight, same⟩ | ⟨unread, text, shownLeft, shownRight⟩
    · exact .numbers readLeft readRight same
    · exact .texts (unread.imp_right fun ⟨_, _, unread⟩ => unread) shownLeft shownRight
  · intro alike
    cases alike with
    | numbers readLeft readRight same => exact .inl ⟨_, _, readLeft, readRight, same⟩
    | @texts text unread shownLeft shownRight =>
      refine .inr ⟨?_, text, shownLeft, shownRight⟩
      cases first : c.toNumber v with
      | ok m => exact .inr ⟨m, rfl, unread.resolve_left (first ▸ nofun)⟩
      | error fault =>
        by_cases known : fault = .notNumeric v
        · exact .inl (known ▸ rfl)
        · have second := unread.resolve_left fun same =>
            known (Except.error.inj (first.symm.trans same))
          exact absurd shownRight (display_ne_of_tooManyDigits first known second scalar shownLeft)

/-- Values that are no lists are compared as scalars. -/
theorem equal_scalar (c : Coercion) (left : isIterable v = false)
    (right : isIterable w = false) : c.equal v w = c.equalScalar v w := by
  have notList {u : Value} (scalar : isIterable u = false) (items : List Value)
      (same : u = .list items) : False := by
    rw [same, isIterable] at scalar
    exact Bool.noConfusion scalar
  exact equal.eq_4 c v w (notList left) (notList right) fun vs _ same _ => notList left vs same

/-! ## Lists -/

variable {vs ws : List Value}

/-- Lists of one length are equal exactly if their items are, one by one. -/
theorem equalItems_eq_ok_true_iff (length : vs.length = ws.length) :
    c.equalItems vs ws = .ok true ↔ List.Forall₂ (fun v w => c.equal v w = .ok true) vs ws := by
  induction vs generalizing ws with
  | nil =>
    obtain rfl := List.length_eq_zero_iff.1 length.symm
    exact iff_of_true rfl .nil
  | cons v vs ih =>
    cases ws with
    | nil => cases length
    | cons w ws =>
      rw [equalItems, bind_eq_ok_iff, List.forall₂_cons, ← ih (Nat.succ.inj length)]
      simp [pure, Except.pure]

/-- Lists are equal if they are item by item. -/
theorem equal_list_eq_ok_true_iff : c.equal (.list vs) (.list ws) = .ok true ↔
    List.Forall₂ (fun v w => c.equal v w = .ok true) vs ws := by
  rw [equal]
  split
  case isTrue length => exact equalItems_eq_ok_true_iff length
  case isFalse apart => exact iff_of_false nofun fun items => apart items.length_eq

/-! ## Both directions -/

mutual

/-- Two values that are equal in one direction are equal in the other. -/
theorem equal_symm (v : Value) {w : Value} (same : c.equal v w = .ok true) :
    c.equal w v = .ok true := by
  cases v with
  | list vs =>
    cases w with
    | list ws =>
      rw [equal_list_eq_ok_true_iff] at same ⊢
      exact equalItems_symm vs same
    | _ => cases same
  | _ =>
    cases w with
    | list ws => cases same
    | _ =>
      rw [equal_scalar c rfl rfl, equalScalar_eq_ok_true_iff rfl] at same ⊢
      exact same.symm

/-- Items that are equal one by one are so in both orders. -/
theorem equalItems_symm (vs : List Value) {ws : List Value}
    (same : List.Forall₂ (fun v w => c.equal v w = .ok true) vs ws) :
    List.Forall₂ (fun v w => c.equal v w = .ok true) ws vs := by
  cases vs with
  | nil =>
    cases same
    exact .nil
  | cons v vs =>
    cases same with
    | cons here later => exact .cons (equal_symm v here) (equalItems_symm vs later)

end

end Coercion

end NumericKernel

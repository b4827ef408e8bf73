import NumericKernel.Proofs.Coercion.Equality
import NumericKernel.Proofs.Text.NumberText

/-!
# Chains of equality by content

A pair of scalars is compared as numbers if both read as one, and by their texts
otherwise, so the two links of a chain can be judged by different rules.  A link between
a value that reads as a number and one that does not is rare: the first is an infinite
Real and the second is its name as a text.  Hence a chain breaks in one way only.

This is about values whose integers, written as texts or not, have few enough digits to be
converted, for which the comparison always has an answer:

* `Coercion.exists_equal`: the answer;
* `Coercion.infinite_of_mixed`: the rare link;
* `Coercion.Breach`: the broken chains, `"1e400"`, the infinite Real and `"inf"` for one;
* `Coercion.equal_equivalence`: equality by content is reflexive and symmetric, and a chain
  of two equalities gives a third unless it is one of those.
-/

namespace NumericKernel

/-! ## Values without a pattern that is not a number -/

namespace Value

mutual

/-- Every Real in the value, at any depth, has an exact value. -/
def valued : Value → Bool
  | .number n => n.value?.isSome
  | .list items => allValued items
  | _ => true

/-- Whether no item of a list holds a pattern that is not a number. -/
def allValued : List Value → Bool
  | [] => true
  | v :: vs => v.valued && allValued vs

end

mutual

/-- No integer in the value, at any depth, has more digits than are converted, and neither has
one that is written as a text. -/
def short : Value → Bool
  | .number n => n.isShowable
  | .text s => (Text.readNumber? s).isOk
  | .list items => allShort items
  | _ => true

/-- Whether no item of a list holds too many digits. -/
def allShort : List Value → Bool
  | [] => true
  | v :: vs => v.short && allShort vs

end

/-- A value all of whose numbers have exact values and can be converted. -/
structure Tame (v : Value) : Prop where
  valued : v.valued = true
  short : v.short = true

/-- A list is tame exactly if its items are. -/
theorem tame_cons_iff {v : Value} {vs : List Value} :
    (Value.list (v :: vs)).Tame ↔ v.Tame ∧ (Value.list vs).Tame := by
  have valued : (Value.list (v :: vs)).valued = (v.valued && (Value.list vs).valued) := rfl
  have short : (Value.list (v :: vs)).short = (v.short && (Value.list vs).short) := rfl
  constructor
  · intro tame
    have bothValued := (Bool.and_eq_true _ _).mp (valued ▸ tame.valued)
    have bothShort := (Bool.and_eq_true _ _).mp (short ▸ tame.short)
    exact ⟨⟨bothValued.1, bothShort.1⟩, bothValued.2, bothShort.2⟩
  · intro ⟨here, later⟩
    refine ⟨?_, ?_⟩
    · rw [valued, here.valued, later.valued, Bool.and_self]
    · rw [short, here.short, later.short, Bool.and_self]

end Value

namespace Coercion

variable {c : Coercion}

/-! ## What a value reads as -/

/-- The words of a coercion have values, and none of them is the text of another value. -/
structure PlainWords (c : Coercion) : Prop where
  valued : ∀ word ∈ c.words, word.2.value?.isSome = true
  apart : ∀ word ∈ c.words, word.1 ∉ wordless

theorem plainWords_standard : PlainWords standard where
  valued _ mem := nomatch mem
  apart _ mem := nomatch mem

theorem plainWords_withWords : PlainWords withWords where
  valued := by decide
  apart := by decide

/-- The exact value of the number that a value stands for. -/
def reading (c : Coercion) (v : Value) : Option Double.Exact :=
  match c.toNumber v with
  | .ok n => n.value?
  | .error _ => none

/-- What a value reads as always has an exact value. -/
theorem isSome_value?_of_toNumber (words : PlainWords c) {v : Value} {n : Number}
    (valued : v.valued = true) (reads : c.toNumber v = .ok n) : n.value?.isSome = true := by
  cases v with
  | number m =>
    cases reads
    exact valued
  | text s =>
    rw [toNumber_text] at reads
    split at reads
    case h_1 word =>
      cases reads
      rcases List.lookup_eq_some_iff.1 word with ⟨before, after, split, _⟩
      exact words.valued (s, n) (split ▸ List.mem_append_right before List.mem_cons_self)
    case h_2 written =>
      cases reads
      exact Text.isSome_value?_of_readNumber? written
    all_goals cases reads
  | _ => cases reads

/-- A value that reads as a number reads as the exact value of it. -/
theorem reading_of_toNumber (words : PlainWords c) {v : Value} {n : Number}
    (valued : v.valued = true) (reads : c.toNumber v = .ok n) :
    ∃ e, n.value? = some e ∧ c.reading v = some e := by
  rcases Option.isSome_iff_exists.1 (isSome_value?_of_toNumber words valued reads) with ⟨e, value⟩
  refine ⟨e, value, ?_⟩
  rw [reading, reads]
  exact value

theorem reading_of_not_toNumber {v : Value} {fault : Fault} (refused : c.toNumber v = .error fault) :
    c.reading v = none := by
  rw [reading, refused]

/-- A value that reads as an exact value reads as a number that has it. -/
theorem toNumber_of_reading {v : Value} {e : Double.Exact} (read : c.reading v = some e) :
    ∃ n, c.toNumber v = .ok n ∧ n.value? = some e := by
  cases reads : c.toNumber v with
  | ok n =>
    rw [reading, reads] at read
    exact ⟨n, rfl, read⟩
  | error fault =>
    rw [reading_of_not_toNumber reads] at read
    cases read

/-- A value whose integers are short is read, or stands for no number. -/
theorem toNumber_of_short {v : Value} (short : v.short = true) :
    (∃ n, c.toNumber v = .ok n) ∨ c.toNumber v = .error (.notNumeric v) := by
  cases reads : c.toNumber v with
  | ok n => exact .inl ⟨n, rfl⟩
  | error fault =>
    rcases fault_of_toNumber reads with rfl | ⟨s, digits, rfl, rfl⟩
    · exact .inr rfl
    · rw [toNumber_text] at reads
      rw [Value.short] at short
      split at reads
      case h_4 refused => rw [refused] at short; cases short
      all_goals cases reads

theorem display_of_short {v : Value} (short : v.short = true) (scalar : isIterable v = false) :
    v.display = .ok v.plain := by
  cases v with
  | number n => exact if_pos short
  | list items => cases scalar
  | _ => rfl

theorem toNumber_of_unread (words : PlainWords c) {v : Value} (tame : v.Tame)
    (unread : c.reading v = none) : c.toNumber v = .error (.notNumeric v) := by
  refine (toNumber_of_short tame.short).resolve_left fun ⟨n, reads⟩ => ?_
  obtain ⟨e, -, read⟩ := reading_of_toNumber words tame.valued reads
  rw [unread] at read
  cases read

/-- Two scalars that read as values are equal when they read as the same. -/
theorem equalScalar_of_read {v w : Value} {e f : Double.Exact} (left : c.reading v = some e)
    (right : c.reading w = some f) : c.equalScalar v w = .ok (decide (e = f)) := by
  rcases toNumber_of_reading left with ⟨m, readsLeft, valueLeft⟩
  rcases toNumber_of_reading right with ⟨n, readsRight, valueRight⟩
  have same : m.equal n = decide (e = f) := by
    rw [Bool.eq_iff_iff, Number.equal_iff, valueLeft, valueRight, decide_eq_true_iff]
    constructor
    · intro ⟨g, sameLeft, sameRight⟩
      exact Option.some.inj (sameLeft.trans sameRight.symm)
    · intro same
      exact ⟨e, rfl, same ▸ rfl⟩
  rw [equalScalar, whereUndefined_eq_ok_iff, equalNumbers_eq_ok_iff]
  exact .inl ⟨m, n, readsLeft, readsRight, same⟩

theorem reading_eq_of_equalScalar {v w : Value} {e f : Double.Exact} (left : c.reading v = some e)
    (right : c.reading w = some f) (same : c.equalScalar v w = .ok true) : e = f := by
  rw [equalScalar_of_read left right] at same
  exact of_decide_eq_true (Except.ok.inj same)

/-- Two scalars of which one reads as no value are equal when they show the same text. -/
theorem equalScalar_of_unread (words : PlainWords c) {v w : Value} (left : v.Tame) (right : w.Tame)
    (scalarLeft : isIterable v = false) (scalarRight : isIterable w = false)
    (unread : c.reading v = none ∨ c.reading w = none) :
    c.equalScalar v w = .ok (v.plain == w.plain) := by
  have undefined : c.toNumber v = .error (.notNumeric v) ∨
      ∃ m, c.toNumber v = .ok m ∧ c.toNumber w = .error (.notNumeric w) := by
    rcases toNumber_of_short left.short with ⟨m, reads⟩ | unreadLeft
    · obtain ⟨e, -, read⟩ := reading_of_toNumber words left.valued reads
      have unreadRight := unread.resolve_left (read ▸ Option.some_ne_none e)
      exact .inr ⟨m, reads, toNumber_of_unread words right unreadRight⟩
    · exact .inl unreadLeft
  rw [equalScalar, whereUndefined_eq_ok_iff, equalNumbers_undefined_iff, equalTexts,
    display_of_short left.short scalarLeft, display_of_short right.short scalarRight]
  exact .inr ⟨undefined, rfl⟩

/-- Equal scalars of which one reads as no value show the same text. -/
theorem plain_eq_of_equalScalar (words : PlainWords c) {v w : Value} (left : v.Tame) (right : w.Tame)
    (scalarLeft : isIterable v = false) (scalarRight : isIterable w = false)
    (same : c.equalScalar v w = .ok true) (unread : c.reading v = none ∨ c.reading w = none) :
    v.plain = w.plain := by
  rw [equalScalar_of_unread words left right scalarLeft scalarRight unread] at same
  exact beq_iff_eq.1 (Except.ok.inj same)

/-! ## Links between a number and a value that is none -/

/-- The texts of the values without a number read as nothing. -/
theorem reading_text_of_wordless (words : PlainWords c) {s : String} (shown : s ∈ wordless) :
    c.reading (.text s) = none := by
  have word : c.words.lookup s = none := by
    rw [List.lookup_eq_none_iff]
    intro entry mem
    rw [bne_iff_ne]
    rintro rfl
    exact words.apart entry mem shown
  have refused : c.toNumber (.text s) = .error (.notNumeric (.text s)) := by
    rw [toNumber_text, word, readNumber?_of_wordless s shown]
  exact reading_of_not_toNumber refused

theorem reading_number {n : Number} : c.reading (.number n) = n.value? := rfl

/-- What does not read as a number shows as a text that does not either. -/
theorem reading_plain_of_none (words : PlainWords c) {v : Value} (valued : v.valued = true)
    (scalar : isIterable v = false) (unread : c.reading v = none) :
    c.reading (.text v.plain) = none := by
  cases v with
  | null => exact reading_text_of_wordless words (by decide)
  | bool b => cases b <;> exact reading_text_of_wordless words (by decide)
  | number n =>
    rw [reading_number] at unread
    rw [Value.valued, unread] at valued
    cases valued
  | text s => exact unread
  | list items => cases scalar

/-- A finite number that can be shown has a text that reads as a number. -/
theorem reading_text_of_finite (words : PlainWords c) {n : Number} (finite : n.isFinite = true)
    (short : n.isShowable = true) : c.reading (.text n.text) ≠ none := by
  rcases Number.exists_readNumber?_text finite short with ⟨m, written⟩
  have reads : ∃ k, c.toNumber (.text n.text) = .ok k := by
    rw [toNumber_text, written]
    cases c.words.lookup n.text with
    | none => exact ⟨m, rfl⟩
    | some k => exact ⟨k, rfl⟩
  rcases reads with ⟨k, reads⟩
  rcases reading_of_toNumber words rfl reads with ⟨e, _, reading⟩
  rw [reading]
  exact Option.some_ne_none e

/-- Of two scalars with the same text, of which only one reads as a number, this one is an
infinite Real and the other is its name. -/
theorem infinite_of_mixed (words : PlainWords c) {v w : Value} {e : Double.Exact}
    (short : v.short = true) (valued : w.valued = true) (scalar : isIterable w = false)
    (read : c.reading v = some e) (unread : c.reading w = none) (same : v.plain = w.plain) :
    ∃ n name, v = .number n ∧ e.name? = some name ∧ w = .text name := by
  have textUnread := reading_plain_of_none words valued scalar unread
  cases v with
  | number n =>
    have value : n.value? = some e := read
    have infinite : n.isFinite = false := by
      rw [← Bool.not_eq_true]
      intro finite
      exact reading_text_of_finite words finite short
        ((congrArg (c.reading ∘ .text) same).trans textUnread)
    rcases Number.name_of_infinite value infinite with ⟨name, named⟩
    have shown : name = w.plain := (Number.text_of_name value named).symm.trans same
    refine ⟨n, name, rfl, named, ?_⟩
    cases w with
    | text t => rw [shown, Value.plain]
    | number m =>
      rw [Value.valued, ← reading_number, unread] at valued
      cases valued
    | null => rcases Double.Exact.name?_eq named with rfl | rfl <;> exact absurd shown (by decide)
    | bool b =>
      cases b <;> rcases Double.Exact.name?_eq named with rfl | rfl <;> exact absurd shown (by decide)
    | list items => cases scalar
  | text s =>
    rw [← same] at textUnread
    exact absurd (read.symm.trans textUnread) (Option.some_ne_none e)
  | _ => cases read

/-! ## Broken chains -/

/-- The chains of two equalities that break: somewhere in the middle is an infinite Real,
on one side of it its name, and on the other a text that reads as the same infinity. -/
inductive Breach (c : Coercion) : Value → Value → Value → Prop where
  | named {n : Number} {e : Double.Exact} {name s : String} (value : n.value? = some e)
      (called : e.name? = some name) (read : c.reading (.text s) = some e) :
      Breach c (.text name) (.number n) (.text s)
  | written {n : Number} {e : Double.Exact} {name s : String} (value : n.value? = some e)
      (called : e.name? = some name) (read : c.reading (.text s) = some e) :
      Breach c (.text s) (.number n) (.text name)
  | head {x y z : Value} {xs ys zs : List Value} (here : Breach c x y z) :
      Breach c (.list (x :: xs)) (.list (y :: ys)) (.list (z :: zs))
  | tail {x y z : Value} {xs ys zs : List Value} (later : Breach c (.list xs) (.list ys) (.list zs)) :
      Breach c (.list (x :: xs)) (.list (y :: ys)) (.list (z :: zs))

theorem Breach.symm {x y z : Value} (breach : Breach c x y z) : Breach c z y x := by
  induction breach with
  | named value called read => exact .written value called read
  | written value called read => exact .named value called read
  | head _ ih => exact .head ih
  | tail _ ih => exact .tail ih

/-- The name of an infinity is not equal to a text that reads as it. -/
theorem equal_name_ne_true (words : PlainWords c) {e : Double.Exact} {name s : String}
    (called : e.name? = some name) (read : c.reading (.text s) = some e) :
    c.equal (.text name) (.text s) ≠ .ok true := by
  have shown : name ∈ wordless := by
    rcases Double.Exact.name?_eq called with rfl | rfl <;> decide
  have unread := reading_text_of_wordless words shown
  rw [equal_scalar c rfl rfl, Ne, equalScalar_eq_ok_true_iff rfl]
  intro alike
  cases alike with
  | numbers left right same =>
    obtain ⟨f, -, named⟩ := reading_of_toNumber words rfl left
    rw [unread] at named
    cases named
  | texts _ left right =>
    obtain rfl : name = s := Except.ok.inj (left.trans right.symm)
    rw [read] at unread
    cases unread

/-- A chain that breaks does not give the third equality. -/
theorem Breach.equal_ne_true (words : PlainWords c) {x y z : Value} (breach : Breach c x y z) :
    c.equal x z ≠ .ok true := by
  induction breach with
  | named value called read => exact equal_name_ne_true words called read
  | written value called read =>
    exact fun same => equal_name_ne_true words called read (equal_symm _ same)
  | head _ ih =>
    intro same
    exact ih (List.forall₂_cons.1 (equal_list_eq_ok_true_iff.1 same)).1
  | tail _ ih =>
    intro same
    exact ih (equal_list_eq_ok_true_iff.2 (List.forall₂_cons.1 (equal_list_eq_ok_true_iff.1 same)).2)

/-! ## Chains of scalars -/

section Scalars

variable {x y z : Value} (words : PlainWords c)

include words

/-- The one kind of chain that may break, seen from the end that is no number. -/
theorem equalScalar_or_breach_of_unread {e : Double.Exact} (left : x.Tame)
    (scalarLeft : isIterable x = false) (center : y.Tame) (right : z.Tame)
    (scalarRight : isIterable z = false) (unread : c.reading x = none)
    (middle : c.reading y = some e) (read : c.reading z = some e) (first : x.plain = y.plain) :
    c.equalScalar x z = .ok true ∨ Breach c x y z := by
  rcases infinite_of_mixed words center.short left.valued scalarLeft middle unread first.symm with
    ⟨n, name, rfl, called, rfl⟩
  cases z with
  | number m =>
    rw [equalScalar_of_unread words left right scalarLeft scalarRight (.inl unread)]
    exact .inl (congrArg _ (beq_iff_eq.2 (Number.text_of_name read called).symm))
  | text s => exact .inr (.named middle called read)
  | _ => cases read

/-- A chain of equal texts closes if one of its ends reads as no value. -/
theorem equalScalar_of_plain (left : x.Tame) (right : z.Tame)
    (scalarLeft : isIterable x = false) (scalarRight : isIterable z = false)
    (unread : c.reading x = none ∨ c.reading z = none) (first : x.plain = y.plain)
    (second : y.plain = z.plain) : c.equalScalar x z = .ok true := by
  rw [equalScalar_of_unread words left right scalarLeft scalarRight unread]
  exact congrArg _ (beq_iff_eq.2 (first.trans second))

/-- Two scalars that read as values, and show the text of one that reads as none, are infinite
Reals with one name. -/
theorem reading_eq_of_unread_center {e f : Double.Exact} (left : x.Tame) (center : y.Tame)
    (scalarCenter : isIterable y = false) (right : z.Tame) (readLeft : c.reading x = some e)
    (unread : c.reading y = none) (readRight : c.reading z = some f) (first : x.plain = y.plain)
    (second : y.plain = z.plain) : e = f := by
  rcases infinite_of_mixed words left.short center.valued scalarCenter readLeft unread first with
    ⟨_, name, _, called, rfl⟩
  rcases infinite_of_mixed words right.short center.valued scalarCenter readRight unread
    second.symm with ⟨_, _, _, calledRight, same⟩
  cases same
  exact Double.Exact.name?_inj called calledRight

/-- A chain of scalars closes, or it is broken. -/
theorem equalScalar_or_breach (left : x.Tame) (center : y.Tame) (right : z.Tame)
    (scalarLeft : isIterable x = false) (scalarCenter : isIterable y = false)
    (scalarRight : isIterable z = false) (first : c.equalScalar x y = .ok true)
    (second : c.equalScalar y z = .ok true) : c.equalScalar x z = .ok true ∨ Breach c x y z := by
  have shownFirst := plain_eq_of_equalScalar words left center scalarLeft scalarCenter first
  have shownSecond := plain_eq_of_equalScalar words center right scalarCenter scalarRight second
  have through := equalScalar_of_plain (y := y) words left right scalarLeft scalarRight
  cases readLeft : c.reading x with
  | none =>
    have textFirst := shownFirst (.inl readLeft)
    cases readRight : c.reading z with
    | none => exact .inl (through (.inl readLeft) textFirst (shownSecond (.inr readRight)))
    | some g =>
      cases readCenter : c.reading y with
      | none => exact .inl (through (.inl readLeft) textFirst (shownSecond (.inl readCenter)))
      | some f =>
        obtain rfl := reading_eq_of_equalScalar readCenter readRight second
        exact equalScalar_or_breach_of_unread words left scalarLeft center right scalarRight readLeft
          readCenter readRight textFirst
  | some e =>
    cases readRight : c.reading z with
    | none =>
      have textSecond := shownSecond (.inr readRight)
      cases readCenter : c.reading y with
      | none => exact .inl (through (.inr readRight) (shownFirst (.inr readCenter)) textSecond)
      | some f =>
        obtain rfl := reading_eq_of_equalScalar readLeft readCenter first
        have backwards := equalScalar_or_breach_of_unread words right scalarRight center left
          scalarLeft readRight readCenter readLeft textSecond.symm
        rw [equalScalar_eq_ok_true_iff scalarLeft] at backwards
        rw [equalScalar_eq_ok_true_iff scalarRight]
        exact backwards.imp Alike.symm Breach.symm
    | some g =>
      have same : e = g := by
        cases readCenter : c.reading y with
        | none =>
          exact reading_eq_of_unread_center words left center scalarCenter right readLeft readCenter
            readRight (shownFirst (.inr readCenter)) (shownSecond (.inl readCenter))
        | some f =>
          exact (reading_eq_of_equalScalar readLeft readCenter first).trans
            (reading_eq_of_equalScalar readCenter readRight second)
      rw [equalScalar_of_read readLeft readRight, same, decide_eq_true rfl]
      exact .inl rfl

end Scalars

/-! ## Values of any kind -/

/-- A list equals lists only. -/
theorem isIterable_of_equal {v w : Value} (same : c.equal v w = .ok true) :
    isIterable v = isIterable w := by
  cases v with
  | list vs =>
    cases w with
    | list ws => rfl
    | _ => cases same
  | _ =>
    cases w with
    | list ws => cases same
    | _ => rfl

theorem exists_items {v : Value} (iterable : isIterable v = true) : ∃ items, v = .list items := by
  cases v with
  | list items => exact ⟨items, rfl⟩
  | _ => cases iterable

/-- The comparison of tame scalars has an answer. -/
theorem exists_equalScalar (words : PlainWords c) {v w : Value} (left : v.Tame) (right : w.Tame)
    (scalarLeft : isIterable v = false) (scalarRight : isIterable w = false) :
    ∃ b, c.equalScalar v w = .ok b := by
  cases readLeft : c.reading v with
  | none => exact ⟨_, equalScalar_of_unread words left right scalarLeft scalarRight (.inl readLeft)⟩
  | some e =>
    cases readRight : c.reading w with
    | none =>
      exact ⟨_, equalScalar_of_unread words left right scalarLeft scalarRight (.inr readRight)⟩
    | some f => exact ⟨_, equalScalar_of_read readLeft readRight⟩

mutual

/-- The comparison of values without integers that are too long has an answer. -/
theorem exists_equal (words : PlainWords c) (v : Value) {w : Value} (left : v.Tame)
    (right : w.Tame) : ∃ b, c.equal v w = .ok b := by
  cases v with
  | list vs =>
    cases w with
    | list ws =>
      rw [equal]
      split
      · exact exists_equalItems words vs left right
      · exact ⟨false, rfl⟩
    | _ => exact ⟨false, rfl⟩
  | _ =>
    cases w with
    | list ws => exact ⟨false, rfl⟩
    | _ =>
      rw [equal_scalar c rfl rfl]
      exact exists_equalScalar words left right rfl rfl

/-- The comparison of tame items has an answer. -/
theorem exists_equalItems (words : PlainWords c) (vs : List Value) {ws : List Value}
    (left : (Value.list vs).Tame) (right : (Value.list ws).Tame) :
    ∃ b, c.equalItems vs ws = .ok b := by
  cases vs with
  | nil => exact ⟨true, rfl⟩
  | cons v vs =>
    cases ws with
    | nil => exact ⟨true, rfl⟩
    | cons w ws =>
      rw [Value.tame_cons_iff] at left right
      obtain ⟨here, found⟩ := exists_equal words v left.1 right.1
      rw [equalItems, found, ok_bind]
      cases here with
      | false => exact ⟨false, rfl⟩
      | true => exact exists_equalItems words vs left.2 right.2

end

/-- The comparison is the same in both directions. -/
theorem equal_comm (words : PlainWords c) {v w : Value} (left : v.Tame) (right : w.Tame) :
    c.equal v w = c.equal w v := by
  obtain ⟨a, forward⟩ := exists_equal words v left right
  obtain ⟨b, backward⟩ := exists_equal words w right left
  rw [forward, backward]
  refine congrArg _ (Bool.eq_iff_iff.2 ⟨?_, ?_⟩) <;> intro same <;> subst same
  · exact Except.ok.inj (backward.symm.trans (equal_symm v forward))
  · exact Except.ok.inj (forward.symm.trans (equal_symm w backward))

/-- A tame scalar equals itself. -/
theorem equalScalar_refl (words : PlainWords c) {v : Value} (tame : v.Tame)
    (scalar : isIterable v = false) : c.equalScalar v v = .ok true := by
  cases read : c.reading v with
  | none =>
    rw [equalScalar_of_unread words tame tame scalar scalar (.inl read)]
    exact congrArg _ (beq_self_eq_true _)
  | some e => rw [equalScalar_of_read read read, decide_eq_true rfl]

mutual

/-- A tame value equals itself. -/
theorem equal_refl (words : PlainWords c) (v : Value) (tame : v.Tame) :
    c.equal v v = .ok true := by
  cases v with
  | list items =>
    rw [equal_list_eq_ok_true_iff]
    exact equalItems_refl words items tame
  | _ =>
    rw [equal_scalar c rfl rfl]
    exact equalScalar_refl words tame rfl

/-- Tame items equal themselves. -/
theorem equalItems_refl (words : PlainWords c) (vs : List Value) (tame : (Value.list vs).Tame) :
    List.Forall₂ (fun v w => c.equal v w = .ok true) vs vs := by
  cases vs with
  | nil => exact .nil
  | cons v vs =>
    rw [Value.tame_cons_iff] at tame
    exact .cons (equal_refl words v tame.1) (equalItems_refl words vs tame.2)

end

mutual

/-- A chain of two equalities gives the third, or it breaks. -/
theorem equal_or_breach (words : PlainWords c) (x : Value) {y z : Value} (left : x.Tame)
    (center : y.Tame) (right : z.Tame) (first : c.equal x y = .ok true)
    (second : c.equal y z = .ok true) : c.equal x z = .ok true ∨ Breach c x y z := by
  have kindFirst := isIterable_of_equal first
  have kindSecond := kindFirst.trans (isIterable_of_equal second)
  cases x with
  | list xs =>
    rcases exists_items kindFirst.symm with ⟨ys, rfl⟩
    rcases exists_items kindSecond.symm with ⟨zs, rfl⟩
    rw [equal_list_eq_ok_true_iff] at first second ⊢
    exact equalItems_or_breach words xs left center right first second
  | _ =>
    rw [equal_scalar c rfl kindFirst.symm] at first
    rw [equal_scalar c kindFirst.symm kindSecond.symm] at second
    rw [equal_scalar c rfl kindSecond.symm]
    exact equalScalar_or_breach words left center right rfl kindFirst.symm kindSecond.symm first second

/-- A chain of lists closes, or it is broken inside. -/
theorem equalItems_or_breach (words : PlainWords c) (xs : List Value) {ys zs : List Value}
    (left : (Value.list xs).Tame) (center : (Value.list ys).Tame) (right : (Value.list zs).Tame)
    (first : List.Forall₂ (fun v w => c.equal v w = .ok true) xs ys)
    (second : List.Forall₂ (fun v w => c.equal v w = .ok true) ys zs) :
    List.Forall₂ (fun v w => c.equal v w = .ok true) xs zs ∨
      Breach c (.list xs) (.list ys) (.list zs) := by
  cases xs with
  | nil =>
    cases first
    cases second
    exact .inl .nil
  | cons x xs =>
    cases first with
    | cons firstHere firstLater =>
      cases second with
      | cons secondHere secondLater =>
        rw [Value.tame_cons_iff] at left center right
        rcases equal_or_breach words x left.1 center.1 right.1 firstHere secondHere with here | here
        · exact (equalItems_or_breach words xs left.2 center.2 right.2 firstLater secondLater).imp
            (.cons here) .tail
        · exact .inr (.head here)

end

/-- Equality by content is reflexive and symmetric, and a chain of two equalities gives the
third exactly if it does not break.  The values are those without a pattern that is not a number
and without an integer that has too many digits to be converted; on these the comparison
always has an answer. -/
theorem equal_equivalence (known : c = standard ∨ c = withWords) :
    (∀ x : Value, x.valued = true → x.short = true → c.equal x x = .ok true) ∧
      (∀ x y : Value, x.valued = true → x.short = true → y.valued = true → y.short = true →
        ∃ b, c.equal x y = .ok b ∧ c.equal y x = .ok b) ∧
      ∀ x y z : Value, x.valued = true → x.short = true → y.valued = true → y.short = true →
        z.valued = true → z.short = true →
        c.equal x y = .ok true → c.equal y z = .ok true →
        ∃ b, c.equal x z = .ok b ∧ (b = true ↔ ¬Breach c x y z) := by
  have words : PlainWords c := by
    rcases known with rfl | rfl
    · exact plainWords_standard
    · exact plainWords_withWords
  refine ⟨fun x valued short => equal_refl words x ⟨valued, short⟩, ?_, ?_⟩
  · intro x y valuedLeft shortLeft valuedRight shortRight
    have left : x.Tame := ⟨valuedLeft, shortLeft⟩
    have right : y.Tame := ⟨valuedRight, shortRight⟩
    obtain ⟨b, found⟩ := exists_equal words x left right
    exact ⟨b, found, equal_comm words right left ▸ found⟩
  · intro x y z valuedLeft shortLeft valuedCenter shortCenter valuedRight shortRight first second
    have left : x.Tame := ⟨valuedLeft, shortLeft⟩
    have right : z.Tame := ⟨valuedRight, shortRight⟩
    obtain ⟨b, found⟩ := exists_equal words x left right
    refine ⟨b, found, fun third breach => ?_, fun whole => ?_⟩
    · exact breach.equal_ne_true words (third ▸ found)
    · have third := (equal_or_breach words x left ⟨valuedCenter, shortCenter⟩ right first second)
      exact Except.ok.inj (found.symm.trans (third.resolve_right whole))

/-- A chain of lists, in which texts are compared in one place and numbers in the other. -/
theorem equal_equivalence_of_lists :
    withWords.equal (.list [.null, .list [.text "one"]])
        (.list [.text "None", .list [.number (.int 1)]]) = .ok true ∧
      withWords.equal (.list [.text "None", .list [.number (.int 1)]])
        (.list [.null, .list [.text "1.0"]]) = .ok true ∧
      withWords.equal (.list [.null, .list [.text "one"]]) (.list [.null, .list [.text "1.0"]]) =
        .ok true ∧
      ¬Breach withWords (.list [.null, .list [.text "one"]])
        (.list [.text "None", .list [.number (.int 1)]]) (.list [.null, .list [.text "1.0"]]) := by
  have first : withWords.equal (.list [.null, .list [.text "one"]])
      (.list [.text "None", .list [.number (.int 1)]]) = .ok true := by decide +kernel
  have second : withWords.equal (.list [.text "None", .list [.number (.int 1)]])
      (.list [.null, .list [.text "1.0"]]) = .ok true := by decide +kernel
  have third : withWords.equal (.list [.null, .list [.text "one"]])
      (.list [.null, .list [.text "1.0"]]) = .ok true := by decide +kernel
  obtain ⟨b, found, chain⟩ := (equal_equivalence (.inr rfl)).2.2
    (.list [.null, .list [.text "one"]]) (.list [.text "None", .list [.number (.int 1)]])
    (.list [.null, .list [.text "1.0"]]) rfl (by decide +kernel) rfl (by decide +kernel) rfl
    (by decide +kernel) first second
  exact ⟨first, second, third, chain.1 (Except.ok.inj (found.symm.trans third))⟩

/-- The infinite Real equals the text that reads as it and its own name, which do not equal
each other. -/
theorem equal_not_transitive :
    (Value.text "1e400").valued = true ∧ (Value.number (.real Double.infinity)).valued = true ∧
      (Value.text "inf").valued = true ∧
      standard.equal (.text "1e400") (.number (.real Double.infinity)) = .ok true ∧
      standard.equal (.number (.real Double.infinity)) (.text "inf") = .ok true ∧
      standard.equal (.text "1e400") (.text "inf") = .ok false := by
  decide +kernel

end Coercion

end NumericKernel

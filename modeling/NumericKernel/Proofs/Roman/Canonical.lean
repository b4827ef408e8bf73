import Mathlib.Algebra.GroupWithZero.Nat
import Mathlib.Data.List.Nodup
import NumericKernel.Operation

/-!
# Canonical Roman numerals

The symbols below a thousand come in three decimal places of four symbols each, and
what the writer takes of a place depends on one decimal digit only.  The reader prefers
a symbol of two letters, but behind a symbol of one letter no symbol of at most its
value begins with a letter that would make such a pair:

* `takenFor_place`: the symbols that a decimal digit takes;
* `readLetters_symbol`, `readLetters_descending`: symbols in descending order are read
  as the symbols they are;
* `ofRoman_toRoman`: every natural is read back from its numeral, which is canonical.
-/

namespace NumericKernel.Roman

/-! ## Decimal places -/

/-- The letters of a decimal place, for one, five and ten of its units. -/
structure Place where
  unit : Nat
  i : Char
  v : Char
  x : Char

namespace Place

/-- The symbol for nine units of a place. -/
def nine (p : Place) : Symbol := ⟨9 * p.unit, [p.i, p.x]⟩

/-- The symbol for five units of a place. -/
def five (p : Place) : Symbol := ⟨5 * p.unit, [p.v]⟩

/-- The symbol for four units of a place. -/
def four (p : Place) : Symbol := ⟨4 * p.unit, [p.i, p.v]⟩

/-- The symbol for one unit of a place. -/
def one (p : Place) : Symbol := ⟨p.unit, [p.i]⟩

/-- How often a decimal digit takes each symbol of its place. -/
def taken (p : Place) (digit : Nat) : List (Symbol × Nat) :=
  [(p.nine, digit / 9), (p.five, digit % 9 / 5), (p.four, digit % 9 % 5 / 4),
    (p.one, digit % 9 % 5 % 4)]

end Place

/-- The place of the hundreds. -/
def hundreds : Place := ⟨100, 'C', 'D', 'M'⟩

/-- The place of the tens. -/
def tens : Place := ⟨10, 'X', 'L', 'C'⟩

/-- The place of the units. -/
def units : Place := ⟨1, 'I', 'V', 'X'⟩

/-- The symbol for a thousand. -/
def thousand : Symbol := ⟨1000, ['M']⟩

/-- The table is a thousand and the four symbols of each place. -/
theorem symbols_eq : symbols =
    thousand :: hundreds.nine :: hundreds.five :: hundreds.four :: hundreds.one ::
      tens.nine :: tens.five :: tens.four :: tens.one ::
      units.nine :: units.five :: units.four :: units.one :: [] := rfl

/-- The four symbols of a place take what the digit of that place says, and leave the
lower places as they are. -/
theorem takenFor_place (p : Place) (rest : List Symbol) (n : Nat) :
    takenFor (p.nine :: p.five :: p.four :: p.one :: rest) n =
      p.taken (n / p.unit) ++ takenFor rest (n % p.unit) := by
  -- A remainder by a multiple of the unit keeps the lower places and reduces the digit.
  have digit (m k : Nat) : m % (k * p.unit) / p.unit = m / p.unit % k := by
    rw [Nat.mul_comm, Nat.mod_mul_right_div_self]
  have lower (m k : Nat) : m % (k * p.unit) % p.unit = m % p.unit := Nat.mod_mul_left_mod m k p.unit
  have count (m k : Nat) : m / (k * p.unit) = m / p.unit / k := by
    rw [Nat.mul_comm, Nat.div_div_eq_div_mul]
  simp only [takenFor, Place.nine, Place.five, Place.four, Place.one, Place.taken, count, digit,
    lower, List.cons_append, List.nil_append]

/-- What is taken of the table, decimal digit by decimal digit. -/
theorem takenFor_symbols (n : Nat) : takenFor symbols n =
    (thousand, n / 1000) :: (hundreds.taken (n / 100 % 10) ++
      (tens.taken (n / 10 % 10) ++ units.taken (n % 10))) := by
  have first : n % 1000 / 100 = n / 100 % 10 := by omega
  have second : n % 1000 % 100 / 10 = n / 10 % 10 := by omega
  have third : n % 1000 % 100 % 10 / 1 = n % 10 := by omega
  rw [symbols_eq, takenFor, takenFor_place, takenFor_place, takenFor_place]
  simp only [thousand, hundreds, tens, units, takenFor, List.append_nil, first, second, third]

/-! ## The symbols of a numeral -/

/-- Each symbol as often as it is taken. -/
def spread (counts : List (Symbol × Nat)) : List Symbol :=
  counts.flatMap fun (s, count) => List.replicate count s

/-- The symbols of the numeral of a natural, from the left. -/
def symbolsOf (n : Nat) : List Symbol := spread (takenFor symbols n)

theorem lettersOf_eq (n : Nat) : lettersOf n = (symbolsOf n).flatMap (·.letters) := by
  have each (s : Symbol) (count : Nat) :
      (List.replicate count s.letters).flatten = (List.replicate count s).flatMap (·.letters) := by
    rw [List.flatMap_def, List.map_replicate]
  rw [symbolsOf, spread, List.flatMap_assoc, lettersOf]
  exact congrArg (List.flatMap · _) (funext fun entry => each entry.1 entry.2)

theorem map_fst_takenFor (table : List Symbol) (n : Nat) :
    (takenFor table n).map Prod.fst = table := by
  induction table generalizing n with
  | nil => rfl
  | cons s rest ih => rw [takenFor, List.map_cons, ih]

theorem mem_of_mem_spread {counts : List (Symbol × Nat)} {s : Symbol} (member : s ∈ spread counts) :
    s ∈ counts.map Prod.fst := by
  obtain ⟨entry, within, copies⟩ := List.mem_flatMap.1 member
  rw [List.eq_of_mem_replicate copies]
  exact List.mem_map_of_mem within

theorem mem_symbols_of_mem {s : Symbol} {n : Nat} (member : s ∈ symbolsOf n) : s ∈ symbols := by
  rw [← map_fst_takenFor symbols n]
  exact mem_of_mem_spread member

/-- Taken symbols stand in the order of the table. -/
theorem spread_pairwise {relation : Symbol → Symbol → Prop} (reflexive : ∀ s, relation s s)
    {counts : List (Symbol × Nat)} (ordered : (counts.map Prod.fst).Pairwise relation) :
    (spread counts).Pairwise relation := by
  refine List.pairwise_flatMap.2 ⟨fun entry _ => ?_, ?_⟩
  · exact List.pairwise_replicate.2 (.inr (reflexive entry.1))
  · refine (List.pairwise_map.1 ordered).imp fun before s copy t later => ?_
    rw [List.eq_of_mem_replicate copy, List.eq_of_mem_replicate later]
    exact before

theorem symbolsOf_descending (n : Nat) :
    (symbolsOf n).Pairwise fun s t => t.value ≤ s.value := by
  refine spread_pairwise (fun s => Nat.le_refl s.value) ?_
  rw [map_fst_takenFor]
  decide

/-- A symbol with one entry among the counts is taken as often as that entry says. -/
theorem count_spread {counts : List (Symbol × Nat)} (distinct : (counts.map Prod.fst).Nodup)
    {s : Symbol} {count : Nat} (member : (s, count) ∈ counts) : (spread counts).count s = count := by
  induction counts with
  | nil => exact absurd member List.not_mem_nil
  | cons entry rest ih =>
    obtain ⟨absent, restDistinct⟩ := List.nodup_cons.1 distinct
    rw [spread, List.flatMap_cons, List.count_append, List.count_replicate]
    rcases List.mem_cons.1 member with rfl | later
    · have none : (spread rest).count s = 0 :=
        List.count_eq_zero.2 fun inRest => absent (mem_of_mem_spread inRest)
      rw [if_pos (beq_self_eq_true s)]
      exact congrArg (count + ·) none
    · have other : entry.1 ≠ s := by
        rintro rfl
        exact absent (List.mem_map.2 ⟨_, later, rfl⟩)
      rw [if_neg (by simpa using other), Nat.zero_add]
      exact ih restDistinct later

theorem count_symbolsOf {s : Symbol} {count n : Nat} (member : (s, count) ∈ takenFor symbols n) :
    (symbolsOf n).count s = count := by
  refine count_spread ?_ member
  rw [map_fst_takenFor]
  decide

/-! ## Values -/

/-- Nothing is taken for zero. -/
theorem sum_spread_takenFor_zero (table : List Symbol) :
    ((spread (takenFor table 0)).map (·.value)).sum = 0 := by
  induction table with
  | nil => rfl
  | cons s rest ih =>
    rw [takenFor, Nat.zero_div, Nat.zero_mod, spread, List.flatMap_cons]
    exact ih

/-- Where a table has a symbol for one, the symbols taken for a natural add up to it. -/
theorem sum_spread_takenFor {table : List Symbol} (one : ∃ s ∈ table, s.value = 1) (n : Nat) :
    ((spread (takenFor table n)).map (·.value)).sum = n := by
  induction table generalizing n with
  | nil => exact absurd one (by simp)
  | cons s rest ih =>
    have later : ((spread (takenFor rest (n % s.value))).map (·.value)).sum = n % s.value := by
      obtain ⟨t, member, isOne⟩ := one
      rcases List.mem_cons.1 member with rfl | inRest
      · rw [isOne, Nat.mod_one]
        exact sum_spread_takenFor_zero rest
      · exact ih ⟨t, inRest, isOne⟩ (n % s.value)
    rw [takenFor, spread, List.flatMap_cons, List.map_append, List.sum_append_nat,
      List.map_replicate, List.sum_replicate_nat]
    rw [spread] at later
    rw [later, Nat.mul_comm]
    exact Nat.div_add_mod n s.value

theorem sum_symbolsOf (n : Nat) : ((symbolsOf n).map (·.value)).sum = n :=
  sum_spread_takenFor ⟨units.one, by decide, rfl⟩ n

/-! ## Reading symbols -/

theorem value?_letters : ∀ s ∈ symbols, value? s.letters = some s.value := by decide

theorem length_letters : ∀ s ∈ symbols, s.letters.length = 1 ∨ s.letters.length = 2 := by decide

/-- The first letter of a symbol makes no pair with a symbol of one letter before it whose
value is not less. -/
theorem value?_boundary : ∀ s ∈ symbols, ∀ t ∈ symbols, t.value ≤ s.value →
    s.letters.length = 1 → value? (s.letters ++ t.letters.take 1) = none := by decide

/-- A symbol at the front is read as itself, unless it has one letter and makes a pair
with the letter after it. -/
theorem readLetters_symbol {s : Symbol} (member : s ∈ symbols) {rest : List Char}
    (boundary : s.letters.length = 1 → rest ≠ [] → value? (s.letters ++ rest.take 1) = none) :
    readLetters (s.letters ++ rest) = (do return s.value + (← readLetters rest)) := by
  have known := value?_letters s member
  rcases length_letters s member with single | double
  · obtain ⟨c, letters⟩ := List.length_eq_one_iff.1 single
    rw [letters] at known boundary ⊢
    cases rest with
    | nil =>
      rw [List.append_nil, readLetters, readLetters, known]
      rfl
    | cons d more =>
      have noPair : value? [c, d] = none := boundary rfl (List.cons_ne_nil d more)
      rw [List.cons_append, List.nil_append, readLetters, noPair, known]
  · obtain ⟨c, d, letters⟩ := List.length_eq_two.1 double
    rw [letters] at known ⊢
    rw [List.cons_append, List.cons_append, List.nil_append, readLetters, known]

/-- Symbols in descending order are read as the sum of their values. -/
theorem readLetters_descending {taken : List Symbol} (inTable : ∀ s ∈ taken, s ∈ symbols)
    (descending : taken.Pairwise fun s t => t.value ≤ s.value) :
    readLetters (taken.flatMap (·.letters)) = .ok (taken.map (·.value)).sum := by
  induction taken with
  | nil => rfl
  | cons s rest ih =>
    obtain ⟨greatest, restDescending⟩ := List.pairwise_cons.1 descending
    have member := inTable s List.mem_cons_self
    have later := ih (fun t inRest => inTable t (List.mem_cons_of_mem s inRest)) restDescending
    rw [List.flatMap_cons, readLetters_symbol member, later]
    · rfl
    · intro single notNil
      cases rest with
      | nil => exact absurd rfl notNil
      | cons t more =>
        have tMember := inTable t (List.mem_cons_of_mem s List.mem_cons_self)
        have noPair := value?_boundary s member t tMember (greatest t List.mem_cons_self) single
        have first : ((t :: more).flatMap (·.letters)).take 1 = t.letters.take 1 := by
          have notEmpty : 1 ≤ t.letters.length := by
            rcases length_letters t tMember with one | two <;> omega
          exact List.take_append_of_le_length notEmpty
        rw [first]
        exact noPair

/-! ## Canonical numerals -/

/-- The symbols of a place in a canonical numeral: a pair stands alone in its place, and
only the symbol of one unit is repeated, three times at most. -/
structure Place.Canonical (p : Place) (taken : List Symbol) : Prop where
  nine_le : taken.count p.nine ≤ 1
  five_le : taken.count p.five ≤ 1
  four_le : taken.count p.four ≤ 1
  one_le : taken.count p.one ≤ 3
  nine_alone : p.nine ∈ taken → p.five ∉ taken ∧ p.four ∉ taken ∧ p.one ∉ taken
  four_alone : p.four ∈ taken → p.nine ∉ taken ∧ p.five ∉ taken ∧ p.one ∉ taken

/-- The symbols of a canonical numeral of a natural: symbols of the table in its order,
the thousands first and the decimal places after them. -/
structure Canonical (n : Nat) (taken : List Symbol) : Prop where
  inTable : ∀ s ∈ taken, s ∈ symbols
  ordered : taken.Pairwise fun s t => t.value ≤ s.value
  thousands : taken.count thousand = n / 1000
  places : ∀ p ∈ [hundreds, tens, units], p.Canonical taken

/-- Symbols taken as often as a decimal digit says are canonical. -/
theorem Place.canonical_of_taken {p : Place} {digit : Nat} (small : digit < 10)
    {taken : List Symbol} (counts : ∀ entry ∈ p.taken digit, taken.count entry.1 = entry.2) :
    p.Canonical taken := by
  simp only [Place.taken, List.forall_mem_cons] at counts
  obtain ⟨nine, five, four, one, _⟩ := counts
  have mem (s : Symbol) : s ∈ taken ↔ taken.count s ≠ 0 := by
    rw [ne_eq, List.count_eq_zero, not_not]
  constructor
  · omega
  · omega
  · omega
  · omega
  · simp only [mem, nine, five, four, one]
    omega
  · simp only [mem, nine, five, four, one]
    omega

/-- The symbols of a numeral are canonical. -/
theorem symbolsOf_canonical (n : Nat) : Canonical n (symbolsOf n) where
  inTable := fun _ member => mem_symbols_of_mem member
  ordered := symbolsOf_descending n
  thousands := count_symbolsOf (by rw [takenFor_symbols]; exact List.mem_cons_self)
  places := by
    intro p member
    have digit : ∀ entry ∈ p.taken (n / p.unit % 10), entry ∈ takenFor symbols n := by
      intro entry inPlace
      rw [takenFor_symbols]
      simp only [List.mem_cons, List.mem_append, List.not_mem_nil, or_false] at member ⊢
      rcases member with rfl | rfl | rfl
      · exact .inr (.inl inPlace)
      · exact .inr (.inr (.inl inPlace))
      · rw [units, Nat.div_one] at inPlace
        exact .inr (.inr (.inr inPlace))
    exact Place.canonical_of_taken (Nat.mod_lt _ (by decide)) fun entry inPlace =>
      count_symbolsOf (digit entry inPlace)

/-- Every natural is read back from its numeral, which spells canonical symbols. -/
theorem ofRoman_toRoman (n : Nat) : ∃ (s : String) (taken : List Symbol),
    Operation.toRoman (n : Int) = .ok s ∧ Operation.ofRoman (.text s) = .ok n ∧
    s.toList = taken.flatMap (·.letters) ∧ Canonical n taken := by
  refine ⟨String.ofList (lettersOf n), symbolsOf n, ?_, ?_, ?_, symbolsOf_canonical n⟩
  · have written : write (n : Int) = .ok (String.ofList (lettersOf n)) :=
      if_neg (Int.not_lt.2 (Int.natCast_nonneg n))
    exact written
  · have readBack := readLetters_descending (fun _ => mem_symbols_of_mem) (symbolsOf_descending n)
    rw [sum_symbolsOf, ← lettersOf_eq] at readBack
    change readLetters (String.ofList (lettersOf n)).toList = _
    rw [String.toList_ofList]
    exact readBack
  · rw [String.toList_ofList, lettersOf_eq]

end NumericKernel.Roman

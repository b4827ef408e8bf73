import Mathlib.Algebra.BigOperators.Fin
import NumericKernel.Proofs.Roman.Canonical

/-!
# Reading Roman letters

The reader takes letters in any order, so it reads far more than the numerals that the
writer gives.  Every letter is itself a symbol, which leaves a character outside the seven
as the only obstacle, and a pair of letters counts for the second less the first: what is
read is the sum of the letters, less twice the first letter of every pair that a scan from
the left meets.

* `Rounds`: the reading in rounds, each of which takes the longest symbol at the front;
  `rounds_iff`: they end with what the reader gives;
* `Rounds.error`, `Rounds.ok`: the two outcomes;
* `ofRoman_letters`: the call on any text.
-/

namespace NumericKernel.Roman

/-! ## Letters and pairs -/

/-- The seven letters. -/
def letters : List Char := ['I', 'V', 'X', 'L', 'C', 'D', 'M']

/-- The value of a letter, and zero for every other character. -/
def letterValue : Char → Nat
  | 'I' => 1
  | 'V' => 5
  | 'X' => 10
  | 'L' => 50
  | 'C' => 100
  | 'D' => 500
  | 'M' => 1000
  | _ => 0

/-- The symbols of two letters. -/
def pairs : List (List Char) :=
  [['C', 'M'], ['C', 'D'], ['X', 'C'], ['X', 'L'], ['I', 'X'], ['I', 'V']]

/-- Whether a scan from the left, in which no two pairs share a letter, finds a pair at a
position. -/
def beginsPair (cs : List Char) : Nat → Bool
  | 0 => cs.take 2 ∈ pairs
  | i + 1 => (cs.drop (i + 1)).take 2 ∈ pairs && !beginsPair cs i

/-- The sum of the letters. -/
def lettersSum (cs : List Char) : Nat := (cs.map letterValue).sum

/-- The sum of the first letters of the pairs that the scan finds. -/
def pairsSum (cs : List Char) : Nat :=
  ∑ i : Fin cs.length, if beginsPair cs i then letterValue cs[i] else 0

/-! ## The scan for pairs -/

section Pairs

variable {cs : List Char} {c d : Char}

/-- Behind a letter at which no pair begins the scan starts anew. -/
theorem beginsPair_drop {k : Nat} (free : beginsPair cs k = false) (i : Nat) :
    beginsPair cs (k + 1 + i) = beginsPair (cs.drop (k + 1)) i := by
  induction i with
  | zero => simp [beginsPair, free]
  | succ i ih => rw [← Nat.add_assoc, beginsPair, beginsPair, ih, List.drop_drop, Nat.add_assoc]

/-- A letter that begins no pair adds nothing to the sum over the pairs. -/
theorem pairsSum_of_not_pair (free : (c :: cs).take 2 ∉ pairs) :
    pairsSum (c :: cs) = pairsSum cs := by
  have first : beginsPair (c :: cs) 0 = false := decide_eq_false free
  have later (i : Nat) : beginsPair (c :: cs) (i + 1) = beginsPair cs i := by
    rw [Nat.add_comm, ← Nat.zero_add 1, beginsPair_drop first, List.drop_one, List.tail_cons]
  rw [pairsSum, pairsSum]
  refine (Fin.sum_univ_succ _).trans ?_
  simp [first, later]

/-- A pair adds its first letter to the sum over the pairs. -/
theorem pairsSum_of_pair (pair : [c, d] ∈ pairs) :
    pairsSum (c :: d :: cs) = letterValue c + pairsSum cs := by
  have first : beginsPair (c :: d :: cs) 0 = true := by simp [beginsPair, pair]
  have second : beginsPair (c :: d :: cs) 1 = false := by simp [beginsPair, pair]
  have later (i : Nat) : beginsPair (c :: d :: cs) (i + 1 + 1) = beginsPair cs i := by
    rw [Nat.add_assoc, Nat.add_comm, beginsPair_drop second]
    rfl
  rw [pairsSum, pairsSum]
  refine (Fin.sum_univ_succ _).trans ?_
  refine (congrArg (_ + ·) (Fin.sum_univ_succ _)).trans ?_
  simp [first, second, later]

end Pairs

/-! ## The symbols -/

/-- A symbol is a letter, or a pair of letters that counts for the difference. -/
theorem symbol_cases : ∀ s ∈ symbols,
    (∃ c ∈ letters, s.letters = [c] ∧ s.value = letterValue c) ∨
      ∃ c ∈ letters, ∃ d ∈ letters, s.letters = [c, d] ∧ [c, d] ∈ pairs ∧
        s.value + letterValue c = letterValue d := by
  simp [symbols, letters, pairs, letterValue]

theorem letters_of_mem_symbols : ∀ s ∈ symbols, ∀ c ∈ s.letters, c ∈ letters := by
  simp [symbols, letters]

theorem letter_mem_symbols : ∀ c ∈ letters, ⟨letterValue c, [c]⟩ ∈ symbols := by
  simp [symbols, letters, letterValue]

theorem length_of_mem_pairs : ∀ p ∈ pairs, p.length = 2 := by simp [pairs]

theorem pair_mem_symbols : ∀ p ∈ pairs, ∃ s ∈ symbols, s.letters = p := by simp [pairs, symbols]

theorem mem_symbols_of_value? {spelling : List Char} {v : Nat} (known : value? spelling = some v) :
    ⟨v, spelling⟩ ∈ symbols := by
  obtain ⟨s, found, rfl⟩ := Option.map_eq_some_iff.1 known
  have same := List.find?_some (p := fun t : Symbol => t.letters == spelling) found
  rw [← beq_iff_eq.1 same]
  exact List.mem_of_find?_eq_some found

/-! ## Rounds of reading -/

/-- The reading of a text in rounds, from a sum so far to an outcome.  A round takes the longest
symbol that the rest of the text starts with. -/
inductive Rounds : List Char → Nat → Except Fault Nat → Prop
  | done {total : Nat} : Rounds [] total (.ok total)
  | stuck {rest : List Char} {total : Nat} (left : rest ≠ [])
    (foreign : ∀ s ∈ symbols, ¬ s.letters <+: rest) :
    Rounds rest total (.error (.unknownRoman (String.ofList rest)))
  | take {s : Symbol} {rest : List Char} {total : Nat} {outcome : Except Fault Nat}
    (symbol : s ∈ symbols)
    (longest : ∀ t ∈ symbols, t.letters <+: s.letters ++ rest → t.letters.length ≤ s.letters.length)
    (more : Rounds rest (total + s.value) outcome) : Rounds (s.letters ++ rest) total outcome

variable {cs : List Char} {total v : Nat} {outcome : Except Fault Nat} {fault : Fault}

/-- Where a symbol stands at the front, one of the longest does. -/
theorem exists_longest (front : ∃ s ∈ symbols, s.letters <+: cs) :
    ∃ s ∈ symbols, s.letters <+: cs ∧
      ∀ t ∈ symbols, t.letters <+: cs → t.letters.length ≤ s.letters.length := by
  by_cases double : ∃ s ∈ symbols, s.letters <+: cs ∧ s.letters.length = 2
  · obtain ⟨s, symbol, atFront, length⟩ := double
    refine ⟨s, symbol, atFront, fun t other _ => ?_⟩
    have := length_letters t other
    omega
  · obtain ⟨s, symbol, atFront⟩ := front
    refine ⟨s, symbol, atFront, fun t other first => ?_⟩
    have single : t.letters.length ≠ 2 := fun length => double ⟨t, other, first, length⟩
    have := length_letters t other
    have := length_letters s symbol
    omega

/-- Every text is read to an end. -/
theorem exists_rounds (cs : List Char) (total : Nat) : ∃ outcome, Rounds cs total outcome := by
  by_cases left : cs = []
  · exact ⟨.ok total, left ▸ .done⟩
  · by_cases front : ∃ s ∈ symbols, s.letters <+: cs
    · obtain ⟨s, symbol, ⟨rest, spelled⟩, longest⟩ := exists_longest front
      have shorter : rest.length < cs.length := by
        have := length_letters s symbol
        rw [← spelled, List.length_append]
        omega
      obtain ⟨outcome, more⟩ := exists_rounds rest (total + s.value)
      subst spelled
      exact ⟨outcome, .take symbol longest more⟩
    · exact ⟨_, .stuck left (by simpa using front)⟩
termination_by cs.length

/-- Where no symbol begins, reading ends with the rest. -/
theorem readLetters_of_stuck (left : cs ≠ []) (foreign : ∀ s ∈ symbols, ¬ s.letters <+: cs) :
    readLetters cs = .error (.unknownRoman (String.ofList cs)) := by
  have unknown {spelling : List Char} (front : spelling <+: cs) : value? spelling = none :=
    Option.eq_none_iff_forall_ne_some.2 fun _ known =>
      foreign _ (mem_symbols_of_value? known) front
  match cs with
  | [] => exact absurd rfl left
  | [c] =>
    rw [readLetters, unknown (List.prefix_refl [c])]
    rfl
  | c :: d :: rest => rw [readLetters, unknown ⟨rest, rfl⟩, unknown ⟨d :: rest, rfl⟩]

/-- The rounds of reading end with what the reader gives. -/
theorem Rounds.eq_readLetters (rounds : Rounds cs total outcome) :
    outcome = (readLetters cs).map (total + ·) := by
  induction rounds with
  | done => rfl
  | stuck left foreign => rw [readLetters_of_stuck left foreign, Except.map]
  | @take s rest total outcome symbol longest more ih =>
    -- a letter of which a longer symbol begins would not have been the longest
    have boundary (single : s.letters.length = 1) (left : rest ≠ []) :
        value? (s.letters ++ rest.take 1) = none := by
      refine Option.eq_none_iff_forall_ne_some.2 fun v known => ?_
      have front : s.letters ++ rest.take 1 <+: s.letters ++ rest :=
        (List.prefix_append_right_inj _).2 (List.take_prefix 1 rest)
      have bound := longest _ (mem_symbols_of_value? known) front
      have := List.length_pos_iff.2 left
      rw [List.length_append, List.length_take] at bound
      omega
    rw [ih, readLetters_symbol symbol boundary]
    cases readLetters rest with
    | error fault => rfl
    | ok v => exact congrArg Except.ok (Nat.add_assoc total s.value v)

/-- The rounds have one outcome, the one that the reader gives. -/
theorem rounds_iff (cs : List Char) (outcome : Except Fault Nat) :
    Rounds cs 0 outcome ↔ readLetters cs = outcome := by
  have start : (readLetters cs).map (0 + ·) = readLetters cs := by
    cases readLetters cs <;> simp [Except.map]
  obtain ⟨reached, rounds⟩ := exists_rounds cs 0
  have same := rounds.eq_readLetters.trans start
  refine ⟨fun rounds => (rounds.eq_readLetters.trans start).symm, fun reads => ?_⟩
  rwa [← reads, ← same]

/-! ## The outcomes -/

/-- The text that is left at a fault starts with the first character that is no letter. -/
theorem Rounds.error (rounds : Rounds cs total (.error fault)) :
    ∃ before c after, cs = before ++ c :: after ∧ (∀ d ∈ before, d ∈ letters) ∧ c ∉ letters ∧
      fault = .unknownRoman (String.ofList (c :: after)) := by
  generalize ending : Except.error fault = outcome at rounds
  induction rounds with
  | done => cases ending
  | @stuck rest total left foreign =>
    obtain ⟨c, after, rfl⟩ := List.exists_cons_of_ne_nil left
    refine ⟨[], c, after, rfl, by simp, fun letter => ?_, Except.error.inj ending⟩
    exact foreign _ (letter_mem_symbols c letter) ⟨after, rfl⟩
  | @take s rest total outcome symbol longest more ih =>
    obtain ⟨before, c, after, rfl, known, foreign, rfl⟩ := ih ending
    refine ⟨s.letters ++ before, c, after, (List.append_assoc ..).symm, fun d member => ?_,
      foreign, rfl⟩
    rcases List.mem_append.1 member with inSymbol | earlier
    · exact letters_of_mem_symbols s symbol d inSymbol
    · exact known d earlier

/-- Letters without a foreign one are read, as their sum less the pairs counted twice. -/
theorem Rounds.ok (rounds : Rounds cs total (.ok v)) :
    (∀ c ∈ cs, c ∈ letters) ∧ v + 2 * pairsSum cs = total + lettersSum cs := by
  generalize ending : Except.ok v = outcome at rounds
  induction rounds with
  | done =>
    cases ending
    exact ⟨by simp, rfl⟩
  | stuck => cases ending
  | @take s rest total outcome symbol longest more ih =>
    obtain ⟨known, sum⟩ := ih ending
    refine ⟨fun c member => ?_, ?_⟩
    · rcases List.mem_append.1 member with inSymbol | later
      · exact letters_of_mem_symbols s symbol c inSymbol
      · exact known c later
    · rcases symbol_cases s symbol with ⟨c, -, spelled, value⟩ | ⟨c, -, d, -, spelled, pair, value⟩
      · have free : (c :: rest).take 2 ∉ pairs := by
          intro pair
          obtain ⟨t, other, same⟩ := pair_mem_symbols _ pair
          have bound := longest t other (by rw [spelled, same]; exact List.take_prefix 2 _)
          rw [same, length_of_mem_pairs _ pair, spelled] at bound
          simp at bound
        rw [spelled, List.singleton_append, pairsSum_of_not_pair free]
        simp only [lettersSum, List.map_cons, List.sum_cons] at sum ⊢
        omega
      · rw [spelled, List.cons_append, List.singleton_append, pairsSum_of_pair pair]
        simp only [lettersSum, List.map_cons, List.sum_cons] at sum ⊢
        omega

/-! ## The call -/

/-- Two first characters that are no letters, behind letters alone, are the same one. -/
theorem first_foreign_unique {before before' after after' : List Char} {c c' : Char}
    (known : ∀ d ∈ before, d ∈ letters) (foreign : c ∉ letters)
    (known' : ∀ d ∈ before', d ∈ letters) (foreign' : c' ∉ letters)
    (same : before ++ c :: after = before' ++ c' :: after') : c :: after = c' :: after' := by
  have rest {before after : List Char} {c : Char} (known : ∀ d ∈ before, d ∈ letters)
      (foreign : c ∉ letters) : (before ++ c :: after).dropWhile (· ∈ letters) = c :: after := by
    rw [List.dropWhile_append_of_pos (by simpa using known)]
    exact List.dropWhile_cons_of_neg (by simpa using foreign)
  rw [← rest known foreign, same, rest known' foreign']

/-- Reading a text in rounds ends.  It fails exactly for a text with a character that is no
letter, and reports the text from the first such character on.  Otherwise the letters add up,
less twice the first letters of the pairs that a scan from the left finds. -/
theorem ofRoman_letters (s : String) :
    (∀ outcome, Rounds s.toList 0 outcome ↔ Operation.ofRoman (.text s) = outcome) ∧
    (∀ fault, Operation.ofRoman (.text s) = .error fault ↔
      ∃ before c after, s.toList = before ++ c :: after ∧ (∀ d ∈ before, d ∈ letters) ∧
        c ∉ letters ∧ fault = .unknownRoman (String.ofList (c :: after)) ∧
        fault.kind = .symbolNotFound) ∧
    (∀ v : Nat, Operation.ofRoman (.text s) = .ok v ↔
      (∀ c ∈ s.toList, c ∈ letters) ∧ (v : Int) = lettersSum s.toList - 2 * pairsSum s.toList) := by
  have call (outcome : Except Fault Nat) :
      Rounds s.toList 0 outcome ↔ Operation.ofRoman (.text s) = outcome :=
    rounds_iff s.toList outcome
  refine ⟨call, fun fault => ⟨fun reads => ?_, fun split => ?_⟩,
    fun v => ⟨fun reads => ?_, fun sum => ?_⟩⟩
  · obtain ⟨before, c, after, spelled, known, foreign, rfl⟩ := ((call _).2 reads).error
    exact ⟨before, c, after, spelled, known, foreign, rfl, rfl⟩
  · obtain ⟨before, c, after, spelled, known, foreign, rfl, -⟩ := split
    cases reads : Operation.ofRoman (.text s) with
    | ok v =>
      have all := ((call _).2 reads).ok.1
      exact absurd (all c (by simp [spelled])) foreign
    | error fault =>
      obtain ⟨before', c', after', spelled', known', foreign', rfl⟩ := ((call _).2 reads).error
      rw [first_foreign_unique known foreign known' foreign' (spelled.symm.trans spelled')]
  · obtain ⟨known, sum⟩ := ((call _).2 reads).ok
    exact ⟨known, by omega⟩
  · obtain ⟨known, sum⟩ := sum
    cases reads : Operation.ofRoman (.text s) with
    | ok w =>
      have sum' := ((call _).2 reads).ok.2
      rw [show w = v by omega]
    | error fault =>
      obtain ⟨before, c, after, spelled, -, foreign, -⟩ := ((call _).2 reads).error
      exact absurd (known c (by simp [spelled])) foreign

/-- The scan finds the pair of I and X, so there is none of X and C. -/
example : readLetters ['I', 'X', 'C'] = .ok 109 := rfl

end NumericKernel.Roman

import NumericKernel.Proofs.ContinuedFraction.Digits
import NumericKernel.Proofs.ContinuedFraction.Sequence

/-!
# Degenerate convergents

Terms of any sign can give a convergent the denominator zero.  A search looks at the two
convergents that it holds before it divides, and takes in one more at a time, so it stops at
the first degenerate one and no division sees a zero.

* `nextDigit_judged`: the search for a digit, from convergents of which the older ones are
  proper;
* `entry_judged`: the sequence of digits;
* `take_degenerate`: the runs of a stream.
-/

namespace NumericKernel.ContinuedFraction

/-- No convergent before the index is degenerate. -/
def Proper (f : ContinuedFraction) (k : Nat) : Prop := ∀ j, j < k → f.denominator j ≠ 0

/-- The indices of the degenerate convergents. -/
def degenerate (f : ContinuedFraction) : Set Nat := {j | 1 ≤ j ∧ f.denominator j = 0}

/-- The faults that can end the digits: the first degenerate convergent, or a term beyond the
limit with nothing degenerate before it. -/
inductive Halted (f : ContinuedFraction) : Fault → Prop
  | degenerate {k : Nat} (least : IsLeast f.degenerate k) : Halted f (.degenerateConvergent k)
  | exhausted {k : Nat} (beyond : f.limit < k) (proper : Proper f k) :
    Halted f (.termLimit k f.limit)

/-- What a search answers after `n` digits: a digit, from a state whose convergents and all
before them are proper, or a fault. -/
inductive Judged (f : ContinuedFraction) (r : Int) (n : Nat) : Except Fault (Int × State) → Prop
  | digit {d whole : Int} {held : Nat} (proper : Proper f (held + 2)) :
    Judged f r n (.ok (d, f.tracked r (n + 1) whole held))
  | halted {fault : Fault} (halted : Halted f fault) : Judged f r n (.error fault)

variable {f : ContinuedFraction} {r : Int} {n m k count : Nat} {worth : Int} {fault : Fault}

/-! ## Proper convergents -/

namespace Proper

theorem of_le_one (small : k ≤ 1) : Proper f k := by
  intro j before
  obtain rfl : j = 0 := by omega
  exact Int.one_ne_zero

theorem succ (proper : Proper f k) (nonzero : f.denominator k ≠ 0) : Proper f (k + 1) := by
  intro j before
  rcases Nat.eq_or_lt_of_le (Nat.le_of_lt_succ before) with rfl | earlier
  · exact nonzero
  · exact proper j earlier

theorem of_succ (proper : Proper f (k + 1)) : Proper f k :=
  fun j before => proper j (Nat.lt_succ_of_lt before)

/-- The degenerate convergents come after the proper ones. -/
theorem le (proper : Proper f m) (zero : f.denominator k = 0) : m ≤ k :=
  Nat.le_of_not_lt fun before => proper k before zero

/-- The first convergent behind proper ones that is not proper is the first degenerate one. -/
theorem isLeast (proper : Proper f (k + 1)) (zero : f.denominator (k + 1) = 0) :
    IsLeast f.degenerate (k + 1) :=
  ⟨⟨k.succ_pos, zero⟩, fun _ member => proper.le member.2⟩

end Proper

/-! ## The search for a digit -/

/-- Each round has the newer convergent to look at; the older one has been looked at before. -/
theorem nextDigit_judged (radix : f.radix = .int r) {m : Nat} (proper : Proper f (m + 1)) :
    Judged f r n (f.nextDigit (f.tracked r n worth m)) := by
  by_cases newer : f.denominator (m + 1) = 0
  · rw [nextDigit_of_degenerate (.inr newer)]
    exact .halted (.degenerate (proper.isLeast newer))
  have further : Proper f (m + 2) := proper.succ newer
  rcases degenerate_or_settled_or_undecided f (r ^ n) m with zero | ⟨whole, settled⟩ | undecided
  · exact absurd zero (not_or_intro (proper m m.lt_succ_self) newer)
  · rw [nextDigit_of_settled radix settled]
    exact .digit further
  · by_cases available : (m + 2 : Nat) ≤ f.limit
    · rw [undecided.nextDigit_of_le available]
      exact nextDigit_judged radix further
    · rw [undecided.nextDigit_of_lt (Int.not_le.1 available)]
      exact .halted (.exhausted (Int.not_le.1 available) further)
termination_by (f.limit - m).toNat
decreasing_by omega

/-- Every entry of the sequence holds proper convergents, or the sequence has halted. -/
theorem entry_judged (radix : f.radix = .int r) (n : Nat) : Judged f r n (f.entry n) := by
  induction n with
  | zero =>
    rw [entry]
    by_cases available : 1 ≤ f.limit
    · rw [initial_eq_tracked r available]
      exact nextDigit_judged radix (.of_le_one (Nat.le_refl 1))
    · obtain ⟨k, small, beyond, missing⟩ := initial_eq_error available
      rw [missing]
      exact .halted (.exhausted beyond (.of_le_one small))
  | succ n ih =>
    rw [entry]
    generalize f.entry n = before at ih
    cases ih with
    | digit proper => exact nextDigit_judged radix proper.of_succ
    | halted halted => exact .halted halted

/-- A digit comes from a state before every degenerate convergent. -/
theorem lt_of_entry {d : Int} {s : State} (radix : f.radix = .int r)
    (found : f.entry n = .ok (d, s)) (zero : f.denominator k = 0) : s.k < k := by
  have judged := entry_judged radix n
  rw [found] at judged
  cases judged with
  | digit proper => exact proper.le zero

theorem halted_of_ends (radix : f.radix = .int r) (ends : Ends f m fault) : Halted f fault := by
  have judged := entry_judged radix m
  rw [digitAt_eq_error_iff.1 ends.digitAt_eq] at judged
  cases judged with
  | halted halted => exact halted

/-! ## Faults -/

namespace Halted

/-- A division by zero is that of the first degenerate convergent. -/
theorem degenerate_of_kind (halted : Halted f fault) (kind : fault.kind = .divisionByZero) :
    ∃ k, IsLeast f.degenerate k ∧ fault = .degenerateConvergent k := by
  cases halted with
  | degenerate least => exact ⟨_, least, rfl⟩
  | exhausted beyond proper => nomatch kind

/-- The terms do not run out before a degenerate convergent within the limit. -/
theorem degenerate_of_le (halted : Halted f fault) (zero : f.denominator k = 0)
    (within : k ≤ f.limit) : ∃ k, IsLeast f.degenerate k ∧ fault = .degenerateConvergent k := by
  cases halted with
  | degenerate least => exact ⟨_, least, rfl⟩
  | exhausted beyond proper =>
    have before := proper.le zero
    omega

end Halted

/-! ## Runs -/

section Runs

variable {ds : List Int} {ending : Option Ending} {last : Stream}

/-- A run that ends does so with the fault that ends the digits. -/
theorem exists_ends_of_take {e : Ending} (run : Stream.fresh.take f count = (ds, some e, last)) :
    ∃ m fault, Ends f m fault ∧ e = .fault fault := by
  obtain ⟨_, _, taken, portion⟩ := take_standing f 0 count
  cases run.symm.trans taken
  have some : ¬∀ i, i < 0 + count → ∃ d, f.digitAt i = .ok d :=
    fun all => nomatch portion.whole.2 (.inr all)
  obtain ⟨i, rest⟩ := not_forall.1 some
  obtain ⟨before, none⟩ := Classical.not_imp.1 rest
  cases answer : f.digitAt i with
  | ok d => exact absurd ⟨d, answer⟩ none
  | error fault =>
    obtain ⟨m, le, ends⟩ := exists_ends answer
    have same := portion.fault m fault ends m.zero_le (Nat.lt_of_le_of_lt le before)
    exact ⟨m, fault, ends, Option.some.inj same⟩

/-- With each digit a run leaves the stream in the state that gave the digit. -/
theorem exists_entry_of_take (run : Stream.fresh.take f count = (ds, ending, last))
    (position : n < ds.length) : ∃ d s, f.entry n = .ok (d, s) ∧
      Stream.fresh.take f (n + 1) = (ds.take (n + 1), none, .running s) := by
  obtain ⟨mid, shorter⟩ := take_prefix run position
  obtain ⟨_, _, taken, portion⟩ := take_standing f 0 (n + 1)
  cases shorter.symm.trans taken
  rcases portion.whole.1 rfl with none | all
  · exact absurd none n.succ_ne_zero
  · obtain ⟨d, found⟩ := all n (by omega)
    obtain ⟨s, found⟩ := digitAt_eq_ok_iff.1 found
    refine ⟨d, s, found, ?_⟩
    rw [shorter, Nat.zero_add, standing_succ_of_ok found]

/-- For terms of any sign, a run that is stopped by a division by zero is stopped at the first
degenerate convergent, and says so.  No digit is given from a state that has come to a
degenerate convergent, and a run with such a convergent within the limit ends nowhere else. -/
theorem take_degenerate {f : ContinuedFraction} {r : Int} (radix : f.radix = .int r)
    {count : Nat} {ds : List Int} {ending : Option Ending} {last : Stream}
    (run : Stream.fresh.take f count = (ds, ending, last)) :
    (∀ fault, ending = some (.fault fault) → fault.kind = .divisionByZero →
      ∃ k, IsLeast f.degenerate k ∧ fault = .degenerateConvergent k ∧
        fault.message = s!"Degenerate continued fraction convergent at term {k}") ∧
    ∀ k, f.denominator k = 0 →
      (∀ n, n < ds.length → ∃ s : State,
        Stream.fresh.take f (n + 1) = (ds.take (n + 1), none, .running s) ∧ s.k < k) ∧
      (k ≤ f.limit → ∀ e, ending = some e →
        ∃ first, IsLeast f.degenerate first ∧ e = .fault (.degenerateConvergent first)) := by
  refine ⟨fun fault ended kind => ?_, fun k zero =>
    ⟨fun n position => ?_, fun within e ended => ?_⟩⟩
  · rw [ended] at run
    obtain ⟨m, _, ends, same⟩ := exists_ends_of_take run
    cases same
    obtain ⟨k, least, rfl⟩ := (halted_of_ends radix ends).degenerate_of_kind kind
    exact ⟨k, least, rfl, rfl⟩
  · obtain ⟨d, s, found, taken⟩ := exists_entry_of_take run position
    exact ⟨s, taken, lt_of_entry radix found zero⟩
  · rw [ended] at run
    obtain ⟨m, _, ends, rfl⟩ := exists_ends_of_take run
    obtain ⟨first, least, rfl⟩ := (halted_of_ends radix ends).degenerate_of_le zero within
    exact ⟨first, least, rfl⟩

end Runs

/-- The fraction `1 + 1 / (2 - 2 / 1)`, whose integer part is found before its last convergent
turns out to be degenerate. -/
def collapsing : ContinuedFraction where
  a := fun k => if k = 1 then 2 else 1
  b := fun k => if k = 1 then 1 else -2
  limit := 20

/-- A fraction whose convergent of index two is degenerate. -/
theorem take_degenerate_collapsing :
    Stream.fresh.take collapsing 3 = ([1], some (.fault (.degenerateConvergent 2)), .finished) ∧
      IsLeast collapsing.degenerate 2 ∧
      ∃ s : State, Stream.fresh.take collapsing 1 = ([1], none, .running s) ∧ s.k < 2 := by
  have run : Stream.fresh.take collapsing 3 =
      ([1], some (.fault (.degenerateConvergent 2)), .finished) := rfl
  obtain ⟨first, later⟩ := take_degenerate rfl run
  obtain ⟨k, least, same, -⟩ := first _ rfl rfl
  cases same
  exact ⟨run, least, (later 2 rfl).1 0 (by decide)⟩

end NumericKernel.ContinuedFraction

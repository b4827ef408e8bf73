import Mathlib.Algebra.BigOperators.Ring.Finset
import NumericKernel.Proofs.ContinuedFraction.Tracked
import NumericKernel.Proofs.Numeral.Digits

/-!
# The digits of a stream

What a stream has emitted fixes where it stands: the digits are worth the integer part
of the two convergents that its state holds.  For regular terms this is the integer
part of every later convergent, so no later term takes a digit back:

* `pull_emitted`, `take_emitted`: one pull and any number of pulls;
* `take_regular`: the digits as the expansion of the convergents.
-/

namespace NumericKernel.ContinuedFraction

open Numeral (positional positional_concat)

variable {f : ContinuedFraction} {r : Int}

/-! ## Pulls -/

/-- Where a stream stands after the digits that it has emitted. -/
inductive Emitted (f : ContinuedFraction) (r : Int) : List Int → Stream → Prop
  | fresh : Emitted f r [] .fresh
  | digit {ds : List Int} {d : Int} {m : Nat}
    (settled : Settled f (r ^ ds.length) (positional r (ds ++ [d])) m) :
    Emitted f r (ds ++ [d])
      (.running (f.tracked r (ds.length + 1) (positional r (ds ++ [d])) m))

/-- What a pull answers after some digits. -/
inductive Pulled (f : ContinuedFraction) (r : Int) (ds : List Int) :
    Except Ending Int × Stream → Prop
  | digit {d : Int} {next : Stream} (emitted : Emitted f r (ds ++ [d]) next) :
    Pulled f r ds (.ok d, next)
  | stopped {fault : Fault} (stopped : Stopped f fault) :
    Pulled f r ds (.error (.fault fault), .finished)

theorem pull_fresh (available : 1 ≤ f.limit) :
    Stream.fresh.pull f = (Stream.running (f.tracked r 0 0 0)).pull f :=
  pull_fresh_of_ok (initial_eq_tracked r available)

theorem pull_fresh_error (missing : ¬ 1 ≤ f.limit) :
    ∃ k, Stream.fresh.pull f = (.error (.fault (.termLimit k f.limit)), .finished) := by
  obtain ⟨k, -, -, failed⟩ := initial_eq_error missing
  exact ⟨k, pull_fresh_of_error failed⟩

/-- The digit is what the integer part exceeds the digits so far by. -/
theorem Emitted.of_settled {ds : List Int} {whole : Int} {m : Nat}
    (settled : Settled f (r ^ ds.length) whole m) :
    Emitted f r (ds ++ [whole - r * positional r ds])
      (.running (f.tracked r (ds.length + 1) whole m)) := by
  have worth : positional r (ds ++ [whole - r * positional r ds]) = whole := by
    rw [positional_concat]
    ring
  rw [← worth] at settled
  have emitted := Emitted.digit settled
  rwa [worth] at emitted

/-- A pull from a tracked state gives a digit or stops. -/
theorem pull_tracked (radix : f.radix = .int r) (ds : List Int) (m : Nat) :
    Pulled f r ds ((Stream.running (f.tracked r ds.length (positional r ds) m)).pull f) := by
  have outcome : Outcome f r ds.length (positional r ds)
      (f.nextDigit (f.tracked r ds.length (positional r ds) m)) := nextDigit_outcome radix
  cases found : f.nextDigit (f.tracked r ds.length (positional r ds) m) with
  | error fault =>
    rw [found] at outcome
    rw [pull_running_of_error found]
    cases outcome with
    | stopped stopped => exact .stopped stopped
  | ok answer =>
    rw [found] at outcome
    rw [pull_running_of_ok found]
    cases outcome with
    | digit settled => exact .digit (.of_settled settled)

/-- A pull keeps a stream where its digits put it, or stops. -/
theorem pull_emitted (radix : f.radix = .int r) {ds : List Int} {stream : Stream}
    (emitted : Emitted f r ds stream) : Pulled f r ds (stream.pull f) := by
  cases emitted with
  | fresh =>
    by_cases available : 1 ≤ f.limit
    · rw [pull_fresh available]
      exact pull_tracked radix [] 0
    · obtain ⟨k, failed⟩ := pull_fresh_error available
      rw [failed]
      exact .stopped (.exhausted k)
  | @digit ds d m settled =>
    have pulled := pull_tracked radix (ds ++ [d]) m
    rwa [List.length_append, List.length_singleton] at pulled

/-! ## Runs -/

/-- What a stream answers when digits are taken from it, after some digits. -/
inductive Taken (f : ContinuedFraction) (r : Int) (before : List Int) (count : Nat) :
    List Int × Option Ending × Stream → Prop
  | all {ds : List Int} {last : Stream} (length : ds.length = count)
    (emitted : Emitted f r (before ++ ds) last) : Taken f r before count (ds, none, last)
  | stopped {ds : List Int} {fault : Fault} (length : ds.length < count)
    (stopped : Stopped f fault) : Taken f r before count (ds, some (.fault fault), .finished)

/-- A run keeps a stream where its digits put it, or stops. -/
theorem take_emitted (radix : f.radix = .int r) (count : Nat) {before : List Int}
    {stream : Stream} (emitted : Emitted f r before stream) :
    Taken f r before count (stream.take f count) := by
  induction count generalizing before stream with
  | zero => exact .all rfl (by rwa [List.append_nil])
  | succ count ih =>
    have pulled := pull_emitted radix emitted
    unfold Stream.take
    generalize stream.pull f = answer at pulled ⊢
    cases pulled with
    | @digit d next emitted =>
      have taken := ih emitted
      dsimp only
      generalize Stream.take f count next = answer at taken ⊢
      cases taken with
      | all length emitted =>
        rw [List.append_assoc] at emitted
        exact .all (congrArg (· + 1) length) emitted
      | stopped length stopped => exact .stopped (Nat.succ_lt_succ length) stopped
    | stopped stopped => exact .stopped count.succ_pos stopped

/-- A run begins with the shorter runs. -/
theorem take_prefix {count : Nat} {stream : Stream} {ds : List Int} {ending : Option Ending}
    {last : Stream} (run : stream.take f count = (ds, ending, last)) {n : Nat}
    (within : n ≤ ds.length) : ∃ mid, stream.take f n = (ds.take n, none, mid) := by
  induction count generalizing stream ds n with
  | zero =>
    obtain ⟨rfl, rfl, rfl⟩ := run
    obtain rfl : n = 0 := by simpa using within
    exact ⟨_, rfl⟩
  | succ count ih =>
    cases n with
    | zero => exact ⟨stream, rfl⟩
    | succ n =>
      unfold Stream.take at run ⊢
      generalize stream.pull f = answer at run ⊢
      rcases answer with ⟨stopped | d, next⟩ <;> dsimp only at run ⊢
      · cases run
        exact absurd within n.not_succ_le_zero
      · cases run
        obtain ⟨mid, taken⟩ := ih rfl (Nat.le_of_succ_le_succ within)
        rw [taken]
        exact ⟨mid, rfl⟩

/-! ## The expansion -/

/-- The digits of a stream are worth the integer part of its convergents. -/
theorem Emitted.settled {ds : List Int} {stream : Stream} (emitted : Emitted f r ds stream)
    {n : Nat} (length : ds.length = n + 1) :
    ∃ m, stream = .running (f.tracked r (n + 1) (positional r ds) m) ∧
      Settled f (r ^ n) (positional r ds) m := by
  cases emitted with
  | fresh => exact absurd length n.succ_ne_zero.symm
  | @digit ds d m settled =>
    obtain rfl : ds.length = n := by simpa using length
    exact ⟨m, rfl, settled⟩

/-- For regular terms settled convergents settle all later ones. -/
theorem Regular.within_of_settled (regular : Regular f) {scale whole : Int} {m j : Nat}
    (settled : Settled f scale whole m) (later : m ≤ j) : Within f scale whole j := by
  have held {i : Nat} (positive : 0 < f.denominator i)
      (part : (scale * f.numerator i).fdiv (f.denominator i) = whole) :
      Within f scale whole i := by
    rw [Int.fdiv_eq_ediv_of_nonneg _ positive.le] at part
    rw [← part]
    exact ⟨Int.ediv_mul_le _ positive.ne', Int.lt_ediv_add_one_mul_self _ positive⟩
  obtain ⟨older, newer⟩ := regular.denominator_pos m
  exact regular.within (held older settled.older_fdiv) (held newer settled.newer_fdiv) later

/-- Regular terms stop a stream at the limit only. -/
theorem Regular.exhausted_of_stopped (regular : Regular f) {fault : Fault}
    (stopped : Stopped f fault) : ∃ k, fault = .termLimit k f.limit := by
  cases stopped with
  | @degenerate held zero =>
    obtain ⟨older, newer⟩ := regular.denominator_pos held
    omega
  | exhausted k => exact ⟨k, rfl⟩

theorem take_succ_getD {ds : List Int} {n : Nat} (within : n < ds.length) :
    ds.take (n + 1) = ds.take n ++ [ds.getD n 0] := by
  rw [List.take_succ_eq_append_getElem within, List.getElem_eq_getD 0]

/-- The first digits are worth the sum of their weighted values. -/
theorem positional_take (r : Int) {ds : List Int} {n : Nat} (within : n < ds.length) :
    positional r (ds.take (n + 1)) =
      ∑ i ∈ Finset.range (n + 1), ds.getD i 0 * r ^ (n - i) := by
  induction n with
  | zero =>
    rw [take_succ_getD within]
    simp [positional]
  | succ n ih =>
    rw [take_succ_getD within, positional_concat, ih (by omega),
      Finset.sum_range_succ _ (n + 1), Finset.sum_mul, Nat.sub_self, pow_zero, mul_one]
    congr 1
    refine Finset.sum_congr rfl fun i member => ?_
    have small := Finset.mem_range.mp member
    rw [Nat.succ_sub (by omega), pow_succ, mul_assoc]

/-- After each digit of a run, the digits so far are worth the integer part of every
convergent from the older one of the state on. -/
theorem Regular.within_of_take (regular : Regular f) (radix : f.radix = .int r) {count : Nat}
    {ds : List Int} {ending : Option Ending} {last : Stream}
    (run : Stream.fresh.take f count = (ds, ending, last)) {n : Nat} (position : n < ds.length) :
    ∃ s : State, Stream.fresh.take f (n + 1) = (ds.take (n + 1), none, .running s) ∧
      ∀ j, s.k - 1 ≤ j → Within f (r ^ n) (positional r (ds.take (n + 1))) j := by
  obtain ⟨mid, taken⟩ := take_prefix run position
  have emitted := take_emitted radix (n + 1) .fresh
  rw [taken] at emitted
  cases emitted with
  | all length emitted =>
    obtain ⟨m, rfl, settled⟩ := emitted.settled length
    exact ⟨_, taken, fun j later => regular.within_of_settled settled later⟩

/-- For regular terms a run is stopped by nothing but the end of the terms, every digit
after the first is one of the radix, and after each digit the digits so far are the
expansion, cut off there, of all convergents from the older one of the state on. -/
theorem take_regular {r : Int} (radix : f.radix = .int r) (two : 2 ≤ r) (regular : Regular f)
    {count : Nat} {ds : List Int} {ending : Option Ending} {last : Stream}
    (run : Stream.fresh.take f count = (ds, ending, last)) :
    (∀ e, ending = some e → ∃ k, e = .fault (.termLimit k f.limit)) ∧
      ∀ n, n < ds.length →
        (0 < n → 0 ≤ ds.getD n 0 ∧ ds.getD n 0 < r) ∧
        ∃ s : State, Stream.fresh.take f (n + 1) = (ds.take (n + 1), none, .running s) ∧
          ∀ j, s.k - 1 ≤ j → ⌊(r : ℚ) ^ n * f.convergent j⌋ =
            ∑ i ∈ Finset.range (n + 1), ds.getD i 0 * r ^ (n - i) := by
  constructor
  · intro e ended
    have taken := take_emitted radix count .fresh
    rw [run, ended] at taken
    cases taken with
    | stopped length stopped =>
      obtain ⟨k, rfl⟩ := regular.exhausted_of_stopped stopped
      exact ⟨k, rfl⟩
  · intro n position
    obtain ⟨s, taken, after⟩ := regular.within_of_take radix run position
    refine ⟨fun later => ?_, s, taken, fun j held => ?_⟩
    · obtain ⟨n, rfl⟩ := Nat.exists_eq_succ_of_ne_zero later.ne'
      obtain ⟨earlier, _, before⟩ := regular.within_of_take radix run (Nat.lt_of_succ_lt position)
      have bounds := after (max (s.k - 1) (earlier.k - 1)) (Nat.le_max_left _ _)
      rw [take_succ_getD position, positional_concat, mul_comm _ r, pow_succ, mul_comm _ r] at bounds
      exact (before _ (Nat.le_max_right _ _)).digit_bounded (regular.denominator_pos _).1
        (by omega) bounds
    · rw [← positional_take r position, ← Int.cast_pow]
      exact (floor_convergent_eq_iff (regular.denominator_pos j).1 _ _).mpr (after j held)

/-- The fraction of the square root of two. -/
def rootTwo : ContinuedFraction where
  a := fun k => if k = 0 then 1 else 2
  b := fun _ => 1
  limit := 20

theorem rootTwo_regular : Regular rootTwo where
  one_le_a := fun k positive => by
    have two : rootTwo.a k = 2 := if_neg (by omega)
    omega
  zero_le_b := fun _ _ => Int.one_nonneg

/-- Three digits of the square root of two. -/
theorem take_regular_rootTwo : ∃ s : State,
    Stream.fresh.take rootTwo 3 = ([1, 4, 1], none, .running s) ∧
      ∀ j, s.k - 1 ≤ j → ⌊((10 : Int) : ℚ) ^ 2 * rootTwo.convergent j⌋ = 141 := by
  have run : Stream.fresh.take rootTwo 3 = ([1, 4, 1], none, _) := rfl
  obtain ⟨_, s, taken, after⟩ :=
    (take_regular rfl (by decide) rootTwo_regular run).2 2 (by decide)
  exact ⟨s, taken, after⟩

end NumericKernel.ContinuedFraction

import NumericKernel.Proofs.ContinuedFraction.Tracked

/-!
# The sequence of digits

A fraction fixes one sequence of digits, which goes on for ever or ends with a fault.
Where a stream stands is fixed by the number of digits that have been asked of it, so it
does not matter in which portions they are asked for.

* `digitAt`, `Ends`, `digits`: the sequence, apart from any stream;
* `pull_standing`: what one more pull gives;
* `take_standing`: what a further portion gives;
* `stopped_of_ends`: the faults that end the digits of an integer radix.
-/

namespace NumericKernel.ContinuedFraction

/-- The digit of a position with the state after it, or the fault that ends the digits
there or before. -/
def entry (f : ContinuedFraction) : Nat → Except Fault (Int × State)
  | 0 => f.initial.bind f.nextDigit
  | n + 1 => (entry f n).bind fun before => f.nextDigit before.2

/-- The digit of a position, or the fault that ends the digits there or before. -/
def digitAt (f : ContinuedFraction) (n : Nat) : Except Fault Int := (f.entry n).map Prod.fst

/-- The digits end with a fault after this many. -/
structure Ends (f : ContinuedFraction) (m : Nat) (fault : Fault) : Prop where
  digitAt_of_lt : ∀ n, n < m → ∃ d, f.digitAt n = .ok d
  digitAt_eq : f.digitAt m = .error fault

/-- The digits of the first positions, as far as there are any. -/
def digits (f : ContinuedFraction) (n : Nat) : List Int :=
  (List.range n).filterMap fun i => (f.digitAt i).toOption

variable {f : ContinuedFraction} {m n asked count : Nat} {d : Int} {fault : Fault}

/-! ## Entries -/

theorem digitAt_eq_ok_iff : f.digitAt n = .ok d ↔ ∃ s, f.entry n = .ok (d, s) := by
  unfold digitAt
  cases f.entry n with
  | error other => simp [Except.map]
  | ok found =>
    obtain ⟨first, s⟩ := found
    simp [Except.map]

theorem digitAt_eq_error_iff : f.digitAt n = .error fault ↔ f.entry n = .error fault := by
  unfold digitAt
  cases f.entry n <;> simp [Except.map]

theorem entry_succ_of_error (failed : f.entry n = .error fault) :
    f.entry (n + 1) = .error fault := by
  rw [entry, failed]
  rfl

theorem digitAt_error_of_le (failed : f.digitAt m = .error fault) (later : m ≤ n) :
    f.digitAt n = .error fault := by
  rw [digitAt_eq_error_iff] at failed ⊢
  induction later with
  | refl => exact failed
  | step _ ih => exact entry_succ_of_error ih

/-- Before a digit there are only digits. -/
theorem digitAt_ok_of_le (found : f.digitAt n = .ok d) (earlier : m ≤ n) :
    ∃ d, f.digitAt m = .ok d := by
  cases answer : f.digitAt m with
  | ok first => exact ⟨first, rfl⟩
  | error fault =>
    rw [digitAt_error_of_le answer earlier] at found
    cases found

/-- A position with a fault is at the end of the digits or behind it. -/
theorem exists_ends (failed : f.digitAt n = .error fault) : ∃ m, m ≤ n ∧ Ends f m fault := by
  induction n with
  | zero => exact ⟨0, Nat.le_refl 0, fun _ before => absurd before (Nat.not_lt_zero _), failed⟩
  | succ n ih =>
    cases before : f.digitAt n with
    | error earlier =>
      have same := failed.symm.trans (digitAt_error_of_le before n.le_succ)
      cases same
      obtain ⟨m, le, ends⟩ := ih before
      exact ⟨m, Nat.le_succ_of_le le, ends⟩
    | ok d =>
      exact ⟨n + 1, Nat.le_refl _,
        fun i earlier => digitAt_ok_of_le before (Nat.le_of_lt_succ earlier), failed⟩

theorem Ends.digitAt_error (ends : Ends f m fault) (later : m ≤ n) :
    f.digitAt n = .error fault := digitAt_error_of_le ends.digitAt_eq later

theorem Ends.lt_of_digitAt (ends : Ends f m fault) (found : f.digitAt n = .ok d) : n < m := by
  apply Nat.lt_of_not_le
  intro later
  rw [ends.digitAt_error later] at found
  cases found

theorem Ends.not_all (ends : Ends f m fault) (reached : m < n) :
    ¬ ∀ i, i < n → ∃ d, f.digitAt i = .ok d := by
  intro all
  obtain ⟨d, found⟩ := all m reached
  exact Nat.lt_irrefl m (ends.lt_of_digitAt found)

theorem Ends.le {other : Nat} {late : Fault} (ends : Ends f m fault) (ends' : Ends f other late) :
    m ≤ other :=
  Nat.le_of_not_lt fun before => ends'.not_all before ends.digitAt_of_lt

theorem Ends.unique {other : Nat} {late : Fault} (ends : Ends f m fault)
    (ends' : Ends f other late) : m = other ∧ fault = late := by
  obtain rfl := Nat.le_antisymm (ends.le ends') (ends'.le ends)
  exact ⟨rfl, Except.error.inj (ends.digitAt_eq.symm.trans ends'.digitAt_eq)⟩

/-! ## The first digits -/

theorem digits_succ_of_ok (found : f.digitAt n = .ok d) : f.digits (n + 1) = f.digits n ++ [d] := by
  rw [digits, List.range_succ, List.filterMap_append, ← digits]
  simp [found, Except.toOption]

theorem digits_succ_of_error (failed : f.digitAt n = .error fault) :
    f.digits (n + 1) = f.digits n := by
  rw [digits, List.range_succ, List.filterMap_append, ← digits]
  simp [failed, Except.toOption]

theorem digits_of_error (failed : f.digitAt m = .error fault) (later : m ≤ n) :
    f.digits n = f.digits m := by
  induction later with
  | refl => rfl
  | step later ih => rw [digits_succ_of_error (digitAt_error_of_le failed later), ih]

/-- As long as there are digits, there are as many as are asked for. -/
theorem length_digits (found : ∀ i, i < n → ∃ d, f.digitAt i = .ok d) :
    (f.digits n).length = n := by
  induction n with
  | zero => rfl
  | succ n ih =>
    obtain ⟨d, last⟩ := found n n.lt_succ_self
    rw [digits_succ_of_ok last, List.length_append, List.length_singleton,
      ih fun i before => found i (Nat.lt_succ_of_lt before)]

/-- There are as many digits as are asked for, or as come before the end. -/
theorem Ends.length_digits (ends : Ends f m fault) (n : Nat) :
    (f.digits n).length = min n m := by
  rcases Nat.le_total n m with within | beyond
  · rw [ContinuedFraction.length_digits fun i before =>
      ends.digitAt_of_lt i (Nat.lt_of_lt_of_le before within), Nat.min_eq_left within]
  · rw [digits_of_error ends.digitAt_eq beyond,
      ContinuedFraction.length_digits ends.digitAt_of_lt, Nat.min_eq_right beyond]

/-! ## Streams -/

/-- Where a stream stands that this many digits have been asked of. -/
def standing (f : ContinuedFraction) : Nat → Stream
  | 0 => .fresh
  | n + 1 =>
    match f.entry n with
    | .ok (_, s) => .running s
    | .error _ => .finished

/-- Behind a digit a stream stands at the state that the digit leaves. -/
theorem standing_succ_of_ok {s : State} (found : f.entry n = .ok (d, s)) :
    f.standing (n + 1) = .running s := by
  rw [standing, found]

theorem Ends.standing_of_lt (ends : Ends f m fault) (later : m < n) :
    f.standing n = .finished := by
  obtain ⟨n, rfl⟩ := Nat.exists_eq_succ_of_ne_zero (Nat.ne_zero_of_lt later)
  rw [standing, digitAt_eq_error_iff.1 (ends.digitAt_error (Nat.le_of_lt_succ later))]

/-- A stream that has given a digit for all that was asked of it answers with the next
entry of the sequence. -/
theorem pull_standing_eq (found : ∀ i, i < n → ∃ d, f.digitAt i = .ok d) :
    (f.standing n).pull f =
      match f.entry n with
      | .ok (d, s) => (.ok d, .running s)
      | .error fault => (.error (.fault fault), .finished) := by
  cases n with
  | zero =>
    rw [standing, entry]
    cases begun : f.initial with
    | error fault => exact pull_fresh_of_error begun
    | ok s => exact (pull_fresh_of_ok begun).trans (pull_running f s)
  | succ n =>
    obtain ⟨d, last⟩ := found n n.lt_succ_self
    obtain ⟨s, last⟩ := digitAt_eq_ok_iff.1 last
    rw [standing_succ_of_ok last, entry, last]
    exact pull_running f s

/-- A pull gives the next digit. -/
theorem pull_standing (found : f.digitAt n = .ok d) :
    (f.standing n).pull f = (.ok d, f.standing (n + 1)) := by
  obtain ⟨s, last⟩ := digitAt_eq_ok_iff.1 found
  rw [pull_standing_eq fun i before => digitAt_ok_of_le found (Nat.le_of_lt before),
    standing_succ_of_ok last, last]

/-- A pull at the end gives the fault. -/
theorem Ends.pull_standing (ends : Ends f m fault) :
    (f.standing m).pull f = (.error (.fault fault), .finished) := by
  rw [pull_standing_eq ends.digitAt_of_lt, digitAt_eq_error_iff.1 ends.digitAt_eq]

theorem Ends.pull_standing_of_lt (ends : Ends f m fault) (later : m < n) :
    (f.standing n).pull f = (.error .finished, .finished) := by
  rw [ends.standing_of_lt later]
  rfl

/-! ## Portions -/

/-- What a portion of digits is, when some have been asked for before: the digits that
follow, and the fault at its place, but only once. -/
structure Portion (f : ContinuedFraction) (asked count : Nat) (ds : List Int)
    (ending : Option Ending) : Prop where
  digits : f.digits asked ++ ds = f.digits (asked + count)
  whole : ending = none ↔ count = 0 ∨ ∀ i, i < asked + count → ∃ d, f.digitAt i = .ok d
  fault : ∀ m fault, Ends f m fault → asked ≤ m → m < asked + count →
    ending = some (.fault fault)
  finished : ∀ m fault, Ends f m fault → m < asked → 0 < count → ending = some .finished

theorem portion_zero (f : ContinuedFraction) (asked : Nat) : Portion f asked 0 [] none where
  digits := List.append_nil _
  whole := by simp
  fault := fun m fault _ after before => absurd before (by omega)
  finished := fun _ _ _ _ positive => absurd positive (Nat.lt_irrefl 0)

/-- A digit in front of the portion that follows it. -/
theorem Portion.cons {ds : List Int} {ending : Option Ending} (found : f.digitAt asked = .ok d)
    (rest : Portion f (asked + 1) count ds ending) : Portion f asked (count + 1) (d :: ds) ending where
  digits := by
    have joined := rest.digits
    rw [digits_succ_of_ok found, List.append_assoc, Nat.add_assoc, Nat.add_comm 1] at joined
    exact joined
  whole := by
    rw [rest.whole, Nat.add_assoc, Nat.add_comm 1]
    constructor
    · rintro (rfl | all)
      · exact .inr fun i before => digitAt_ok_of_le found (by omega)
      · exact .inr all
    · rintro (none | all)
      · exact absurd none count.succ_ne_zero
      · exact .inr all
  fault := fun m fault ends after before =>
    rest.fault m fault ends (ends.lt_of_digitAt found) (by omega)
  finished := fun m fault ends before _ => absurd (ends.lt_of_digitAt found) (by omega)

/-- The portion at whose first place the digits end. -/
theorem Ends.portion (ends : Ends f m fault) (count : Nat) :
    Portion f m (count + 1) [] (some (.fault fault)) where
  digits := by rw [List.append_nil, digits_of_error ends.digitAt_eq (Nat.le_add_right m _)]
  whole := by
    constructor
    · exact fun none => nomatch none
    · rintro (none | all)
      · exact absurd none count.succ_ne_zero
      · exact absurd all (ends.not_all (by omega))
  fault := fun _ _ other _ _ => by rw [(ends.unique other).2]
  finished := fun _ _ other before _ => absurd (ends.unique other).1 (Nat.ne_of_gt before)

/-- A portion behind the end of the digits. -/
theorem Ends.portion_of_lt (ends : Ends f m fault) (later : m < asked) (count : Nat) :
    Portion f asked (count + 1) [] (some .finished) where
  digits := by
    rw [List.append_nil, digits_of_error ends.digitAt_eq later.le,
      digits_of_error ends.digitAt_eq (Nat.le_add_right_of_le later.le)]
  whole := by
    constructor
    · exact fun none => nomatch none
    · rintro (none | all)
      · exact absurd none count.succ_ne_zero
      · exact absurd all (ends.not_all (by omega))
  fault := fun _ _ other after _ => absurd (ends.unique other).1 (by omega)
  finished := fun _ _ _ _ _ => rfl

/-- A portion leaves the stream where the digits asked for put it. -/
theorem take_standing (f : ContinuedFraction) (asked count : Nat) :
    ∃ ds ending, (f.standing asked).take f count = (ds, ending, f.standing (asked + count)) ∧
      Portion f asked count ds ending := by
  induction count generalizing asked with
  | zero => exact ⟨[], none, rfl, portion_zero f asked⟩
  | succ count ih =>
    unfold Stream.take
    cases answer : f.digitAt asked with
    | ok d =>
      obtain ⟨ds, ending, taken, portion⟩ := ih (asked + 1)
      rw [pull_standing answer]
      dsimp only
      rw [taken, Nat.add_assoc, Nat.add_comm 1]
      exact ⟨d :: ds, ending, rfl, portion.cons answer⟩
    | error fault =>
      obtain ⟨m, le, ends⟩ := exists_ends answer
      rw [ends.standing_of_lt (show m < asked + (count + 1) by omega)]
      rcases Nat.eq_or_lt_of_le le with rfl | later
      · rw [ends.pull_standing]
        exact ⟨[], _, rfl, ends.portion count⟩
      · rw [ends.pull_standing_of_lt later]
        exact ⟨[], _, rfl, ends.portion_of_lt later count⟩

/-! ## Faults -/

/-- With an integer radix every entry is the outcome of a search from a tracked state. -/
theorem entry_outcome {r : Int} (radix : f.radix = .int r) (n : Nat) :
    ∃ worth, Outcome f r n worth (f.entry n) := by
  induction n with
  | zero =>
    refine ⟨0, ?_⟩
    rw [entry]
    by_cases available : 1 ≤ f.limit
    · rw [initial_eq_tracked r available]
      exact nextDigit_outcome radix
    · obtain ⟨k, -, -, missing⟩ := initial_eq_error available
      rw [missing]
      exact .stopped (.exhausted k)
  | succ n ih =>
    obtain ⟨worth, outcome⟩ := ih
    rw [entry]
    generalize f.entry n = before at outcome
    cases outcome with
    | @digit whole held settled => exact ⟨whole, nextDigit_outcome radix⟩
    | stopped stopped => exact ⟨0, .stopped stopped⟩

/-- An integer radix ends for a degenerate convergent or the limit only. -/
theorem stopped_of_ends {r : Int} (radix : f.radix = .int r) (ends : Ends f m fault) :
    Stopped f fault := by
  obtain ⟨worth, outcome⟩ := entry_outcome radix m
  rw [digitAt_eq_error_iff.1 ends.digitAt_eq] at outcome
  cases outcome with
  | stopped stopped => exact stopped

end NumericKernel.ContinuedFraction

import NumericKernel.Proofs.ContinuedFraction.Dependence
import NumericKernel.Proofs.ContinuedFraction.Sequence

/-!
# Sessions

Streams of a session do not disturb each other.  What a name gives is fixed by the
number of digits that have been asked of it since it was last started, however they were
asked for and whatever was done with other names, or with the same name before.

* `find_put`: a stream is put in under one name only;
* `Account`: what has been asked of a name and what it has given;
* `account_kept`: the account tells where the stream of a name stands;
* `session_digits`: the answers of a session are portions of one sequence.
-/

namespace NumericKernel.ContinuedFraction

/-! ## Streams by name -/

/-- Taking out one name leaves the others. -/
theorem lookup_filter_ne {streams : Streams} {name other : String} (apart : other ≠ name) :
    List.lookup other (streams.filter (·.1 != name)) = List.lookup other streams := by
  induction streams with
  | nil => rfl
  | cons first rest ih =>
    obtain ⟨key, stream⟩ := first
    rw [List.lookup_cons, ← ih]
    by_cases dropped : key = name
    · have unlike : (other == key) = false := beq_false_of_ne (dropped ▸ apart)
      rw [List.filter_cons_of_neg (by simpa using dropped), unlike]
    · rw [List.filter_cons_of_pos (by simpa using dropped), List.lookup_cons]

/-- A stream is put in under one name only. -/
theorem find_put (streams : Streams) (name other : String) (stream : Stream) :
    (streams.put name stream).find other = if other = name then stream else streams.find other := by
  unfold Streams.find Streams.put
  rw [List.lookup_cons]
  by_cases same : other = name
  · rw [if_pos same, same, beq_self_eq_true]
    rfl
  · rw [if_neg same, beq_false_of_ne same]
    exact congrArg (Option.getD · Stream.finished) (lookup_filter_ne same)

/-! ## Runs -/

/-- The streams after the steps of a session. -/
def after (f : ContinuedFraction) (streams : Streams) (steps : List Step) : Streams :=
  steps.foldl (fun streams s => (f.step streams s).2) streams

/-- The steps of a session that begins without streams, each with its answer. -/
def history (f : ContinuedFraction) (steps : List Step) : List (Step × Answer) :=
  steps.zip (f.run [] steps)

variable {f : ContinuedFraction}

theorem run_append (streams : Streams) (before rest : List Step) :
    f.run streams (before ++ rest) = f.run streams before ++ f.run (f.after streams before) rest := by
  induction before generalizing streams with
  | nil => rfl
  | cons s before ih => exact congrArg ((f.step streams s).1 :: ·) (ih _)

theorem length_run (streams : Streams) (steps : List Step) :
    (f.run streams steps).length = steps.length := by
  induction steps generalizing streams with
  | nil => rfl
  | cons s steps ih => exact congrArg (· + 1) (ih _)

theorem history_concat (before : List Step) (s : Step) :
    f.history (before ++ [s]) = f.history before ++ [(s, (f.step (f.after [] before) s).1)] := by
  unfold history
  rw [run_append, List.zip_append (length_run [] before).symm]
  rfl

theorem after_concat (before : List Step) (s : Step) :
    f.after [] (before ++ [s]) = (f.step (f.after [] before) s).2 := List.foldl_concat ..

/-! ## Accounts -/

/-- What has been asked of a name since it was last started, and what it has given. -/
structure Account where
  asked : Nat
  received : List Int

/-- The account of a name after a step and its answer. -/
def Account.note (name : String) (account : Option Account) : Step × Answer → Option Account
  | (.start other, _) => if name = other then some ⟨0, []⟩ else account
  | (.take other count, .digits ds _) =>
    if name = other then account.map fun a => ⟨a.asked + count, a.received ++ ds⟩ else account
  | (.take _ _, .started) => account

/-- The account of a name in a session, if the name has been started. -/
def account (name : String) (history : List (Step × Answer)) : Option Account :=
  history.foldl (Account.note name) none

theorem account_concat (name : String) (history : List (Step × Answer)) (last : Step × Answer) :
    account name (history ++ [last]) = Account.note name (account name history) last :=
  List.foldl_concat ..

/-- The stream of a name stands where its account says, and has given the digits up to
there. -/
def Kept (f : ContinuedFraction) (streams : Streams) (name : String) (a : Account) : Prop :=
  streams.find name = f.standing a.asked ∧ a.received = f.digits a.asked

/-- The account tells where the stream of a name stands. -/
theorem account_kept {steps : List Step} {name : String} {a : Account}
    (known : account name (f.history steps) = some a) : Kept f (f.after [] steps) name a := by
  induction steps using List.reverseRecOn generalizing a with
  | nil => cases known
  | append_singleton before s ih =>
    rw [history_concat, account_concat] at known
    rw [after_concat]
    unfold Kept
    cases s with
    | start other =>
      dsimp only [step, Account.note] at known ⊢
      rw [find_put]
      by_cases same : name = other
      · rw [if_pos same] at known ⊢
        cases known
        exact ⟨rfl, rfl⟩
      · rw [if_neg same] at known ⊢
        exact ih known
    | take other count =>
      dsimp only [step, Account.note] at known ⊢
      rw [find_put]
      by_cases same : name = other
      · subst same
        rw [if_pos rfl] at known ⊢
        obtain ⟨old, earlier, rfl⟩ := Option.map_eq_some_iff.1 known
        obtain ⟨stands, received⟩ := ih earlier
        obtain ⟨ds, ending, taken, portion⟩ := take_standing f old.asked count
        rw [stands, taken, received]
        exact ⟨rfl, portion.digits⟩
      · rw [if_neg same] at known ⊢
        exact ih known

/-- A session answers a request for digits with the portion of the sequence that follows
what was asked of the name before. -/
theorem run_take {before : List Step} {name : String} {a : Account}
    (known : account name (f.history before) = some a) (count : Nat) (rest : List Step) :
    ∃ ds ending later, f.run [] (before ++ .take name count :: rest) =
        f.run [] before ++ .digits ds ending :: later ∧ Portion f a.asked count ds ending := by
  obtain ⟨ds, ending, taken, portion⟩ := take_standing f a.asked count
  have answered : f.step (f.after [] before) (.take name count) = (.digits ds ending,
      (f.after [] before).put name (f.standing (a.asked + count))) := by
    unfold step
    dsimp only
    rw [(account_kept known).1, taken]
  rw [run_append, run, answered]
  exact ⟨ds, ending, _, rfl, portion⟩

/-! ## The sequence and the limit on the terms -/

theorem take_fresh (f : ContinuedFraction) (n : Nat) : (Stream.fresh.take f n).1 = f.digits n := by
  obtain ⟨ds, ending, taken, portion⟩ := take_standing f 0 n
  rw [standing] at taken
  rw [taken, ← Nat.zero_add n, ← portion.digits]
  rfl

/-- The last of the first digits is the one in its place. -/
theorem getElem?_digits_eq_some_iff {n : Nat} {d : Int} :
    (f.digits (n + 1))[n]? = some d ↔ f.digitAt n = .ok d := by
  cases answer : f.digitAt n with
  | ok last =>
    have length := length_digits fun i before => digitAt_ok_of_le answer (Nat.le_of_lt before)
    rw [digits_succ_of_ok answer, List.getElem?_append_right length.le, length, Nat.sub_self]
    simp
  | error fault =>
    obtain ⟨m, le, ends⟩ := exists_ends answer
    rw [List.getElem?_eq_none (by rw [ends.length_digits]; omega)]
    simp

/-- The limit on the terms has no influence on the digits that there are. -/
theorem digitAt_of_le_limit {limit : Int} (more : f.limit ≤ limit) {n : Nat} {d : Int}
    (found : f.digitAt n = .ok d) : digitAt { f with limit } n = .ok d := by
  have kept := take_prefix_of_le_limit more (n + 1) .fresh
  rw [take_fresh, take_fresh] at kept
  rw [← getElem?_digits_eq_some_iff] at found ⊢
  obtain ⟨inside, value⟩ := List.getElem?_eq_some_iff.1 found
  rw [← value]
  exact List.prefix_iff_getElem?.1 kept n inside

/-- A stream stops for a division by zero or the limit on the terms. -/
theorem Stopped.kind {fault : Fault} (stopped : Stopped f fault) :
    fault.kind = .divisionByZero ∨ fault.kind = .termLimit := by
  cases stopped with
  | degenerate zero => exact .inl rfl
  | exhausted k => exact .inr rfl

/-- A fraction fixes one sequence of digits, which can end with a degenerate convergent or
the end of the terms only; where the terms end has no other influence.  In every session a
name has received, since it was last started, the first digits of the sequence, as many as
were asked for if there are so many.  Each answer is the portion that comes next, with the
fault at its place; from then on the name is finished until it is started again. -/
theorem session_digits {r : Int} (radix : f.radix = .int r) :
    (∀ m fault, Ends f m fault → fault.kind = .divisionByZero ∨ fault.kind = .termLimit) ∧
    (∀ limit n d, f.limit ≤ limit → f.digitAt n = .ok d → digitAt { f with limit } n = .ok d) ∧
    (∀ steps name a, account name (f.history steps) = some a →
      a.received = f.digits a.asked ∧
      ((∀ i, i < a.asked → ∃ d, f.digitAt i = .ok d) → a.received.length = a.asked) ∧
      ∀ m fault, Ends f m fault → a.received.length = min a.asked m) ∧
    ∀ before name count rest a, account name (f.history before) = some a →
      ∃ ds ending later, f.run [] (before ++ .take name count :: rest) =
          f.run [] before ++ .digits ds ending :: later ∧ Portion f a.asked count ds ending := by
  refine ⟨fun m fault ends => (stopped_of_ends radix ends).kind,
    fun limit n d more found => digitAt_of_le_limit more found, fun steps name a known => ?_,
    fun before name count rest a known => run_take known count rest⟩
  have received := (account_kept known).2
  rw [received]
  exact ⟨rfl, length_digits, fun m fault ends => ends.length_digits a.asked⟩

/-- A fraction with few terms. -/
def brief : ContinuedFraction := { rootTwo with limit := 4 }

/-- Two names in turn, of which the second one uses up the terms. -/
def turns : List Step := [.start "x", .take "x" 1, .start "y", .take "y" 7]

/-- Two streams of one fraction, pulled in turn. -/
theorem session_digits_in_turn :
    account "x" (brief.history turns) = some ⟨1, [1]⟩ ∧
    ∃ ds ending later, brief.run [] (turns ++ .take "x" 5 :: [.take "x" 1]) =
      brief.run [] turns ++ .digits ds ending :: later ∧ Portion brief 1 5 ds ending := by
  have known : account "x" (brief.history turns) = some ⟨1, [1]⟩ := rfl
  have radix : brief.radix = .int 10 := rfl
  exact ⟨known, (session_digits radix).2.2.2 turns "x" 5 [.take "x" 1] ⟨1, [1]⟩ known⟩

end NumericKernel.ContinuedFraction

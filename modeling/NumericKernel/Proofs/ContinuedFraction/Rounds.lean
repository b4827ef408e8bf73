import NumericKernel.ContinuedFraction.Stream
import NumericKernel.Proofs.Arithmetic.Integer

/-!
# The rounds of a search for a digit

A round of the search either finds the digit or takes in one term more.  What it asks for is
read off the same computation as what it finds, so both are settled together, case by case.
Without a bound on the terms, the number of rounds before the last one is the number of
terms that the digit has cost.

* `Query.run_bind`, `Query.run_congr`: what a computation gives and what it depends on;
* `Rounded`, `rounded`: all that a round can do;
* `asking_eq`, `induction_on_rounds`: the search as its first round and the search after it;
* `Finds.agree`: the digit depends on no later term than the last one taken in;
* `Searching`: all states in which a search can stand.
-/

namespace NumericKernel.ContinuedFraction

/-! ## Computations -/

section Computations

variable {α β : Type} {answers others : Request → Except Fault Int}

/-- What succeeds goes on with its result. -/
theorem Asking.bind_of_ok {first : Asking α} {x : α} (given : first.answer = .ok x)
    (go : α → Asking β) :
    first.bind go = ⟨first.requests ++ (go x).requests, (go x).answer⟩ := by
  rw [Asking.bind, given]

/-- What fails does not go on. -/
theorem Asking.bind_of_error {first : Asking α} {fault : Fault}
    (failed : first.answer = .error fault) (go : α → Asking β) :
    first.bind go = ⟨first.requests, .error fault⟩ := by
  rw [Asking.bind, failed]

/-- The order in which computations are put together does not matter. -/
theorem Asking.bind_assoc {γ : Type} (first : Asking α) (go : α → Asking β) (last : β → Asking γ) :
    (first.bind go).bind last = first.bind fun x => (go x).bind last := by
  obtain ⟨requests, _ | x⟩ := first
  · rfl
  · rcases given : go x with ⟨more, _ | y⟩
    · simp only [Asking.bind, given]
    · simp only [Asking.bind, given, List.append_assoc]

/-- A computation in two parts asks and answers in two parts. -/
theorem Query.run_bind (q : Query α) (go : α → Query β) :
    (q.bind go).run answers = (q.run answers).bind fun x => (go x).run answers := by
  induction q with
  | done result => cases result <;> rfl
  | ask t next ih =>
    rw [Query.bind, Query.run, Query.run, Asking.bind_assoc]
    simp only [ih]

/-- The requests of a first part are made whatever follows. -/
theorem Asking.mem_requests_bind {first : Asking α} {go : α → Asking β} {t : Request}
    (asked : t ∈ first.requests) : t ∈ (first.bind go).requests := by
  cases given : first.answer with
  | error fault =>
    rw [bind_of_error given]
    exact asked
  | ok x =>
    rw [bind_of_ok given]
    exact List.mem_append_left _ asked

theorem Query.run_of_ok {t : Request} {x : Int} (given : answers t = .ok x) (go : Int → Query α) :
    (Query.ask t go).run answers = ⟨t :: ((go x).run answers).requests, ((go x).run answers).answer⟩ :=
  Asking.bind_of_ok given _

theorem Query.run_of_error {t : Request} {fault : Fault} (failed : answers t = .error fault)
    (go : Int → Query α) : (Query.ask t go).run answers = ⟨[t], .error fault⟩ :=
  Asking.bind_of_error failed _

/-- A computation depends on the answers to its requests only. -/
theorem Query.run_congr (q : Query α) (same : ∀ t ∈ (q.run answers).requests, others t = answers t) :
    q.run others = q.run answers := by
  induction q with
  | done result => rfl
  | ask t next ih =>
    rw [Query.run] at same
    have now : others t = answers t := same t (Asking.mem_requests_bind (List.mem_singleton_self t))
    cases given : answers t with
    | error fault => rw [run_of_error given, run_of_error (now.trans given)]
    | ok x =>
      rw [Asking.bind_of_ok given] at same
      rw [run_of_ok given, run_of_ok (now.trans given),
        ih x fun u asked => same u (List.mem_append_right _ asked)]

end Computations

variable {f g : ContinuedFraction} {n count : Nat} {d : Int} {s next : State}

/-! ## Terms -/

theorem ask_eq_ok {t : Request} (available : t.index ≤ f.limit) : f.ask t = .ok (f.term t) :=
  if_pos available

theorem ask_eq_error {t : Request} (missing : ¬ t.index ≤ f.limit) :
    f.ask t = .error (.termLimit t.index f.limit) := if_neg missing

/-! ## Indices -/

theorem State.absorb_k {x y : Int} (absorbed : s.absorb x y = .ok next) : next.k = s.k + 1 := by
  unfold State.absorb at absorbed
  obtain ⟨p, _, absorbed⟩ := bind_eq_ok_iff.1 absorbed
  obtain ⟨q, _, absorbed⟩ := bind_eq_ok_iff.1 absorbed
  cases absorbed
  rfl

theorem State.scale_k {radix : Number} (scaled : s.scale radix = .ok next) : next.k = s.k := by
  unfold State.scale at scaled
  obtain ⟨r0, _, scaled⟩ := bind_eq_ok_iff.1 scaled
  obtain ⟨p0, _, scaled⟩ := bind_eq_ok_iff.1 scaled
  obtain ⟨r1, _, scaled⟩ := bind_eq_ok_iff.1 scaled
  obtain ⟨p1, _, scaled⟩ := bind_eq_ok_iff.1 scaled
  cases scaled
  rfl

/-! ## The first state -/

theorem State.first_eq : State.first = .ask (.a 0) fun a0 => .ask (.a 1) fun a1 =>
    .ask (.b 1) fun b1 => .done (.ok ⟨1, .int a0, .int 1, .int (a1 * a0 + b1), .int a1⟩) := rfl

/-- With a limit of at least one there is a first state. -/
theorem starting_of_le (available : 1 ≤ f.limit) : f.starting = ⟨[.a 0, .a 1, .b 1],
    .ok ⟨1, .int (f.a 0), .int 1, .int (f.a 1 * f.a 0 + f.b 1), .int (f.a 1)⟩⟩ := by
  have zeroth : f.ask (.a 0) = .ok (f.a 0) := ask_eq_ok (Int.le_trans Int.one_nonneg available)
  have first : f.ask (.a 1) = .ok (f.a 1) := ask_eq_ok available
  have second : f.ask (.b 1) = .ok (f.b 1) := ask_eq_ok available
  rw [starting, State.first_eq, Query.run_of_ok zeroth, Query.run_of_ok first,
    Query.run_of_ok second]
  rfl

/-- A limit below one refuses the second term at the latest. -/
theorem exists_starting (missing : ¬ 1 ≤ f.limit) : ∃ k : Nat, k ≤ 1 ∧ f.limit < k ∧
    f.starting = ⟨(List.range (k + 1)).map .a, .error (.termLimit k f.limit)⟩ := by
  by_cases available : 0 ≤ f.limit
  · have zeroth : f.ask (.a 0) = .ok (f.a 0) := ask_eq_ok available
    have refusal : f.ask (.a 1) = .error (.termLimit 1 f.limit) := ask_eq_error missing
    refine ⟨1, Nat.le_refl 1, Int.not_le.1 missing, ?_⟩
    rw [starting, State.first_eq, Query.run_of_ok zeroth, Query.run_of_error refusal]
    rfl
  · have refusal : f.ask (.a 0) = .error (.termLimit 0 f.limit) := ask_eq_error available
    refine ⟨0, Nat.zero_le 1, Int.not_le.1 available, ?_⟩
    rw [starting, State.first_eq, Query.run_of_error refusal]
    rfl

/-! ## Single rounds -/

/-- What a round from a state can give, with the requests that it makes. -/
inductive Rounded (f : ContinuedFraction) (s : State) : Asking (Int × State ⊕ State) → Prop
  | failed {fault : Fault} (parts : s.integerParts = .error fault) :
    Rounded f s ⟨[], .error fault⟩
  | unscaled {d : Int} {fault : Fault} (parts : s.integerParts = .ok (d, d))
    (failed : s.scale f.radix = .error fault) : Rounded f s ⟨[], .error fault⟩
  | digit {d : Int} {next : State} (parts : s.integerParts = .ok (d, d))
    (scaled : s.scale f.radix = .ok next) : Rounded f s ⟨[], .ok (.inl (d, next))⟩
  | refused {x y : Int} (parts : s.integerParts = .ok (x, y)) (undecided : x ≠ y)
    (missing : ¬ s.k + 1 ≤ f.limit) :
    Rounded f s ⟨[.a (s.k + 1)], .error (.termLimit (s.k + 1) f.limit)⟩
  | unabsorbed {x y : Int} {fault : Fault} (parts : s.integerParts = .ok (x, y))
    (undecided : x ≠ y) (available : s.k + 1 ≤ f.limit)
    (failed : s.absorb (f.a (s.k + 1)) (f.b (s.k + 1)) = .error fault) :
    Rounded f s ⟨[.a (s.k + 1), .b (s.k + 1)], .error fault⟩
  | absorbed {x y : Int} {next : State} (parts : s.integerParts = .ok (x, y))
    (undecided : x ≠ y) (available : s.k + 1 ≤ f.limit)
    (absorbed : s.absorb (f.a (s.k + 1)) (f.b (s.k + 1)) = .ok next) :
    Rounded f s ⟨[.a (s.k + 1), .b (s.k + 1)], .ok (.inr next)⟩

theorem State.round_of_error {fault : Fault} (radix : Number)
    (parts : s.integerParts = .error fault) : s.round radix = .done (.error fault) := by
  unfold State.round
  rw [parts]
  rfl

/-- A state with equal integer parts gives the digit. -/
theorem State.round_of_equal (radix : Number) (parts : s.integerParts = .ok (d, d)) :
    s.round radix = .done ((s.scale radix).map fun next => .inl (d, next)) := by
  unfold State.round
  rw [parts]
  change (if d = d then _ else _) = _
  rw [if_pos rfl]
  cases s.scale radix <;> rfl

/-- A state with unequal integer parts asks for the next term. -/
theorem State.round_of_undecided {x y : Int} (radix : Number)
    (parts : s.integerParts = .ok (x, y)) (undecided : x ≠ y) :
    s.round radix = .ask (.a (s.k + 1)) fun a => .ask (.b (s.k + 1)) fun b =>
      .done ((s.absorb a b).map .inr) := by
  unfold State.round
  rw [parts]
  change (if x = y then _ else _) = _
  rw [if_neg undecided]
  refine congrArg (Query.ask (.a (s.k + 1))) (funext fun a => ?_)
  refine congrArg (Query.ask (.b (s.k + 1))) (funext fun b => ?_)
  change Query.bind (.done (s.absorb a b)) (fun next => .done (.ok (Sum.inr next))) = _
  cases s.absorb a b <;> rfl

/-- An undecided round takes in a term that is within the limit. -/
theorem run_round_of_available {x y : Int} (parts : s.integerParts = .ok (x, y))
    (undecided : x ≠ y) (available : s.k + 1 ≤ f.limit) :
    (s.round f.radix).run f.ask =
      ⟨[.a (s.k + 1), .b (s.k + 1)],
        (s.absorb (f.a (s.k + 1)) (f.b (s.k + 1))).map .inr⟩ := by
  have first : f.ask (.a (s.k + 1)) = .ok (f.a (s.k + 1)) := ask_eq_ok available
  have second : f.ask (.b (s.k + 1)) = .ok (f.b (s.k + 1)) := ask_eq_ok available
  rw [State.round_of_undecided f.radix parts undecided, Query.run_of_ok first,
    Query.run_of_ok second]
  rfl

/-- An undecided round is refused a term that is beyond the limit. -/
theorem run_round_of_missing {x y : Int} (parts : s.integerParts = .ok (x, y))
    (undecided : x ≠ y) (missing : ¬ s.k + 1 ≤ f.limit) :
    (s.round f.radix).run f.ask =
      ⟨[.a (s.k + 1)], .error (.termLimit (s.k + 1) f.limit)⟩ := by
  have refusal : f.ask (.a (s.k + 1)) = .error (.termLimit (s.k + 1) f.limit) :=
    ask_eq_error missing
  rw [State.round_of_undecided f.radix parts undecided, Query.run_of_error refusal]

/-- A round does one of six things. -/
theorem rounded (f : ContinuedFraction) (s : State) :
    Rounded f s ((s.round f.radix).run f.ask) := by
  cases parts : s.integerParts with
  | error fault =>
    rw [State.round_of_error f.radix parts]
    exact .failed parts
  | ok whole =>
    obtain ⟨x, y⟩ := whole
    by_cases undecided : x = y
    · subst undecided
      rw [State.round_of_equal f.radix parts]
      cases scaled : s.scale f.radix with
      | error fault => exact .unscaled parts scaled
      | ok next => exact .digit parts scaled
    · by_cases available : s.k + 1 ≤ f.limit
      · rw [run_round_of_available parts undecided available]
        cases absorbed : s.absorb (f.a (s.k + 1)) (f.b (s.k + 1)) with
        | error fault => exact .unabsorbed parts undecided available absorbed
        | ok next => exact .absorbed parts undecided available absorbed
      · rw [run_round_of_missing parts undecided available]
        exact .refused parts undecided available

/-! ## The search -/

/-- A round that takes in a term is followed by a search from the next state. -/
def goOn (f : ContinuedFraction) : Int × State ⊕ State → Asking (Int × State)
  | .inl found => ⟨[], .ok found⟩
  | .inr next => f.asking next

/-- A search is a round and the search after it. -/
theorem search_eq (f : ContinuedFraction) (left : Nat) (s : State) :
    f.search left s = (s.round f.radix).bind fun
      | .inl found => .done (.ok found)
      | .inr next =>
        match left with
        | 0 => .done (.error (.termLimit (next.k + 1) f.limit))
        | left + 1 => f.search left next := by
  cases left <;> rfl

/-- The bound on the rounds leaves the search its way: a round that goes on has asked for a
term within the limit. -/
theorem asking_eq (f : ContinuedFraction) (s : State) :
    f.asking s = ((s.round f.radix).run f.ask).bind f.goOn := by
  unfold asking
  rw [search_eq, Query.run_bind]
  have done := rounded f s
  generalize (s.round f.radix).run f.ask = first at done
  cases done with
  | failed | unscaled | digit | refused | unabsorbed => rfl
  | @absorbed x y next parts undecided available absorbed =>
    have reached := State.absorb_k absorbed
    have more : (f.limit - s.k).toNat = (f.limit - next.k).toNat + 1 := by omega
    rw [more]
    rfl

/-- What holds of a state if it holds of the states with one term more within the limit,
holds of every state. -/
theorem induction_on_rounds {motive : State → Prop}
    (round : ∀ s, (∀ next : State, next.k = s.k + 1 → s.k + 1 ≤ f.limit → motive next) → motive s)
    (s : State) : motive s := by
  refine round s fun next reached available => ?_
  exact induction_on_rounds round next
termination_by (f.limit - s.k).toNat
decreasing_by omega

/-- Two fractions that answer the requests of a search alike search alike. -/
theorem asking_congr (radix : g.radix = f.radix) (s : State)
    (same : ∀ t ∈ (f.asking s).requests, g.ask t = f.ask t) : g.asking s = f.asking s := by
  induction s using induction_on_rounds (f := f) with
  | round s ih =>
    rw [asking_eq] at same
    have first : (s.round g.radix).run g.ask = (s.round f.radix).run f.ask := by
      rw [radix]
      exact Query.run_congr _ fun t asked => same t (Asking.mem_requests_bind asked)
    rw [asking_eq, asking_eq, first]
    have done := rounded f s
    generalize (s.round f.radix).run f.ask = first at done same
    cases done with
    | failed | unscaled | digit | refused | unabsorbed => rfl
    | @absorbed x y next parts undecided available absorbed =>
      rw [Asking.bind_of_ok rfl] at same
      have later := ih next (State.absorb_k absorbed) available
        fun t asked => same t (List.mem_append_right _ asked)
      rw [Asking.bind_of_ok rfl, Asking.bind_of_ok rfl, goOn, goOn, later]

section Rounds

variable {x y : Int}

theorem nextDigit_of_error {fault : Fault} (parts : s.integerParts = .error fault) :
    f.nextDigit s = .error fault := by
  rw [nextDigit, asking_eq, State.round_of_error f.radix parts]
  rfl

theorem nextDigit_of_scaled (parts : s.integerParts = .ok (d, d))
    (scaled : s.scale f.radix = .ok next) : f.nextDigit s = .ok (d, next) := by
  rw [nextDigit, asking_eq, State.round_of_equal f.radix parts, scaled]
  rfl

theorem nextDigit_of_missing (parts : s.integerParts = .ok (x, y)) (undecided : x ≠ y)
    (missing : ¬ s.k + 1 ≤ f.limit) : f.nextDigit s = .error (.termLimit (s.k + 1) f.limit) := by
  rw [nextDigit, asking_eq, run_round_of_missing parts undecided missing]
  rfl

/-- Every round of the search goes on like a search from the next state. -/
theorem nextDigit_of_absorbed (parts : s.integerParts = .ok (x, y)) (undecided : x ≠ y)
    (available : s.k + 1 ≤ f.limit)
    (absorbed : s.absorb (f.a (s.k + 1)) (f.b (s.k + 1)) = .ok next) :
    f.nextDigit s = f.nextDigit next := by
  rw [nextDigit, asking_eq, run_round_of_available parts undecided available, absorbed]
  rfl

end Rounds

/-! ## Pulls -/

theorem next_running (f : ContinuedFraction) (s : State) :
    (Stream.running s).next f = ((f.asking s).requests, (f.nextDigit s).mapError .fault) := rfl

/-- A pull from a stream under way. -/
theorem pull_running (f : ContinuedFraction) (s : State) :
    (Stream.running s).pull f =
      match f.nextDigit s with
      | .ok (d, next) => (.ok d, .running next)
      | .error fault => (.error (.fault fault), .finished) := by
  unfold Stream.pull
  rw [next_running]
  cases f.nextDigit s <;> rfl

theorem pull_running_of_ok (found : f.nextDigit s = .ok (d, next)) :
    (Stream.running s).pull f = (.ok d, .running next) := by
  rw [pull_running, found]

theorem pull_running_of_error {fault : Fault} (failed : f.nextDigit s = .error fault) :
    (Stream.running s).pull f = (.error (.fault fault), .finished) := by
  rw [pull_running, failed]

/-- A fresh stream goes on like one that stands at the first state. -/
theorem next_fresh_of_ok (begun : f.initial = .ok s) :
    Stream.fresh.next f =
      (f.starting.requests ++ (f.asking s).requests, (f.nextDigit s).mapError .fault) := by
  rw [Stream.next, Asking.bind_of_ok begun]
  rfl

theorem next_fresh_of_error {fault : Fault} (failed : f.initial = .error fault) :
    Stream.fresh.next f = (f.starting.requests, .error (.fault fault)) := by
  rw [Stream.next, Asking.bind_of_error failed]
  rfl

theorem pull_fresh_of_ok (begun : f.initial = .ok s) :
    Stream.fresh.pull f = (Stream.running s).pull f := by
  unfold Stream.pull
  rw [next_fresh_of_ok begun, next_running]

theorem pull_fresh_of_error {fault : Fault} (failed : f.initial = .error fault) :
    Stream.fresh.pull f = (.error (.fault fault), .finished) := by
  unfold Stream.pull
  rw [next_fresh_of_error failed]

/-! ## Searches without a bound -/

/-- The search from a state finds a digit and the state after it, at the cost of this
many terms. -/
inductive Finds (f : ContinuedFraction) : Nat → State → Int → State → Prop
  | emit {s next : State} {d : Int} (parts : s.integerParts = .ok (d, d))
    (scaled : s.scale f.radix = .ok next) : Finds f 0 s d next
  | absorb {count : Nat} {s after next : State} {x y d : Int}
    (parts : s.integerParts = .ok (x, y)) (undecided : x ≠ y)
    (absorbed : s.absorb (f.a (s.k + 1)) (f.b (s.k + 1)) = .ok after)
    (finds : Finds f count after d next) : Finds f (count + 1) s d next

/-- The index of the state counts the terms taken in. -/
theorem Finds.k_eq (finds : Finds f count s d next) : next.k = s.k + count := by
  induction finds with
  | emit parts scaled => exact State.scale_k scaled
  | absorb parts undecided absorbed finds ih =>
    rw [ih, State.absorb_k absorbed]
    omega

/-- A search that can ask for all terms that it needs finds the digit. -/
theorem Finds.nextDigit (finds : Finds f count s d next) (available : next.k ≤ f.limit) :
    f.nextDigit s = .ok (d, next) := by
  induction finds with
  | emit parts scaled => exact nextDigit_of_scaled parts scaled
  | absorb parts undecided absorbed finds ih =>
    have last := finds.k_eq
    have reached := State.absorb_k absorbed
    rw [nextDigit_of_absorbed parts undecided (by omega) absorbed]
    exact ih available

/-! ## Terms that are taken in -/

/-- Two fractions of one radix with the same terms up to an index. -/
structure Agree (f g : ContinuedFraction) (last : Nat) : Prop where
  radix : f.radix = g.radix
  a : ∀ k, k ≤ last → f.a k = g.a k
  b : ∀ k, 1 ≤ k → k ≤ last → f.b k = g.b k

theorem agree_limit (f : ContinuedFraction) (limit : Int) (last : Nat) :
    Agree f { f with limit } last :=
  ⟨rfl, fun _ _ => rfl, fun _ _ _ => rfl⟩

/-- A digit that is found is found by every fraction that agrees so far. -/
theorem Finds.agree (finds : Finds f count s d next) (agree : Agree f g next.k) :
    Finds g count s d next := by
  induction finds with
  | emit parts scaled => exact .emit parts (agree.radix ▸ scaled)
  | @absorb count s after next x y d parts undecided absorbed finds ih =>
    have reached : s.k + 1 ≤ next.k := by
      rw [finds.k_eq, State.absorb_k absorbed]
      omega
    rw [agree.a _ reached, agree.b _ (Nat.succ_pos _) reached] at absorbed
    exact .absorb parts undecided absorbed (ih agree)

/-! ## Reachable states -/

/-- The states in which the search for the digit of a position can stand, for a
fraction whose terms never end. -/
inductive Searching (f : ContinuedFraction) : Nat → State → Prop
  | initial {limit : Int} {s : State} (begun : initial { f with limit } = .ok s) : Searching f 0 s
  | absorb {n : Nat} {s after : State} {x y : Int} (searching : Searching f n s)
    (parts : s.integerParts = .ok (x, y)) (undecided : x ≠ y)
    (absorbed : s.absorb (f.a (s.k + 1)) (f.b (s.k + 1)) = .ok after) : Searching f n after
  | emit {n : Nat} {s next : State} {d : Int} (searching : Searching f n s)
    (parts : s.integerParts = .ok (d, d)) (scaled : s.scale f.radix = .ok next) :
    Searching f (n + 1) next

/-- A digit that is found leads from one reachable state to another. -/
theorem Searching.finds (searching : Searching f n s) (finds : Finds f count s d next) :
    Searching f (n + 1) next := by
  induction finds with
  | emit parts scaled => exact .emit searching parts scaled
  | absorb parts undecided absorbed finds ih =>
    exact ih (.absorb searching parts undecided absorbed)

end NumericKernel.ContinuedFraction

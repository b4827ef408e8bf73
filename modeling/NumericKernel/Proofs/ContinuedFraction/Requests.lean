import NumericKernel.Proofs.ContinuedFraction.Tracked

/-!
# The terms that are asked for

A pull notes every term that it asks for, and its answer depends on the answers to these
requests only: a fraction that answers them alike gives the same digits, whatever its other
terms are.

* `takeRequests`: the requests of a run;
* `starting_congr`, `pull_congr`, `take_congr`: nothing but the noted terms matters.
-/

namespace NumericKernel.ContinuedFraction

/-- The requests that taking digits from a stream makes; a finished stream makes none. -/
def takeRequests (f : ContinuedFraction) : Nat → Stream → List Request
  | 0, _ => []
  | count + 1, stream => stream.requests f ++ takeRequests f count (stream.pull f).2

variable {f g : ContinuedFraction}

/-! ## The requests of a pull -/

/-- The first pull asks for what the first state needs, and then for its digit. -/
theorem requests_fresh_of_ok {s : State} (begun : f.initial = .ok s) :
    Stream.fresh.requests f = f.starting.requests ++ (Stream.running s).requests f := by
  rw [Stream.requests, next_fresh_of_ok begun]
  rfl

theorem requests_fresh_of_error {fault : Fault} (failed : f.initial = .error fault) :
    Stream.fresh.requests f = f.starting.requests := by
  rw [Stream.requests, next_fresh_of_error failed]

/-! ## Dependence -/

/-- The first state depends on the terms that it asks for only. -/
theorem starting_congr (same : ∀ t ∈ f.starting.requests, g.ask t = f.ask t) :
    g.starting = f.starting := Query.run_congr _ same

/-- A pull from a stream under way depends on the terms that it asks for only. -/
theorem pull_running_congr (radix : g.radix = f.radix) (s : State)
    (same : ∀ t ∈ (Stream.running s).requests f, g.ask t = f.ask t) :
    (Stream.running s).pull g = (Stream.running s).pull f := by
  have search : g.nextDigit s = f.nextDigit s := congrArg Asking.answer (asking_congr radix s same)
  rw [pull_running, pull_running, search]

/-- A pull depends on the terms that it asks for only. -/
theorem pull_congr (radix : g.radix = f.radix) (stream : Stream)
    (same : ∀ t ∈ stream.requests f, g.ask t = f.ask t) : stream.pull g = stream.pull f := by
  cases stream with
  | fresh =>
    cases begun : f.initial with
    | error fault =>
      rw [requests_fresh_of_error begun] at same
      have failed : g.initial = .error fault :=
        (congrArg Asking.answer (starting_congr same)).trans begun
      rw [pull_fresh_of_error begun, pull_fresh_of_error failed]
    | ok s =>
      rw [requests_fresh_of_ok begun, List.forall_mem_append] at same
      have started : g.initial = .ok s :=
        (congrArg Asking.answer (starting_congr same.1)).trans begun
      rw [pull_fresh_of_ok begun, pull_fresh_of_ok started]
      exact pull_running_congr radix s same.2
  | running s => exact pull_running_congr radix s same
  | finished => rfl

/-- A run depends on the terms that it asks for only. -/
theorem take_congr (radix : g.radix = f.radix) (count : Nat) (stream : Stream)
    (same : ∀ t ∈ f.takeRequests count stream, g.ask t = f.ask t) :
    stream.take g count = stream.take f count := by
  induction count generalizing stream with
  | zero => rfl
  | succ count ih =>
    unfold takeRequests at same
    rw [List.forall_mem_append] at same
    have now := pull_congr radix stream same.1
    have later := ih (stream.pull f).2 same.2
    unfold Stream.take
    rw [now]
    generalize stream.pull f = answer at later ⊢
    rcases answer with ⟨ending | d, next⟩
    · rfl
    · dsimp only at later ⊢
      rw [later]

end NumericKernel.ContinuedFraction

import Mathlib.Data.List.Nodup
import NumericKernel.Proofs.ContinuedFraction.Digits
import NumericKernel.Proofs.ContinuedFraction.Requests

/-!
# What a run depends on

A stream asks for the terms in one fixed order, each at most once, and a term that is
refused ends its run.  So two fractions with the same terms up to an index have the same
digits as long as no term beyond it is needed, and a higher limit on the terms does no
more than to let a run go on.

* `take_upTo`: the order of the requests;
* `take_within`: a refused request ends the run;
* `take_of_agree`, `take_of_le_limit`, `take_prefix_of_le_limit`: two runs compared;
* `take_depends`: all of it for the runs of a fraction.
-/

namespace NumericKernel.ContinuedFraction

variable {f g : ContinuedFraction}

/-! ## The order of the requests -/

namespace Request

/-- The request at a place of the order `a 0`, `a 1`, `b 1`, `a 2`, `b 2`, … -/
def inOrder : Nat → Request
  | 0 => .a 0
  | i + 1 => if i % 2 = 0 then .a (i / 2 + 1) else .b (i / 2 + 1)

/-- The first requests of the order. -/
def upTo (n : Nat) : List Request := (List.range n).map inOrder

end Request

open Request (upTo)

theorem inOrder_odd (k : Nat) : Request.inOrder (2 * k + 1) = .a (k + 1) := by
  have even : 2 * k % 2 = 0 := by omega
  have half : 2 * k / 2 = k := by omega
  rw [Request.inOrder, if_pos even, half]

theorem inOrder_even (k : Nat) : Request.inOrder (2 * k + 1 + 1) = .b (k + 1) := by
  have odd : ¬ (2 * k + 1) % 2 = 0 := by omega
  have half : (2 * k + 1) / 2 = k := by omega
  rw [Request.inOrder, if_neg odd, half]

theorem upTo_succ (n : Nat) : upTo (n + 1) = upTo n ++ [Request.inOrder n] := by
  rw [upTo, List.range_succ, List.map_append]
  rfl

/-- A state that holds the term of an index has asked for the two terms of each index up
to it, and for one at the start. -/
def askedAt (k : Nat) : Nat := 2 * k + 1

/-- A round asks for the next two terms in order. -/
theorem upTo_round (k : Nat) (rest : List Request) :
    upTo (askedAt k) ++ .a (k + 1) :: .b (k + 1) :: rest = upTo (askedAt (k + 1)) ++ rest := by
  have next : askedAt (k + 1) = askedAt k + 1 + 1 := by
    unfold askedAt
    omega
  rw [next, upTo_succ, upTo_succ, askedAt, inOrder_odd, inOrder_even]
  simp

/-- A search for a digit asks for terms in order, from where its state stands. -/
theorem asking_upTo (f : ContinuedFraction) (s : State) :
    ∃ n, upTo (askedAt s.k) ++ (f.asking s).requests = upTo n ∧
      ∀ d next, f.nextDigit s = .ok (d, next) → n = askedAt next.k := by
  induction s using induction_on_rounds (f := f) with
  | round s ih =>
    have done := rounded f s
    unfold nextDigit
    rw [asking_eq]
    generalize (s.round f.radix).run f.ask = first at done
    cases done with
    | failed | unscaled => exact ⟨_, List.append_nil _, nofun⟩
    | @digit d next parts scaled =>
      refine ⟨_, List.append_nil _, fun d last found => ?_⟩
      cases found
      rw [State.scale_k scaled]
    | refused =>
      refine ⟨askedAt s.k + 1, ?_, nofun⟩
      rw [upTo_succ, askedAt, inOrder_odd]
      rfl
    | unabsorbed => exact ⟨_, (upTo_round s.k []).trans (List.append_nil _), nofun⟩
    | @absorbed x y next parts undecided available absorbed =>
      have reached := State.absorb_k absorbed
      obtain ⟨n, asked, last⟩ := ih next reached available
      rw [reached] at asked
      exact ⟨n, (upTo_round s.k _).trans asked, last⟩

/-- A stream has asked for the first terms of the order, this many; what a finished one
has asked for is of no more account. -/
def Asked : Stream → Nat → Prop
  | .fresh, n => n = 0
  | .running s, n => n = askedAt s.k
  | .finished, _ => True

/-- A pull from a stream under way asks for terms in order. -/
theorem pull_running_upTo (f : ContinuedFraction) (s : State) :
    ∃ n, upTo (askedAt s.k) ++ (Stream.running s).requests f = upTo n ∧
      Asked ((Stream.running s).pull f).2 n := by
  obtain ⟨n, asked, last⟩ := asking_upTo f s
  refine ⟨n, asked, ?_⟩
  rw [pull_running]
  cases answer : f.nextDigit s with
  | error fault => trivial
  | ok found =>
    obtain ⟨d, next⟩ := found
    exact last d next answer

/-- The first state asks for terms in order. -/
theorem starting_upTo (f : ContinuedFraction) : ∃ n, f.starting.requests = upTo n ∧
    ∀ s, f.initial = .ok s → n = askedAt s.k := by
  by_cases available : 1 ≤ f.limit
  · rw [initial, starting_of_le available]
    refine ⟨3, rfl, fun s begun => ?_⟩
    cases begun
    rfl
  · obtain ⟨k, small, -, started⟩ := exists_starting available
    rw [initial, started]
    have order : (List.range (k + 1)).map Request.a = upTo (k + 1) := by
      obtain rfl | rfl := Nat.le_one_iff_eq_zero_or_eq_one.1 small <;> rfl
    exact ⟨k + 1, order, fun s begun => by cases begun⟩

/-- A pull asks for terms in order. -/
theorem pull_upTo {stream : Stream} {n : Nat} (asked : Asked stream n) :
    ∃ more, upTo n ++ stream.requests f = upTo more ∧ Asked (stream.pull f).2 more := by
  cases stream with
  | fresh =>
    obtain rfl : n = 0 := asked
    obtain ⟨first, requests, start⟩ := starting_upTo f
    cases begun : f.initial with
    | error fault =>
      rw [requests_fresh_of_error begun, pull_fresh_of_error begun]
      exact ⟨first, requests, trivial⟩
    | ok s =>
      obtain ⟨more, further, stands⟩ := pull_running_upTo f s
      rw [requests_fresh_of_ok begun, pull_fresh_of_ok begun, requests, start s begun]
      exact ⟨more, further, stands⟩
  | running s =>
    obtain rfl : n = askedAt s.k := asked
    exact pull_running_upTo f s
  | finished => exact ⟨n, List.append_nil _, trivial⟩

/-- A pull that fails finishes the stream. -/
theorem finished_of_pull_error {stream next : Stream} {ending : Ending}
    (pulled : stream.pull f = (.error ending, next)) : next = .finished := by
  unfold Stream.pull at pulled
  split at pulled
  · cases pulled
  · cases pulled
    rfl

/-- A stream goes on asking in the order, from where it stands. -/
theorem take_upTo (f : ContinuedFraction) (count : Nat) {stream : Stream} {n : Nat}
    (asked : Asked stream n) :
    ∃ more, upTo n ++ f.takeRequests count stream = upTo more ∧
      Asked (stream.take f count).2.2 more := by
  induction count generalizing stream n with
  | zero => exact ⟨n, List.append_nil _, asked⟩
  | succ count ih =>
    obtain ⟨middle, now, stands⟩ := pull_upTo (f := f) asked
    obtain ⟨more, later, last⟩ := ih stands
    refine ⟨more, ?_, ?_⟩
    · rw [takeRequests, ← List.append_assoc, now, later]
    · unfold Stream.take
      rcases pulled : stream.pull f with ⟨ending | d, next⟩
      · rw [finished_of_pull_error pulled]
        trivial
      · rw [pulled] at last
        exact last

theorem takeRequests_fresh (f : ContinuedFraction) (count : Nat) :
    ∃ n, f.takeRequests count .fresh = upTo n ∧ Asked (Stream.fresh.take f count).2.2 n := by
  have nothing : Asked .fresh 0 := rfl
  exact take_upTo f count nothing

/-! ## Requests that are refused -/

/-- A request is within the terms, or it is refused and ends the computation. -/
theorem Query.index_le_or_refused {α : Type} (q : Query α) {t : Request}
    (asked : t ∈ (q.run f.ask).requests) :
    t.index ≤ f.limit ∨ (q.run f.ask).answer = .error (.termLimit t.index f.limit) := by
  induction q with
  | done result => cases asked
  | ask first go ih =>
    by_cases available : first.index ≤ f.limit
    · rw [run_of_ok (ask_eq_ok available)] at asked ⊢
      rcases List.mem_cons.1 asked with rfl | later
      · exact .inl available
      · exact ih _ later
    · rw [run_of_error (ask_eq_error available)] at asked ⊢
      obtain rfl := List.mem_singleton.1 asked
      exact .inr rfl

theorem asking_within {s : State} {t : Request} (asked : t ∈ (f.asking s).requests) :
    t.index ≤ f.limit ∨ f.nextDigit s = .error (.termLimit t.index f.limit) :=
  Query.index_le_or_refused _ asked

theorem starting_within {t : Request} (asked : t ∈ f.starting.requests) :
    t.index ≤ f.limit ∨ f.initial = .error (.termLimit t.index f.limit) :=
  Query.index_le_or_refused _ asked

/-- A pull under way that asks beyond the limit is refused. -/
theorem pull_running_within {s : State} {t : Request}
    (asked : t ∈ (Stream.running s).requests f) :
    t.index ≤ f.limit ∨
      (Stream.running s).pull f = (.error (.fault (.termLimit t.index f.limit)), .finished) := by
  rcases asking_within asked with available | refused
  · exact .inl available
  · exact .inr (pull_running_of_error refused)

/-- A pull that asks beyond the limit is refused. -/
theorem pull_within {stream : Stream} {t : Request} (asked : t ∈ stream.requests f) :
    t.index ≤ f.limit ∨
      stream.pull f = (.error (.fault (.termLimit t.index f.limit)), .finished) := by
  cases stream with
  | fresh =>
    cases begun : f.initial with
    | error fault =>
      rw [requests_fresh_of_error begun] at asked
      rw [pull_fresh_of_error begun]
      rcases starting_within asked with available | refused
      · exact .inl available
      · rw [begun] at refused
        cases refused
        exact .inr rfl
    | ok s =>
      rw [requests_fresh_of_ok begun, List.mem_append] at asked
      rw [pull_fresh_of_ok begun]
      rcases asked with first | later
      · rcases starting_within first with available | refused
        · exact .inl available
        · rw [begun] at refused
          cases refused
      · exact pull_running_within later
  | running s => exact pull_running_within asked
  | finished => cases asked

theorem takeRequests_finished (f : ContinuedFraction) (count : Nat) :
    f.takeRequests count .finished = [] := by
  induction count with
  | zero => rfl
  | succ count ih => exact ih

/-- A request of a run is within the terms, or it is refused and ends the run. -/
theorem take_within {count : Nat} {stream : Stream} {t : Request}
    (asked : t ∈ f.takeRequests count stream) :
    t.index ≤ f.limit ∨
      (stream.take f count).2.1 = some (.fault (.termLimit t.index f.limit)) := by
  induction count generalizing stream with
  | zero => cases asked
  | succ count ih =>
    rw [takeRequests, List.mem_append] at asked
    unfold Stream.take
    rcases asked with now | later
    · rcases pull_within now with available | refused
      · exact .inl available
      · rw [refused]
        exact .inr rfl
    · rcases pulled : stream.pull f with ⟨ending | d, next⟩
      · rw [pulled, finished_of_pull_error pulled, takeRequests_finished] at later
        cases later
      · rw [pulled] at later
        exact ih later

/-! ## Runs -/

/-- The place of a term in the order in which terms are asked for. -/
def Request.place : Request → Nat
  | .a k => 2 * k - 1
  | .b k => 2 * k

/-- A request in order has its place. -/
theorem Request.place_inOrder (i : Nat) : (inOrder i).place = i := by
  cases i with
  | zero => rfl
  | succ i =>
    rw [inOrder]
    split_ifs with even
    · change 2 * (i / 2 + 1) - 1 = i + 1
      omega
    · change 2 * (i / 2 + 1) = i + 1
      omega

theorem Request.inOrder_injective : Function.Injective inOrder :=
  Function.LeftInverse.injective place_inOrder

theorem Request.nodup_upTo (n : Nat) : (upTo n).Nodup :=
  List.nodup_range.map Request.inOrder_injective

/-- The requests up to a convergent are for terms up to its index. -/
theorem mem_upTo_askedAt {t : Request} {n : Nat} (asked : t ∈ upTo (askedAt n)) :
    t.index ≤ n ∧ t ≠ .b 0 := by
  obtain ⟨i, before, rfl⟩ := List.mem_map.1 asked
  rw [List.mem_range, askedAt] at before
  cases i with
  | zero => exact ⟨Nat.zero_le n, fun same => nomatch same⟩
  | succ i =>
    have low : i / 2 + 1 ≤ n := by omega
    rw [Request.inOrder]
    split_ifs
    · exact ⟨low, fun same => nomatch same⟩
    · exact ⟨low, fun same => nomatch same⟩

/-- Fractions that agree up to an index have the same terms up to it. -/
theorem term_of_agree {t : Request} {K n : Nat} (agree : Agree f g K) (within : n ≤ K)
    (asked : t ∈ upTo (askedAt n)) : g.term t = f.term t := by
  obtain ⟨low, later⟩ := mem_upTo_askedAt asked
  cases t with
  | a k => exact (agree.a k (low.trans within)).symm
  | b k =>
    have positive : 1 ≤ k := Nat.one_le_iff_ne_zero.2 fun zero => later (congrArg _ zero)
    exact (agree.b k positive (low.trans within)).symm

/-- Runs agree as long as the terms do. -/
theorem take_of_agree {K count : Nat} (agree : Agree f g K) {ds : List Int} {s : State}
    (run : Stream.fresh.take f count = (ds, none, .running s)) (within : s.k ≤ K)
    (available : s.k ≤ g.limit) : Stream.fresh.take g count = (ds, none, .running s) := by
  obtain ⟨n, requests, last⟩ := takeRequests_fresh f count
  rw [run] at last
  obtain rfl : n = askedAt s.k := last
  rw [← run]
  apply take_congr agree.radix.symm
  intro t asked
  have place : t ∈ upTo (askedAt s.k) := requests ▸ asked
  have known := take_within asked
  rw [run] at known
  have left : t.index ≤ f.limit := known.resolve_right fun same => nomatch same
  have low := (mem_upTo_askedAt place).1
  rw [ask_eq_ok left, ask_eq_ok (show (t.index : Int) ≤ g.limit by omega),
    term_of_agree agree within place]

theorem ask_limit {limit : Int} (more : f.limit ≤ limit) {t : Request}
    (available : t.index ≤ f.limit) : ask { f with limit } t = f.ask t := by
  rw [ask_eq_ok available, ask_eq_ok (f := { f with limit }) (available.trans more)]
  cases t <;> rfl

/-- A run that is not ended by the limit is the same with a higher one. -/
theorem take_of_le_limit {limit : Int} (more : f.limit ≤ limit) {count : Nat} {stream : Stream}
    (inside : ∀ k, (stream.take f count).2.1 ≠ some (.fault (.termLimit k f.limit))) :
    stream.take { f with limit } count = stream.take f count := by
  apply take_congr (g := { f with limit }) (f := f) rfl
  intro t asked
  exact ask_limit more ((take_within asked).resolve_right (inside t.index))

/-- A digit is pulled under every higher limit. -/
theorem pull_of_le_limit {limit : Int} (more : f.limit ≤ limit) {stream next : Stream} {d : Int}
    (pulled : stream.pull f = (.ok d, next)) :
    stream.pull { f with limit } = (.ok d, next) := by
  rw [← pulled]
  apply pull_congr (g := { f with limit }) (f := f) rfl
  intro t asked
  rcases pull_within asked with available | refused
  · exact ask_limit more available
  · rw [pulled] at refused
    cases refused

/-- A higher limit keeps the digits of a run. -/
theorem take_prefix_of_le_limit {limit : Int} (more : f.limit ≤ limit) (count : Nat)
    (stream : Stream) :
    (stream.take f count).1 <+: (stream.take { f with limit } count).1 := by
  induction count generalizing stream with
  | zero => exact List.prefix_rfl
  | succ count ih =>
    unfold Stream.take
    rcases pulled : stream.pull f with ⟨ending | d, next⟩
    · exact List.nil_prefix
    · rw [pull_of_le_limit more pulled]
      exact List.cons_prefix_cons.2 ⟨rfl, ih next⟩

/-- A stream asks for the terms in their order, each at most once; a term beyond the limit
is refused and ends the run, and the run depends on the answers to its requests only.  A
fraction with the same terms up to an index has the same digits and states as long as the
index of the state is no higher.  A higher limit on the terms keeps all digits of a run, and
the whole answer of a run that the limit has not ended. -/
theorem take_depends (f : ContinuedFraction) (count : Nat) :
    ((∀ s, (f.asking s).answer = f.nextDigit s) ∧
      (∃ n, f.takeRequests count .fresh = upTo n) ∧ (f.takeRequests count .fresh).Nodup ∧
      (∀ t ∈ f.takeRequests count .fresh, t.index ≤ f.limit ∨
        (Stream.fresh.take f count).2.1 = some (.fault (.termLimit t.index f.limit))) ∧
      ∀ g : ContinuedFraction, g.radix = f.radix →
        (∀ t ∈ f.takeRequests count .fresh, g.ask t = f.ask t) →
        Stream.fresh.take g count = Stream.fresh.take f count) ∧
    (∀ (g : ContinuedFraction) (K : Nat) (ds : List Int) (s : State), Agree f g K →
      Stream.fresh.take f count = (ds, none, .running s) → s.k ≤ K → s.k ≤ g.limit →
      Stream.fresh.take g count = (ds, none, .running s)) ∧
    ∀ limit, f.limit ≤ limit →
      (Stream.fresh.take f count).1 <+: (Stream.fresh.take { f with limit } count).1 ∧
      ((∀ k, (Stream.fresh.take f count).2.1 ≠ some (.fault (.termLimit k f.limit))) →
        Stream.fresh.take { f with limit } count = Stream.fresh.take f count) := by
  obtain ⟨n, requests, -⟩ := takeRequests_fresh f count
  refine ⟨⟨fun _ => rfl, ⟨n, requests⟩, requests ▸ Request.nodup_upTo n,
    fun t asked => take_within asked, fun g radix same => take_congr radix count .fresh same⟩,
    fun g K ds s agree run within available => take_of_agree agree run within available,
    fun limit more => ⟨take_prefix_of_le_limit more count .fresh, take_of_le_limit more⟩⟩

/-- The square root of two up to the fifth partial denominator, then something else. -/
def nearRootTwo : ContinuedFraction where
  a := fun k => if k ≤ 5 then rootTwo.a k else 7
  b := rootTwo.b
  limit := 20

theorem agree_nearRootTwo : Agree rootTwo nearRootTwo 5 where
  radix := rfl
  a := fun _ low => (if_pos low).symm
  b := fun _ _ _ => rfl

/-- Three digits that both fractions have. -/
theorem take_depends_nearRootTwo :
    ∃ s, Stream.fresh.take rootTwo 3 = ([1, 4, 1], none, .running s) ∧
      Stream.fresh.take nearRootTwo 3 = ([1, 4, 1], none, .running s) := by
  have run : Stream.fresh.take rootTwo 3 = ([1, 4, 1], none, _) := rfl
  exact ⟨_, run, (take_depends rootTwo 3).2.1 nearRootTwo 5 _ _ agree_nearRootTwo run
    (by decide) (by decide)⟩

end NumericKernel.ContinuedFraction

import NumericKernel.Prime.Cache

/-!
# How a prime cache grows

The rule and the first part of a cache fix one infinite sequence.  The cache holds its
first terms, whatever it is asked and in whichever order, and a request changes no more
than their number:

* `extendOnce_holds`, `grow_holds`: an extension appends the next terms;
* `serve_holds`, `served`: what a request leaves behind and what it answers;
* `log_spans`, `log_eq`: what the reports of a series of requests add up to;
* `history_holds_sequence`: all of it, for every series of requests to a fresh cache.
-/

namespace NumericKernel.Prime

/-- The terms of a first part, then those that a rule gives, each for the one before. -/
def sequence (rule : Int → Int) (seed : List Int) : Nat → Int
  | 0 => seed.headD 0
  | i + 1 => if inside : i + 1 < seed.length then seed[i + 1] else rule (sequence rule seed i)

variable {rule : Int → Int} {seed : List Int}

theorem sequence_of_lt {i : Nat} (inside : i < seed.length) : sequence rule seed i = seed[i] := by
  cases i with
  | zero =>
    cases seed with
    | nil => exact absurd inside (Nat.not_lt_zero 0)
    | cons first rest => rfl
  | succ i =>
    rw [sequence, dif_pos inside]

theorem sequence_of_le (nonempty : seed ≠ []) {i : Nat} (beyond : seed.length ≤ i) :
    sequence rule seed i = rule (sequence rule seed (i - 1)) := by
  cases i with
  | zero => exact absurd (List.eq_nil_of_length_eq_zero (Nat.le_zero.1 beyond)) nonempty
  | succ i =>
    rw [sequence, dif_neg (by omega), Nat.add_sub_cancel]

namespace Cache

/-! ## The terms that are held -/

/-- The cache goes on by the rule and holds terms of the sequence, the whole first part
among them. -/
structure Holds (rule : Int → Int) (seed : List Int) (c : Cache) : Prop where
  rule_eq : c.successor = rule
  seeded : seed.length ≤ c.size
  get?_table : ∀ i, i < c.size → c.table.get? i = some (sequence rule seed i)

variable {c : Cache}

theorem get?_table_eq_entry {i : Nat} (inside : i < c.size) :
    c.table.get? i = some (c.entry i inside) :=
  c.table.get?_eq_some_get ((c.mem_keys_iff i).2 inside)

theorem isSome_get?_table_iff (i : Nat) : (c.table.get? i).isSome ↔ i < c.size := by
  rw [Dictionary.isSome_get?_iff, mem_keys_iff]

theorem Holds.entry_eq (holds : Holds rule seed c) {i : Nat} (inside : i < c.size) :
    c.entry i inside = sequence rule seed i := by
  have present := holds.get?_table i inside
  rw [get?_table_eq_entry inside] at present
  exact Option.some.inj present

/-- The entries of a cache are the first terms of the sequence. -/
theorem Holds.entries_eq (holds : Holds rule seed c) :
    c.entries = (List.range c.size).map (sequence rule seed) := by
  apply List.ext_getElem
  · simp [entries]
  · intro i inside _
    simp only [entries, List.length_ofFn] at inside
    simp [entries, holds.entry_eq inside]

/-- A fresh cache holds the seed. -/
theorem ofSeed_holds (nonempty : seed ≠ []) (rule : Int → Int) (exclusive : Bool) :
    ∃ fresh, ofSeed rule seed exclusive = .ok fresh ∧ Holds rule seed fresh ∧
      fresh.size = seed.length := by
  have size : (Dictionary.ofList seed).size = seed.length := Dictionary.size_ofList seed
  refine ⟨_, dif_neg nonempty, ⟨rfl, Nat.le_of_eq size.symm, fun i inside => ?_⟩, size⟩
  have inside : i < seed.length := size ▸ inside
  rw [sequence_of_lt inside]
  exact (Dictionary.get?_ofList seed i).trans (List.getElem?_eq_getElem inside)

/-- The last term that is held yields the next one; the earlier ones stay. -/
theorem extendOnce_holds (holds : Holds rule seed c) (nonempty : seed ≠ []) :
    Holds rule seed c.extendOnce := by
  refine ⟨holds.rule_eq, ?_, fun i inside => ?_⟩
  · rw [size_extendOnce]
    exact Nat.le_succ_of_le holds.seeded
  · have absent : c.size ∉ c.table.keys := by simp [mem_keys_iff]
    refine (c.table.get?_insertIfNew absent _ i).trans ?_
    rw [size_extendOnce] at inside
    by_cases last : i = c.size
    · rw [if_pos last, holds.entry_eq, holds.rule_eq, last, sequence_of_le nonempty holds.seeded]
    · rw [if_neg last]
      exact holds.get?_table i (by omega)

/-- A cache that grows holds the terms of the same sequence. -/
theorem grow_holds (holds : Holds rule seed c) (nonempty : seed ≠ []) (index : Int) :
    Holds rule seed (c.grow index) := by
  fun_induction grow c index with
  | case1 c short ih => exact ih (extendOnce_holds holds nonempty)
  | case2 c long => exact holds

theorem grow_of_lt {index : Int} (long : index < c.size) : c.grow index = c := by
  rw [grow, if_neg (by omega)]

/-- A cache that stays as it is has no growth to report. -/
theorem growth?_self (c : Cache) : c.growth? c = none := if_neg (Nat.lt_irrefl _)

/-! ## Requests -/

theorem serve_get_of_neg (c : Cache) {index : Int} (negative : index < 0) :
    c.serve (.get index) = ⟨.refused (.negativePrimeIndex index), none, c⟩ := by
  unfold serve get
  dsimp only
  rw [dif_pos negative]

/-- An entry is looked up before the cache is extended for it; the answer is the entry
of the extended cache in both cases. -/
theorem Holds.get_eq (holds : Holds rule seed c) (nonempty : seed ≠ []) {index : Int}
    (nonneg : 0 ≤ index) :
    c.get index = (.ok (sequence rule seed index.toNat), c.extendTo index) := by
  unfold get
  rw [dif_neg (by omega)]
  by_cases inside : index.toNat < c.size
  · have here : c.extendTo index = (none, c) := by
      rw [extendTo, grow_of_lt (by omega), growth?_self]
    rw [holds.get?_table _ inside, here]
  · have absent : c.table.get? index.toNat = none := by
      rw [← Option.not_isSome_iff_eq_none, isSome_get?_table_iff]
      exact inside
    rw [absent]
    exact congrArg (fun entry => (Except.ok entry, c.extendTo index))
      ((grow_holds holds nonempty index).entry_eq _)

/-- A request for an index is answered with the term, and the cache grows up to it. -/
theorem Holds.serve_get (holds : Holds rule seed c) (nonempty : seed ≠ []) {index : Int}
    (nonneg : 0 ≤ index) :
    c.serve (.get index) =
      ⟨.entry (sequence rule seed index.toNat), c.growth? (c.grow index), c.grow index⟩ := by
  unfold serve
  dsimp only
  rw [holds.get_eq nonempty nonneg, extendTo]

/-- What a request to a cache of a sequence answers, with the growth that it reports and the
cache after it. -/
inductive Served (term : Nat → Int) (c : Cache) : Request → Answer → Prop
  | entry {index : Int} {next : Cache} (nonneg : 0 ≤ index)
    (size : next.size = max c.size (index.toNat + 1)) :
    Served term c (.get index) ⟨.entry (term index.toNat), c.growth? next, next⟩
  | refused {index : Int} (negative : index < 0) :
    Served term c (.get index) ⟨.refused (.negativePrimeIndex index), none, c⟩
  | extended {index : Int} {next : Cache} (nonneg : 0 ≤ index)
    (size : next.size = max c.size (index.toNat + 1)) :
    Served term c (.extendTo index) ⟨.done, c.growth? next, next⟩
  | unneeded {index : Int} (negative : index < 0) : Served term c (.extendTo index) ⟨.done, none, c⟩
  | size : Served term c .size ⟨.size c.size, none, c⟩
  | snapshot : Served term c .snapshot ⟨.entries ((List.range c.size).map term), none, c⟩
  | exclusive : Served term c .exclusive ⟨.exclusive c.exclusive, none, c⟩

theorem size_grow_of_nonneg {index : Int} (nonneg : 0 ≤ index) :
    (c.grow index).size = max c.size (index.toNat + 1) := by
  rw [size_grow]
  omega

/-- Every request is served as it is meant to be. -/
theorem Holds.served (holds : Holds rule seed c) (nonempty : seed ≠ []) (request : Request) :
    Served (sequence rule seed) c request (c.serve request) := by
  cases request with
  | get index =>
    rcases Int.lt_or_le index 0 with negative | nonneg
    · rw [serve_get_of_neg c negative]
      exact .refused negative
    · rw [holds.serve_get nonempty nonneg]
      exact .entry nonneg (size_grow_of_nonneg nonneg)
  | extendTo index =>
    rw [serve, extendTo]
    rcases Int.lt_or_le index 0 with negative | nonneg
    · rw [grow_of_lt (by omega), growth?_self]
      exact .unneeded negative
    · exact .extended nonneg (size_grow_of_nonneg nonneg)
  | size => exact .size
  | snapshot =>
    rw [serve, holds.entries_eq]
    exact .snapshot
  | exclusive => exact .exclusive

/-- Every request leaves a cache that holds the terms of the same sequence. -/
theorem serve_holds (holds : Holds rule seed c) (nonempty : seed ≠ []) (request : Request) :
    Holds rule seed (c.serve request).cache := by
  cases request with
  | get index =>
    rcases Int.lt_or_le index 0 with negative | nonneg
    · rw [serve_get_of_neg c negative]
      exact holds
    · rw [holds.serve_get nonempty nonneg]
      exact grow_holds holds nonempty index
  | extendTo index => exact grow_holds holds nonempty index
  | size => exact holds
  | snapshot => exact holds
  | exclusive => exact holds

section Served

variable {term : Nat → Int} {request : Request} {answer : Answer}

theorem Served.size_le (served : Served term c request answer) : c.size ≤ answer.cache.size := by
  cases served with
  | entry nonneg size => exact size ▸ Nat.le_max_left _ _
  | extended nonneg size => exact size ▸ Nat.le_max_left _ _
  | refused | unneeded | size | snapshot | exclusive => exact Nat.le_refl _

/-- A request reports the growth from the cache before it to the cache after it. -/
theorem Served.growth_eq (served : Served term c request answer) :
    answer.growth = c.growth? answer.cache := by
  cases served with
  | entry | extended => rfl
  | refused | unneeded | size | snapshot | exclusive => exact c.growth?_self.symm

end Served

/-- Of two caches of one sequence the smaller one shows a first part of the larger one. -/
theorem Holds.entries_prefix {d : Cache} (earlier : Holds rule seed c) (later : Holds rule seed d)
    (grown : c.size ≤ d.size) : c.entries <+: d.entries := by
  rw [earlier.entries_eq, later.entries_eq]
  obtain ⟨more, size⟩ := Nat.exists_eq_add_of_le grown
  rw [size, List.range_add, List.map_append]
  exact List.prefix_append _ _

/-! ## Runs -/

/-- The caches of a series of requests, the first one before it and the last one after it. -/
def history (c : Cache) (requests : List Request) : List Cache :=
  c :: (c.run requests).map Answer.cache

theorem history_cons (c : Cache) (request : Request) (rest : List Request) :
    c.history (request :: rest) = c :: (c.serve request).cache.history rest := rfl

/-- Every cache of a history holds the terms of the same sequence. -/
theorem history_holds (holds : Holds rule seed c) (nonempty : seed ≠ []) (requests : List Request)
    {d : Cache} (member : d ∈ c.history requests) : Holds rule seed d := by
  induction requests generalizing c with
  | nil =>
    obtain rfl : d = c := List.mem_singleton.1 member
    exact holds
  | cons request rest ih =>
    rw [history_cons] at member
    rcases List.mem_cons.1 member with rfl | later
    · exact holds
    · exact ih (serve_holds holds nonempty request) later

/-! ## Reports -/

/-- The reports lead from one size to another, each from where the last one ended. -/
inductive Spans : Nat → List Growth → Nat → Prop
  | still (size : Nat) : Spans size [] size
  | grown {before after last : Nat} {rest : List Growth} (grows : before < after)
    (spans : Spans after rest last) : Spans before (⟨before, after⟩ :: rest) last

/-- A log begins with the growth that the first request brings. -/
theorem log_cons (c : Cache) (request : Request) (rest : List Request) :
    c.log (request :: rest) =
      (c.serve request).growth.toList ++ (c.serve request).cache.log rest := by
  unfold log
  rw [run, List.filterMap_cons]
  cases (c.serve request).growth <;> rfl

/-- The growths of a log follow one on the other, from the first size to the last. -/
theorem log_spans (holds : Holds rule seed c) (nonempty : seed ≠ []) (requests : List Request) :
    ∃ last, (c.history requests).getLast? = some last ∧ Spans c.size (c.log requests) last.size := by
  induction requests generalizing c with
  | nil => exact ⟨c, rfl, .still c.size⟩
  | cons request rest ih =>
    obtain ⟨last, ends, spans⟩ := ih (serve_holds holds nonempty request)
    refine ⟨last, ?_, ?_⟩
    · rw [history_cons]
      exact List.getLast?_cons_cons.trans ends
    · have grown := (holds.served nonempty request).size_le
      rw [log_cons, (holds.served nonempty request).growth_eq, growth?]
      by_cases grows : c.size < (c.serve request).cache.size
      · rw [if_pos grows]
        exact .grown grows spans
      · rw [if_neg grows, Nat.le_antisymm grown (Nat.le_of_not_lt grows)]
        exact spans

/-- A log is the growths from one cache of a history to the next. -/
theorem log_eq (holds : Holds rule seed c) (nonempty : seed ≠ []) (requests : List Request) :
    c.log requests = ((c.history requests).zip (c.history requests).tail).filterMap
      fun step => step.1.growth? step.2 := by
  induction requests generalizing c with
  | nil => rfl
  | cons request rest ih =>
    have later := ih (serve_holds holds nonempty request)
    have first : (c.history (request :: rest)).zip (c.history (request :: rest)).tail =
        (c, (c.serve request).cache) ::
          ((c.serve request).cache.history rest).zip
            ((c.serve request).cache.history rest).tail := rfl
    rw [log_cons, (holds.served nonempty request).growth_eq, later, first, List.filterMap_cons]
    cases c.growth? (c.serve request).cache with
    | none => rfl
    | some growth => rfl

/-- Whatever a fresh cache is asked, it holds the first terms of one sequence under the
indices below its size.  Each request answers from that sequence, leaves what is held and
extends it no further than it has to; the reports of all requests lead from the size of
the first part to the last size, one for each request that the cache grows by. -/
theorem history_holds_sequence (rule : Int → Int) {seed : List Int} (nonempty : seed ≠ [])
    (exclusive : Bool) :
    ∃ fresh, ofSeed rule seed exclusive = .ok fresh ∧ ∃ term : Nat → Int,
      (∀ i (inside : i < seed.length), term i = seed[i]) ∧
      (∀ i, seed.length ≤ i → term i = rule (term (i - 1))) ∧
      ∀ requests,
        (∀ c ∈ fresh.history requests,
          c.table.keys = List.range c.size ∧
          (∀ i, i < c.size → c.table.get? i = some (term i)) ∧
          ∀ request, Served term c request (c.serve request) ∧
            c.entries <+: (c.serve request).cache.entries) ∧
        (∃ last, (fresh.history requests).getLast? = some last ∧
          Spans seed.length (fresh.log requests) last.size) ∧
        fresh.log requests = ((fresh.history requests).zip (fresh.history requests).tail).filterMap
          fun step => step.1.growth? step.2 := by
  obtain ⟨fresh, seeded, start, size⟩ := ofSeed_holds nonempty rule exclusive
  refine ⟨fresh, seeded, sequence rule seed, fun i inside => sequence_of_lt inside,
    fun i beyond => sequence_of_le nonempty beyond, fun requests => ⟨?_, ?_, ?_⟩⟩
  · intro c member
    have holds := history_holds start nonempty requests member
    refine ⟨c.keys_eq, holds.get?_table, fun request => ?_⟩
    have served := holds.served nonempty request
    exact ⟨served, holds.entries_prefix (serve_holds holds nonempty request) served.size_le⟩
  · rw [← size]
    exact log_spans start nonempty requests
  · exact log_eq start nonempty requests

/-- A cache of doubled numbers from two of them. -/
theorem history_holds_sequence_doubled :
    ∃ fresh, ofSeed (2 * ·) [3, 5] = .ok fresh ∧ ∀ requests, ∀ c ∈ fresh.history requests,
      (c.serve (.get 3)).reply = .entry 20 ∧ (c.serve (.get 3)).cache.size = max c.size 4 := by
  obtain ⟨fresh, seeded, term, first, later, runs⟩ :=
    history_holds_sequence (2 * ·) (List.cons_ne_nil 3 [5]) true
  refine ⟨fresh, seeded, fun requests c member => ?_⟩
  have served := (((runs requests).1 c member).2.2 (.get 3)).1
  have twenty : term 3 = 20 := by
    rw [later 3 (by decide), later 2 (by decide), first 1 (by decide)]
    rfl
  generalize c.serve (.get 3) = answer at served ⊢
  cases served with
  | entry nonneg size => exact ⟨congrArg Reply.entry twenty, size⟩
  | refused negative => exact absurd negative (by decide)

end Cache

end NumericKernel.Prime

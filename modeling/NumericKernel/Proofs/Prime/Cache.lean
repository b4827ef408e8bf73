import NumericKernel.Operation
import NumericKernel.Proofs.Arithmetic.Integer
import NumericKernel.Proofs.Prime.Growth
import NumericKernel.Proofs.Prime.Neighbour

/-!
# What the prime cache holds

A cache that starts at the least prime holds the first primes in their order,
whatever it is asked and in whichever order.  Its size is the only thing that depends
on the requests.

* `sequence_next`: the sequence of the cache is that of the primes;
* `run_filled`: a series of requests keeps the cache filled;
* `run_firstPrimes`: what the requests can see of it.
-/

namespace NumericKernel.Prime

/-! ## The first primes -/

/-- The primes in their order, this many. -/
noncomputable def primeList (count : Nat) : List Int :=
  (List.range count).map fun i => (Nat.nth Nat.Prime i : Int)

/-- The rule leads from one prime to the next, so no prime is passed over. -/
theorem sequence_next (i : Nat) : sequence next [2] i = (Nat.nth Nat.Prime i : Int) := by
  induction i with
  | zero =>
    rw [Nat.nth_prime_zero_eq_two]
    rfl
  | succ i ih =>
    rw [sequence_of_le (List.cons_ne_nil 2 []) (Nat.succ_le_succ i.zero_le), Nat.succ_sub_one,
      ih, next_eq_nextNat, Int.toNat_natCast, nextNat_nth]

/-! ## Filled caches -/

namespace Cache

/-- The cache holds the first primes and goes on with the next ones. -/
abbrev Filled (c : Cache) : Prop := Holds next [2] c

theorem Filled.entries {c : Cache} (filled : Filled c) : c.entries = primeList c.size := by
  rw [filled.entries_eq]
  exact List.map_congr_left fun i _ => sequence_next i

/-! ## Requests -/

/-- The entry at an index is the prime of that index, held already or not. -/
theorem Filled.get_eq {c : Cache} (filled : Filled c) (i : Nat) :
    c.get i = (.ok (Nat.nth Nat.Prime i : Int), c.extendTo i) := by
  rw [Holds.get_eq filled (List.cons_ne_nil 2 []) (Int.natCast_nonneg i), Int.toNat_natCast,
    sequence_next]

/-- A series of requests keeps a cache filled. -/
theorem run_filled {c : Cache} (filled : Filled c) (requests : List Request)
    {answer : Answer} (member : answer ∈ c.run requests) : Filled answer.cache :=
  history_holds filled (List.cons_ne_nil 2 []) requests
    (List.mem_cons_of_mem c (List.mem_map_of_mem member))

/-! ## What can be seen -/

/-- The first primes in ascending order: as many primes are less than each of them as
stand before it. -/
def FirstPrimes (ps : List Int) : Prop :=
  ps.Pairwise (· < ·) ∧
    ∀ i, i < ps.length → ∃ p : Nat, ps[i]? = some (p : Int) ∧ p.Prime ∧ Nat.count Nat.Prime p = i

/-- The first primes ascend without a gap. -/
theorem primeList_firstPrimes (count : Nat) : FirstPrimes (primeList count) := by
  constructor
  · unfold primeList
    rw [List.pairwise_map]
    exact List.pairwise_lt_range.imp fun below =>
      Int.ofNat_lt.2 ((Nat.nth_lt_nth Nat.infinite_setOfPred_prime).2 below)
  · intro i inside
    have present : (primeList count)[i]? = some (Nat.nth Nat.Prime i : Int) := by
      simp only [primeList, List.length_map, List.length_range] at inside
      simp [primeList, inside]
    exact ⟨_, present, Nat.prime_nth_prime i,
      Nat.count_nth_of_infinite Nat.infinite_setOfPred_prime i⟩

/-- A request for an index is answered with the prime of that index. -/
theorem Filled.serve_get {c : Cache} (filled : Filled c) (i : Nat) :
    (c.serve (.get i)).reply = .entry (Nat.nth Nat.Prime i : Int) := by
  rw [Holds.serve_get filled (List.cons_ne_nil 2 []) (Int.natCast_nonneg i), Int.toNat_natCast,
    sequence_next]

theorem Filled.nth_eq {c : Cache} (filled : Filled c) (i : Nat) :
    nth c i = ((Nat.nth Nat.Prime i : Int), c.grow i) := by
  unfold nth
  rw [if_neg (by omega), filled.get_eq, Cache.extendTo]

theorem Filled.grow {c : Cache} (filled : Filled c) (index : Int) : Filled (c.grow index) :=
  grow_holds filled (List.cons_ne_nil 2 []) index

/-- The prime that a filled cache gives for an index, and that it stays filled. -/
theorem Filled.eq_of_nth {c grown : Cache} (filled : Filled c) {i p : Nat}
    (asked : nth c i = ((p : Int), grown)) : p = Nat.nth Nat.Prime i ∧ Filled grown := by
  rw [filled.nth_eq, Prod.mk.injEq, Int.natCast_inj] at asked
  obtain ⟨rfl, rfl⟩ := asked
  exact ⟨rfl, filled.grow i⟩

/-- The call on an index gives the prime of that index. -/
theorem Filled.nthPrime {c : Cache} (filled : Filled c) {v : Value} {i : Nat}
    (operand : v.requireInteger "n" = .ok (i : Int)) :
    (Operation.nthPrime c v).map Prod.fst = .ok (Nat.nth Nat.Prime i : Int) := by
  unfold Operation.nthPrime
  rw [operand, ok_bind, filled.nth_eq]
  rfl

/-- A cache made from the least prime is filled. -/
theorem ofSeed_filled {rule : Int → Int} (prime : rule = Prime.successor ∨ rule = next)
    (exclusive : Bool) : ∃ fresh, ofSeed rule [2] exclusive = .ok fresh ∧ Filled fresh := by
  obtain rfl : rule = next := by
    rcases prime with rfl | rfl
    · exact successor_eq_next
    · rfl
  obtain ⟨fresh, seeded, holds, _⟩ := ofSeed_holds (List.cons_ne_nil 2 []) next exclusive
  exact ⟨fresh, seeded, holds⟩

theorem initial_filled : Filled initial := by
  obtain ⟨fresh, seeded, start⟩ := ofSeed_filled (.inl rfl) true
  obtain rfl : initial = fresh := Except.ok.inj seeded
  exact start

/-- Whatever it has been asked before, the cache of all primes is filled. -/
theorem filled_of_mem_history {requests : List Request} {c : Cache}
    (reached : c ∈ initial.history requests) : Filled c :=
  history_holds initial_filled (List.cons_ne_nil 2 []) requests reached

/-- Whatever a fresh cache has been asked before, it shows the first primes, and the
prime that it gives for an index is the one with that many smaller ones. -/
theorem run_firstPrimes {rule : Int → Int} (prime : rule = Prime.successor ∨ rule = next)
    (exclusive : Bool) :
    ∃ fresh, ofSeed rule [2] exclusive = .ok fresh ∧
      ∀ requests, ∀ c ∈ fresh :: (fresh.run requests).map Answer.cache,
        (∃ ps, (c.serve .snapshot).reply = .entries ps ∧ (c.serve .size).reply = .size ps.length ∧
          FirstPrimes ps) ∧
        ∀ i : Nat, (c.serve (.extendTo i)).cache.size = max c.size (i + 1) ∧
          ∃ p : Nat, p.Prime ∧ Nat.count Nat.Prime p = i ∧
            (c.serve (.get i)).reply = .entry p ∧
            ∀ v : Value, v.requireInteger "n" = .ok (i : Int) →
              (Operation.nthPrime c v).map Prod.fst = .ok (p : Int) := by
  obtain ⟨fresh, seeded, start⟩ := ofSeed_filled prime exclusive
  refine ⟨fresh, seeded, fun requests c reached => ?_⟩
  have filled : Filled c := by
    rcases List.mem_cons.1 reached with rfl | later
    · exact start
    · obtain ⟨answer, member, rfl⟩ := List.mem_map.1 later
      exact run_filled start requests member
  constructor
  · refine ⟨c.entries, rfl, congrArg Reply.size List.length_ofFn.symm, ?_⟩
    rw [filled.entries]
    exact primeList_firstPrimes c.size
  · intro i
    refine ⟨size_grow c i, Nat.nth Nat.Prime i, Nat.prime_nth_prime i,
      Nat.count_nth_of_infinite Nat.infinite_setOfPred_prime i, filled.serve_get i, ?_⟩
    intro v operand
    exact filled.nthPrime operand

/-- The prime of index four, from the cache of the process. -/
theorem run_firstPrimes_initial : ∃ p : Nat, p.Prime ∧ Nat.count Nat.Prime p = 4 ∧
    (Operation.nthPrime initial (4 : Int)).map Prod.fst = .ok (p : Int) := by
  obtain ⟨fresh, seeded, seen⟩ := @run_firstPrimes Prime.successor (.inl rfl) true
  obtain rfl : initial = fresh := Except.ok.inj seeded
  obtain ⟨p, prime, smaller, _, operation⟩ := (seen [] initial List.mem_cons_self).2 4 |>.2
  exact ⟨p, prime, smaller, operation (4 : Int) rfl⟩

end Cache

end NumericKernel.Prime

import NumericKernel.Dictionary
import NumericKernel.Prime.Neighbour

/-!
# The prime cache

A sequence of primes that is extended on demand and never shrinks.  The entries stand
in a dictionary under their indices.  The rule that yields the next entry is a
parameter of the cache, and so is its first part.
-/

namespace NumericKernel.Prime

/-- A growing sequence: its entries and the rule for the next one. -/
structure Cache where
  successor : Int → Int
  table : Dictionary Nat Int
  /-- The keys are the indices below the size. -/
  keys_eq : table.keys = List.range table.size
  nonempty : 0 < table.size
  /-- Whether extensions are to be made one at a time; they agree either way. -/
  exclusive : Bool := true

/-- That a cache has grown. -/
structure Growth where
  before : Nat
  after : Nat
  deriving DecidableEq, Repr

namespace Growth

/-- The wording of a log line. -/
def message (g : Growth) : String :=
  s!"prime cache extended from {g.before} to {g.after} entries"

end Growth

namespace Cache

/-- A cache with a given first part, which must have an entry. -/
def ofSeed (successor : Int → Int) (seed : List Int) (exclusive : Bool := true) : Except Fault Cache :=
  if h : seed = [] then .error .emptySeed
  else .ok {
    successor
    table := .ofList seed
    keys_eq := by simp
    nonempty := by simpa using List.length_pos_iff.2 h
    exclusive }

/-- The cache of all primes, at first holding the least one. -/
def initial : Cache where
  successor := Prime.successor
  table := .ofList [2]
  keys_eq := by simp
  nonempty := by simp

/-- How many entries there are. -/
def size (c : Cache) : Nat := c.table.size

theorem mem_keys_iff (c : Cache) (i : Nat) : i ∈ c.table.keys ↔ i < c.size := by
  rw [c.keys_eq]
  exact List.mem_range

/-- The entry at an index in use. -/
def entry (c : Cache) (i : Nat) (inside : i < c.size) : Int :=
  c.table.get i ((c.mem_keys_iff i).2 inside)

/-- The entries in the order of their indices. -/
def entries (c : Cache) : List Int := List.ofFn fun i : Fin c.size => c.entry i i.isLt

/-- The index after the last one is new, so it is put in at the end. -/
theorem keys_insertIfNew_size (c : Cache) (next : Int) :
    (c.table.insertIfNew c.size next).keys = List.range (c.size + 1) := by
  have absent : c.size ∉ c.table.keys := by simp [mem_keys_iff]
  rw [Dictionary.keys_insertIfNew _ absent, c.keys_eq, List.range_succ]
  rfl

theorem size_insertIfNew_size (c : Cache) (next : Int) :
    (c.table.insertIfNew c.size next).size = c.size + 1 := by
  rw [← Dictionary.length_keys, keys_insertIfNew_size, List.length_range]

/-- The cache with one entry more, by the rule from the last one. -/
def extendOnce (c : Cache) : Cache where
  successor := c.successor
  table := c.table.insertIfNew c.size
    (c.successor (c.entry (c.size - 1) (Nat.sub_lt c.nonempty Nat.one_pos)))
  keys_eq := by rw [keys_insertIfNew_size, size_insertIfNew_size]
  nonempty := by
    rw [size_insertIfNew_size]
    exact Nat.succ_pos _
  exclusive := c.exclusive

theorem size_extendOnce (c : Cache) : c.extendOnce.size = c.size + 1 := c.size_insertIfNew_size _

/-- The cache with an entry at an index, as it is if there is one. -/
def grow (c : Cache) (index : Int) : Cache :=
  if c.size ≤ index then c.extendOnce.grow index else c
termination_by (index + 1 - c.size).toNat
decreasing_by
  rw [size_extendOnce]
  omega

theorem size_grow (c : Cache) (index : Int) : (c.grow index).size = max c.size (index + 1).toNat := by
  fun_induction grow c index with
  | case1 c short ih =>
    rw [ih, size_extendOnce]
    omega
  | case2 c long => omega

theorem lt_size_grow (c : Cache) {index : Int} (nonneg : ¬ index < 0) :
    index.toNat < (c.grow index).size := by
  rw [size_grow]
  omega

/-- The growth from one cache to another, if the other one is larger. -/
def growth? (before after : Cache) : Option Growth :=
  if before.size < after.size then some ⟨before.size, after.size⟩ else none

/-- The cache with an entry at an index, and its growth, which is reported. -/
def extendTo (c : Cache) (index : Int) : Option Growth × Cache :=
  let grown := c.grow index
  (c.growth? grown, grown)

/-- The entry at an index and the cache that holds it.  The growth is reported if the cache
had to be extended for it. -/
def get (c : Cache) (index : Int) : Except Fault Int × Option Growth × Cache :=
  if negative : index < 0 then (.error (.negativePrimeIndex index), none, c)
  else
    match c.table.get? index.toNat with
    | some entry => (.ok entry, none, c)
    | none =>
      (.ok ((c.grow index).entry index.toNat (c.lt_size_grow negative)), c.extendTo index)

/-! ## Requests -/

/-- What a host can ask of a cache. -/
inductive Request where
  | get (index : Int)
  | extendTo (index : Int)
  | size
  | snapshot
  | exclusive

/-- What a host is told. -/
inductive Reply where
  | entry (p : Int)
  | done
  | size (n : Nat)
  | entries (ps : List Int)
  | exclusive (b : Bool)
  | refused (fault : Fault)

/-- What a request gives: the reply, the growth that it reports and the cache after it. -/
structure Answer where
  reply : Reply
  growth : Option Growth
  cache : Cache

/-- The answer to a request. -/
def serve (c : Cache) : Request → Answer
  | .get index =>
    match c.get index with
    | (.ok p, growth, grown) => ⟨.entry p, growth, grown⟩
    | (.error fault, growth, same) => ⟨.refused fault, growth, same⟩
  | .extendTo index =>
    let (growth, grown) := c.extendTo index
    ⟨.done, growth, grown⟩
  | .size => ⟨.size c.size, none, c⟩
  | .snapshot => ⟨.entries c.entries, none, c⟩
  | .exclusive => ⟨.exclusive c.exclusive, none, c⟩

/-- The answers to a series of requests. -/
def run (c : Cache) : List Request → List Answer
  | [] => []
  | request :: rest =>
    let answer := c.serve request
    answer :: run answer.cache rest

/-- The reports of a series of requests, in order. -/
def log (c : Cache) (requests : List Request) : List Growth :=
  (c.run requests).filterMap Answer.growth

end Cache

/-! ## Primes by index -/

/-- The prime at an index, counted from zero; zero for a negative index.  It is
taken from the cache, which may grow by it. -/
def nth (c : Cache) (index : Int) : Int × Cache :=
  if index < 0 then (0, c)
  else
    match c.get index with
    | (.ok p, _, grown) => (p, grown)
    | (.error _, _, same) => (0, same)

/-- The index of the last prime that is not above a bound, counted on from a
prime and its index. -/
def indexFrom (bound : Int) (p index : Nat) : Nat :=
  if successorNat p ≤ bound then indexFrom bound (successorNat p) (index + 1) else index
termination_by (bound - p).toNat
decreasing_by
  have := lt_successorNat p
  omega

/-- The index of the last prime that is not above an integer, or `-1`. -/
def indexOf (bound : Int) : Int :=
  if bound < 2 then -1 else indexFrom bound 2 0

end Prime

namespace Number

/-- The index of the last prime that is not above a number, or `-1`.  A double
that is not a number is not below two, and no prime is below it. -/
def primeIndex (x : Number) : Except Fault Int :=
  match x.value? with
  | none => .ok 0
  | some _ => if x.less (.int 2) then .ok (-1) else do return Prime.indexOf (← x.floor)

end Number

end NumericKernel

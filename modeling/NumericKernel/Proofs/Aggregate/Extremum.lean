import Mathlib.Order.Lattice
import NumericKernel.Aggregate.Extremum
import NumericKernel.Proofs.Aggregate.Leaves
import NumericKernel.Proofs.Arithmetic.Integer
import NumericKernel.Proofs.Coercion.Equality

/-!
# Extrema over the leaves of a tree

An inner sequence is reduced first, to the best of its numbers or to nothing, and enters the
comparison with that.  On integers the choice of the better one is associative, so the nesting
does not matter: the result is that of the leaves in a row, from left to right, and so is the
report of the leaves passed over.

A leaf that is a text with too many digits is neither read nor passed over, and ends both calls.

* `exists_extremum_iff`: when a tree has an outcome at all;
* `extremum_eq`, `extremumFrom_eq`: the recursion gives the best of the integers among the
  leaves, and the other leaves in order;
* `extrema_leaves`: the greatest and the least number of a list nested to any depth.
-/

namespace NumericKernel

namespace Aggregate

variable {c : Coercion} {vs ws : List Value}

/-! ## What the leaves stand for -/

/-- Every value stands for an integer, or for no number at all. -/
def Whole (c : Coercion) (vs : List Value) : Prop :=
  ∀ v ∈ vs, (∃ m : Int, c.toNumber v = .ok (.int m)) ∨ c.toNumber v = .error (.notNumeric v)

/-- The integer that a value stands for. -/
def integer? (c : Coercion) (v : Value) : Option Int :=
  match c.toNumber v with
  | .ok (.int n) => some n
  | _ => none

/-- The values that stand for no number. -/
def passedOver (c : Coercion) (vs : List Value) : List Value :=
  vs.filter fun v => !(c.toNumber v).isOk

theorem passedOver_append (vs ws : List Value) :
    passedOver c (vs ++ ws) = passedOver c vs ++ passedOver c ws := List.filter_append vs ws

/-- A value has the integer that it reads as. -/
theorem integer?_eq_some_iff {v : Value} {n : Int} :
    integer? c v = some n ↔ c.toNumber v = .ok (.int n) := by
  unfold integer?
  split
  case h_1 m reads => simp [reads]
  case h_2 other =>
    refine iff_of_false (Option.some_ne_none n ∘ Eq.symm) fun reads => other n reads

/-- Of values that are integers or no numbers, the others have no integer. -/
theorem Whole.integer?_eq_none_iff (whole : Whole c vs) {v : Value} (mem : v ∈ vs) :
    integer? c v = none ↔ c.toNumber v = .error (.notNumeric v) := by
  rcases whole v mem with ⟨m, reads⟩ | unread
  · simp [integer?, reads]
  · simp [integer?, unread]

theorem Whole.left (whole : Whole c (vs ++ ws)) : Whole c vs :=
  fun v mem => whole v (List.mem_append_left ws mem)

theorem Whole.right (whole : Whole c (vs ++ ws)) : Whole c ws :=
  fun v mem => whole v (List.mem_append_right vs mem)

/-! ## The best of a list of integers -/

section Best

variable {op : Int → Int → Int}

/-- The best of a list of integers, by an operation that picks the better one of two. -/
def best? (op : Int → Int → Int) (ns : List Int) : Option Int :=
  ns.foldr (fun n best => Option.merge op (some n) best) none

/-- The best of two lists is the better of their best. -/
theorem best?_append [Std.Associative op] (ms ns : List Int) :
    best? op (ms ++ ns) = Option.merge op (best? op ms) (best? op ns) := by
  induction ms with
  | nil => exact Option.merge_none_left.symm
  | cons m ms ih =>
    change Option.merge op (some m) (best? op (ms ++ ns)) = _
    rw [ih]
    exact (@Std.Associative.assoc _ (Option.merge op) _ _ _ _).symm

theorem best?_max (ns : List Int) : best? max ns = ns.max? := by
  induction ns with
  | nil => rfl
  | cons n ns ih =>
    rw [List.max?_cons, ← ih]
    cases best : best? max ns <;> simp_all [best?]

theorem best?_min (ns : List Int) : best? min ns = ns.min? := by
  induction ns with
  | nil => rfl
  | cons n ns ih =>
    rw [List.min?_cons, ← ih]
    cases best : best? min ns <;> simp_all [best?]

/-- A comparison of numbers takes the better one of two integers as the operation does. -/
def Picks (better : Number → Number → Bool) (op : Int → Int → Int) : Prop :=
  ∀ m n : Int, choose better (some (.int m)) (.int n) = some (.int (op m n))

theorem picks_max : Picks (fun a b => b.less a) max := by
  intro m n
  simp only [choose, Number.less_int, decide_eq_true_eq]
  split <;> congr 2 <;> omega

theorem picks_min : Picks Number.less min := by
  intro m n
  simp only [choose, Number.less_int, decide_eq_true_eq]
  split <;> congr 2 <;> omega

end Best

/-! ## The recursion over the tree -/

section Recursion

variable {better : Number → Number → Bool} {op : Int → Int → Int}

/-- A running best is compared with the next number as the operation does it. -/
theorem Picks.choose_eq (picks : Picks better op) (best : Option Int) (n : Int) :
    choose better (best.map .int) (.int n) = (Option.merge op best (some n)).map .int := by
  cases best with
  | none => rfl
  | some m => exact picks m n

mutual

/-- A tree gives the best of the integers among its leaves, and its other leaves in order. -/
theorem extremum_eq [Std.Associative op] (picks : Picks better op) (t : Tree)
    (whole : Whole c t.leaves) :
    extremum c better t =
      (.ok ((best? op (t.leaves.filterMap (integer? c))).map .int), passedOver c t.leaves) := by
  cases t with
  | leaf raw =>
    rw [Tree.leaves] at whole ⊢
    rw [extremum]
    rcases whole raw (List.mem_singleton_self raw) with ⟨m, reads⟩ | unread
    · simp [integer?, passedOver, reads, best?, Except.isOk, Except.toBool]
    · simp [integer?, passedOver, unread, best?, Except.isOk, Except.toBool, Fault.kind]
  | seq items =>
    rw [Tree.leaves] at whole ⊢
    have row := extremumFrom_eq picks none items whole
    rw [Option.merge_none_left] at row
    rw [extremum]
    exact row

/-- A sequence goes on with the better one of the best so far and that of its first tree;
a tree without a number leaves the best so far as it is. -/
theorem extremumFrom_eq [Std.Associative op] (picks : Picks better op) (best : Option Int)
    (items : List Tree) (whole : Whole c (Tree.leavesOf items)) :
    extremumFrom c better (best.map .int) items =
      (.ok ((Option.merge op best (best? op ((Tree.leavesOf items).filterMap (integer? c)))).map .int),
        passedOver c (Tree.leavesOf items)) := by
  cases items with
  | nil =>
    rw [extremumFrom, Tree.leavesOf]
    simp [best?, passedOver]
  | cons item rest =>
    rw [Tree.leavesOf] at whole ⊢
    have first := extremum_eq picks item whole.left
    rw [extremumFrom, first, List.filterMap_append, best?_append,
      ← @Std.Associative.assoc _ (Option.merge op), passedOver_append]
    generalize best? op (item.leaves.filterMap (integer? c)) = candidate
    cases candidate with
    | none =>
      rw [Option.merge_none_right]
      exact congrArg (fun r => (r.1, _ ++ r.2)) (extremumFrom_eq picks best rest whole.right)
    | some n =>
      have next := extremumFrom_eq picks (Option.merge op best (some n)) rest whole.right
      rw [← picks.choose_eq] at next
      exact congrArg (fun r => (r.1, _ ++ r.2)) next

end

mutual

/-- A tree has a result just if each of its leaves stands for a number or for none. -/
theorem exists_extremum_iff (t : Tree) : (∃ best, (extremum c better t).1 = .ok best) ↔
    ∀ v ∈ t.leaves, ∀ fault, c.toNumber v = .error fault → fault = .notNumeric v := by
  cases t with
  | leaf raw =>
    rw [extremum, Tree.leaves, List.forall_mem_singleton]
    cases reads : c.toNumber raw with
    | ok n => simp
    | error fault =>
      have kind := Coercion.kind_of_toNumber reads
      by_cases undefined : fault.kind = .undefinedDomain
      · refine iff_of_true ⟨none, ?_⟩ fun other same => Except.error.inj same ▸ kind.1 undefined
        simp only [if_pos undefined]
      · simp [undefined, mt kind.2 undefined]
  | seq items =>
    rw [extremum, Tree.leaves]
    exact exists_extremumFrom_iff none items

/-- The same for the items of a sequence, in the middle of a run. -/
theorem exists_extremumFrom_iff (first : Option Number) (items : List Tree) :
    (∃ best, (extremumFrom c better first items).1 = .ok best) ↔
      ∀ v ∈ Tree.leavesOf items, ∀ fault, c.toNumber v = .error fault → fault = .notNumeric v := by
  cases items with
  | nil => simp [extremumFrom, Tree.leavesOf]
  | cons item rest =>
    have here := exists_extremum_iff item
    rw [Tree.leavesOf, List.forall_mem_append, ← here, extremumFrom]
    cases extremum c better item with
    | mk outcome skipped =>
      cases outcome with
      | error fault => simp
      | ok candidate => simpa using exists_extremumFrom_iff _ rest

end

end Recursion

/-! ## The extrema -/

section Extrema

variable {items : List Tree}

/-- The maximum of a sequence is that of the integers among its leaves. -/
theorem maximum_eq (whole : Whole c (Tree.leavesOf items)) :
    maximum c (.seq items) = (.ok (((Tree.leavesOf items).filterMap (integer? c)).max?.map .int),
      passedOver c (Tree.leavesOf items)) := by
  rw [← best?_max]
  exact extremum_eq picks_max (.seq items) whole

/-- The minimum of a sequence is that of the integers among its leaves. -/
theorem minimum_eq (whole : Whole c (Tree.leavesOf items)) :
    minimum c (.seq items) = (.ok (((Tree.leavesOf items).filterMap (integer? c)).min?.map .int),
      passedOver c (Tree.leavesOf items)) := by
  rw [← best?_min]
  exact extremum_eq picks_min (.seq items) whole

/-- The maximum of a list is that of the integers among its leaves. -/
theorem maximum_ofValue (whole : Whole c (Value.leavesOf vs)) :
    maximum c (.ofValue (.list vs)) =
      (.ok (((Value.leavesOf vs).filterMap (integer? c)).max?.map .int),
        passedOver c (Value.leavesOf vs)) := by
  rw [← Tree.leavesOf_ofValues] at whole ⊢
  exact maximum_eq whole

/-- The minimum of a list is that of the integers among its leaves. -/
theorem minimum_ofValue (whole : Whole c (Value.leavesOf vs)) :
    minimum c (.ofValue (.list vs)) =
      (.ok (((Value.leavesOf vs).filterMap (integer? c)).min?.map .int),
        passedOver c (Value.leavesOf vs)) := by
  rw [← Tree.leavesOf_ofValues] at whole ⊢
  exact minimum_eq whole

theorem mem_integers_iff {m : Int} :
    m ∈ vs.filterMap (integer? c) ↔ ∃ v ∈ vs, c.toNumber v = .ok (.int m) := by
  simp only [List.mem_filterMap, integer?_eq_some_iff]

theorem Whole.integers_eq_nil_iff (whole : Whole c vs) :
    vs.filterMap (integer? c) = [] ↔ ∀ v ∈ vs, c.toNumber v = .error (.notNumeric v) := by
  rw [List.filterMap_eq_nil_iff]
  exact forall₂_congr fun v mem => whole.integer?_eq_none_iff mem

/-- The extrema of a list, nested to any depth, whose leaves stand for integers or for no
number at all: the greatest and the least of all those integers, and none just if there are
none.  Both calls report the leaves that stand for no number, each once and from left to
right, and give the same as for the list of the leaves. -/
theorem extrema_leaves {c : Coercion} {vs leaves : List Value}
    (flat : (Value.list vs).leaves = leaves)
    (whole : ∀ v ∈ leaves,
      (∃ m : Int, c.toNumber v = .ok (.int m)) ∨ c.toNumber v = .error (.notNumeric v)) :
    (∀ m : Int, (maximum c (.ofValue (.list vs))).1 = .ok (some (.int m)) ↔
      (∃ v ∈ leaves, c.toNumber v = .ok (.int m)) ∧
        ∀ v ∈ leaves, ∀ n, c.toNumber v = .ok (.int n) → n ≤ m) ∧
    (∀ m : Int, (minimum c (.ofValue (.list vs))).1 = .ok (some (.int m)) ↔
      (∃ v ∈ leaves, c.toNumber v = .ok (.int m)) ∧
        ∀ v ∈ leaves, ∀ n, c.toNumber v = .ok (.int n) → m ≤ n) ∧
    ((maximum c (.ofValue (.list vs))).1 = .ok none ↔
      ∀ v ∈ leaves, c.toNumber v = .error (.notNumeric v)) ∧
    ((minimum c (.ofValue (.list vs))).1 = .ok none ↔
      ∀ v ∈ leaves, c.toNumber v = .error (.notNumeric v)) ∧
    (∃ best worst : Option Number, (maximum c (.ofValue (.list vs))).1 = .ok best ∧
      (minimum c (.ofValue (.list vs))).1 = .ok worst) ∧
    (maximum c (.ofValue (.list vs))).2 = leaves.filter (fun v => !(c.toNumber v).isOk) ∧
    (minimum c (.ofValue (.list vs))).2 = leaves.filter (fun v => !(c.toNumber v).isOk) ∧
    maximum c (.ofValue (.list vs)) = maximum c (.ofValue (.list leaves)) ∧
    minimum c (.ofValue (.list vs)) = minimum c (.ofValue (.list leaves)) := by
  obtain rfl : Value.leavesOf vs = leaves := flat
  have row : Value.leavesOf (Value.leavesOf vs) = Value.leavesOf vs :=
    Value.leavesOf_eq_self fun v => Value.isIterable_of_mem_leavesOf vs
  rw [maximum_ofValue whole, minimum_ofValue whole, maximum_ofValue (row.symm ▸ whole),
    minimum_ofValue (row.symm ▸ whole), row]
  have inj : Function.Injective Number.int := fun _ _ same => Number.int.inj same
  refine ⟨fun m => ?_, fun m => ?_, ?_, ?_, ⟨_, _, rfl, rfl⟩, rfl, rfl, rfl, rfl⟩
  · rw [Except.ok.injEq, ← Option.map_some, (Option.map_injective inj).eq_iff, List.max?_eq_some_iff]
    simp only [mem_integers_iff]
    exact and_congr_right fun _ => ⟨fun greatest v mem n reads => greatest n ⟨v, mem, reads⟩,
      fun greatest n ⟨v, mem, reads⟩ => greatest v mem n reads⟩
  · rw [Except.ok.injEq, ← Option.map_some, (Option.map_injective inj).eq_iff, List.min?_eq_some_iff]
    simp only [mem_integers_iff]
    exact and_congr_right fun _ => ⟨fun least v mem n reads => least n ⟨v, mem, reads⟩,
      fun least n ⟨v, mem, reads⟩ => least v mem n reads⟩
  · rw [Except.ok.injEq, Option.map_eq_none_iff, List.max?_eq_none_iff, Whole.integers_eq_nil_iff whole]
  · rw [Except.ok.injEq, Option.map_eq_none_iff, List.min?_eq_none_iff, Whole.integers_eq_nil_iff whole]

/-- Past an empty list, one without numbers and a text that stands for none. -/
theorem extrema_leaves_nested :
    let v : Value := .list [.list [], .text "3", .list [.null], .list [.list [.text "ten"]], .text "x"]
    (maximum Coercion.withWords (.ofValue v)).1 = .ok (some (.int 10)) ∧
    (minimum Coercion.withWords (.ofValue v)).1 = .ok (some (.int 3)) ∧
    (maximum Coercion.withWords (.ofValue v)).2 = [.null, .text "x"] := by
  have three : Coercion.withWords.toNumber (.text "3") = .ok (.int 3) := rfl
  have ten : Coercion.withWords.toNumber (.text "ten") = .ok (.int 10) := rfl
  have other : Coercion.withWords.toNumber (.text "x") = .error (.notNumeric (.text "x")) := rfl
  have reads : ∀ v ∈ [.text "3", .null, .text "ten", .text "x"],
      (∃ m : Int, Coercion.withWords.toNumber v = .ok (.int m) ∧ 3 ≤ m ∧ m ≤ 10) ∨
        Coercion.withWords.toNumber v = .error (.notNumeric v) := by
    simp only [List.forall_mem_cons]
    exact ⟨.inl ⟨3, three, by decide⟩, .inr rfl, .inl ⟨10, ten, by decide⟩, .inr other,
      List.forall_mem_nil _⟩
  have bounds (v : Value) (mem : v ∈ [.text "3", .null, .text "ten", .text "x"]) (n : Int)
      (found : Coercion.withWords.toNumber v = .ok (.int n)) : 3 ≤ n ∧ n ≤ 10 := by
    rcases reads v mem with ⟨m, same, bounds⟩ | unread
    · rwa [Number.int.inj (Except.ok.inj (found.symm.trans same))]
    · cases found.symm.trans unread
  obtain ⟨greatest, least, -, -, -, report, -⟩ := @extrema_leaves Coercion.withWords
    [.list [], .text "3", .list [.null], .list [.list [.text "ten"]], .text "x"]
    [.text "3", .null, .text "ten", .text "x"] rfl
    fun v mem => (reads v mem).imp_left fun ⟨m, found, _⟩ => ⟨m, found⟩
  refine ⟨(greatest 10).2 ⟨⟨.text "ten", by simp, ten⟩, ?_⟩,
    (least 3).2 ⟨⟨.text "3", by simp, three⟩, ?_⟩, report⟩
  · exact fun v mem n found => (bounds v mem n found).2
  · exact fun v mem n found => (bounds v mem n found).1

end Extrema

end Aggregate

end NumericKernel

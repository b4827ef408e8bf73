import NumericKernel.Coercion
import NumericKernel.Tree

/-!
# Leaves of values and of their trees

An aggregate is taken of the tree that is built of a value.  The builder keeps every value that
is no list, in its place, and makes a sequence of every list, so what is said of the leaves of
the tree is said of the value:

* `Tree.ofValue_list`: the tree of a list is the sequence of the trees of its items;
* `Tree.leaves_ofValue`: the leaves of the tree are the values in the value that are no lists;
* `Tree.ofValue_list_of_flat`: the tree of a list without lists in it;
* `Tree.row_ofValue`: the tree of a row of a table.
-/

namespace NumericKernel

open Coercion (isIterable)

/-! ## Leaves of values -/

namespace Value

mutual

/-- The values in a value that are no lists, at any depth, from left to right. -/
def leaves : Value → List Value
  | .list items => leavesOf items
  | v => [v]

/-- The leaves of a list of values. -/
def leavesOf : List Value → List Value
  | [] => []
  | v :: rest => v.leaves ++ leavesOf rest

end

theorem leaves_of_scalar {v : Value} (scalar : isIterable v = false) : v.leaves = [v] := by
  cases v with
  | list items => cases scalar
  | _ => rfl

mutual

theorem isIterable_of_mem_leaves (v : Value) {w : Value} (leaf : w ∈ v.leaves) :
    isIterable w = false := by
  cases v with
  | list items => exact isIterable_of_mem_leavesOf items leaf
  | _ => exact List.mem_singleton.1 leaf ▸ rfl

/-- A leaf of values is no list. -/
theorem isIterable_of_mem_leavesOf (vs : List Value) {w : Value} (leaf : w ∈ leavesOf vs) :
    isIterable w = false := by
  cases vs with
  | nil => cases leaf
  | cons v rest =>
    exact (List.mem_append.1 leaf).elim (isIterable_of_mem_leaves v) (isIterable_of_mem_leavesOf rest)

end

/-- The leaves of a list without lists in it are its items. -/
theorem leavesOf_eq_self {vs : List Value} (flat : ∀ v ∈ vs, isIterable v = false) :
    leavesOf vs = vs := by
  induction vs with
  | nil => rfl
  | cons v rest ih =>
    obtain ⟨scalar, flat⟩ := List.forall_mem_cons.1 flat
    rw [leavesOf, leaves_of_scalar scalar, ih flat, List.singleton_append]

/-! ## Rows of values -/

/-- A value as a row of a table; a value that is no list is a row of one. -/
def row : Value → List Value
  | .list items => items
  | v => [v]

/-- The column of a table at a position: the items there, of the rows that are long enough. -/
def column (vs : List Value) (position : Nat) : List Value :=
  vs.filterMap fun v => v.row[position]?

mutual

/-- How deeply a value is nested. -/
def depth : Value → Nat
  | .list items => depthOf items + 1
  | _ => 0

/-- How deeply the deepest one of a list of values is nested. -/
def depthOf : List Value → Nat
  | [] => 0
  | v :: rest => max v.depth (depthOf rest)

end

end Value

namespace Tree

/-! ## Leaves of trees -/

mutual

/-- The leaves of a tree, from left to right. -/
def leaves : Tree → List Value
  | .leaf raw => [raw]
  | .seq items => leavesOf items

/-- The leaves of a sequence of trees. -/
def leavesOf : List Tree → List Value
  | [] => []
  | item :: rest => item.leaves ++ leavesOf rest

end

theorem leavesOf_map_leaf (vs : List Value) : leavesOf (vs.map .leaf) = vs := by
  induction vs with
  | nil => rfl
  | cons v vs ih => rw [List.map_cons, leavesOf, leaves, ih, List.singleton_append]

/-! ## Trees of values -/

theorem ofValues_eq_map (vs : List Value) : ofValues vs = vs.map ofValue := by
  induction vs with
  | nil => rfl
  | cons v vs ih => rw [ofValues, ih, List.map_cons]

/-- The tree of a list is the sequence of the trees of its items. -/
theorem ofValue_list (vs : List Value) : ofValue (.list vs) = .seq (vs.map ofValue) := by
  rw [ofValue, ofValues_eq_map]

/-- The tree of a value that is no list is a leaf, with the value as it was given. -/
theorem ofValue_of_scalar {v : Value} (scalar : isIterable v = false) : ofValue v = .leaf v := by
  cases v with
  | list items => cases scalar
  | _ => rfl

mutual

/-- The leaves of the tree of a value are the leaves of the value. -/
theorem leaves_ofValue (v : Value) : (ofValue v).leaves = v.leaves := by
  cases v with
  | list items => exact leavesOf_ofValues items
  | _ => rfl

theorem leavesOf_ofValues (vs : List Value) : leavesOf (ofValues vs) = Value.leavesOf vs := by
  cases vs with
  | nil => rfl
  | cons v rest =>
    rw [ofValues, leavesOf, Value.leavesOf, leaves_ofValue v, leavesOf_ofValues rest]

end

/-- The tree of a list without lists in it is a sequence of leaves. -/
theorem ofValue_list_of_flat {vs : List Value} (flat : ∀ v ∈ vs, isIterable v = false) :
    ofValue (.list vs) = .seq (vs.map .leaf) := by
  rw [ofValue_list, List.map_congr_left fun v mem => ofValue_of_scalar (flat v mem)]

/-- The tree of a value is a row as the value is. -/
theorem row_ofValue (v : Value) : (ofValue v).row = v.row.map ofValue := by
  cases v with
  | list items => rw [ofValue_list, row, Value.row]
  | _ => rfl

theorem ofValue_eq_nil_iff {v : Value} : ofValue v = .seq [] ↔ v = .list [] := by
  cases v with
  | list items => simp [ofValue_list]
  | _ => simp [ofValue]

theorem ofValue_eq_leaf_iff {v raw : Value} (scalar : isIterable raw = false) :
    ofValue v = .leaf raw ↔ v = raw := by
  refine ⟨fun same => ?_, fun same => same ▸ ofValue_of_scalar (same ▸ scalar)⟩
  cases v with
  | list items => cases same
  | _ => exact Tree.leaf.inj same

end Tree

end NumericKernel

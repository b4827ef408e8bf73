import NumericKernel.Display

/-!
# Value trees

A nested sequence as a tree: lists become inner nodes, all other values leaves,
which keep the value as it was given.  Values and trees may be nested to any depth, and a
recursion over them goes as deep: no bound is set to the calls inside calls.
-/

namespace NumericKernel

/-- A leaf with its value, or a sequence of trees. -/
inductive Tree where
  | leaf (raw : Value)
  | seq (items : List Tree)

namespace Tree

instance : Inhabited Tree := ⟨.seq []⟩

mutual

/-- The tree of a value. -/
def ofValue : Value → Tree
  | .list items => .seq (ofValues items)
  | v => .leaf v

/-- The trees of a list of values. -/
def ofValues : List Value → List Tree
  | [] => []
  | v :: rest => ofValue v :: ofValues rest

end

/-- The items to aggregate over: those of a sequence, or the characters of the
text of a leaf. -/
def items : Tree → Except Fault (List Tree)
  | .seq items => .ok items
  | .leaf raw => do return (← raw.characters).map .leaf

/-- The first one of the items of a sequence. -/
def head : List Tree → Except Fault Tree
  | [] => .error .headOfNothing
  | first :: _ => .ok first

/-- A tree as a row of a table; a leaf is a row of one. -/
def row : Tree → List Tree
  | .seq items => items
  | .leaf raw => [.leaf raw]

end Tree

end NumericKernel

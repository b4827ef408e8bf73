import NumericKernel.Coercion
import NumericKernel.Tree

/-!
# Arithmetic means

The mean of a flat sequence is a number.  A sequence that starts with a sequence
is a table, whose rows may differ in length; its mean is the list of the means of
its columns.
-/

namespace NumericKernel.Aggregate

/-- The length of the longest row. -/
def width (items : List Tree) : Nat := items.foldr (fun t longest => max t.row.length longest) 0

/-- The column at a position: the items there, of the rows that are long enough. -/
def column (items : List Tree) (position : Nat) : List Tree :=
  items.filterMap fun t => t.row[position]?

/-- An item of a row weighs no more than the row, and less if the row is a sequence. -/
theorem sizeOf_row_get {t u : Tree} {position : Nat} (h : t.row[position]? = some u) :
    sizeOf u ≤ sizeOf t := by
  cases t with
  | leaf raw =>
    simp only [Tree.row, List.getElem?_singleton] at h
    split at h
    · cases h; exact Nat.le_refl _
    · cases h
  | seq items =>
    have := List.sizeOf_lt_of_mem (List.mem_of_getElem? h)
    simp only [Tree.row, Tree.seq.sizeOf_spec] at *
    omega

/-- A column is no larger than the table it is taken from. -/
theorem sizeOf_column_le (items : List Tree) (position : Nat) :
    sizeOf (column items position) ≤ sizeOf items := by
  induction items with
  | nil => exact Nat.le_refl _
  | cons t rest ih =>
    unfold column at *
    rw [List.filterMap_cons]
    split
    · simp only [List.cons.sizeOf_spec]; omega
    · rename_i found
      have := sizeOf_row_get found
      simp only [List.cons.sizeOf_spec]
      omega

/-- The columns of a table that starts with a sequence weigh less than the table. -/
theorem sizeOf_column_lt (inner rest : List Tree) (position : Nat) :
    sizeOf (column (.seq inner :: rest) position) < sizeOf (Tree.seq inner :: rest) := by
  have later := sizeOf_column_le rest position
  unfold column at *
  rw [List.filterMap_cons]
  split
  · simp only [List.cons.sizeOf_spec, Tree.seq.sizeOf_spec]; omega
  · rename_i found
    have := List.sizeOf_lt_of_mem (List.mem_of_getElem? found)
    simp only [Tree.row, List.cons.sizeOf_spec, Tree.seq.sizeOf_spec] at *
    omega

/-- The sum of the leaves, added to a first number from left to right. -/
def sumFrom (c : Coercion) (first : Number) : List Tree → Except Fault Number
  | [] => .ok first
  | .seq _ :: _ => .error .meanOfMixedRows
  | .leaf raw :: rest => do sumFrom c (← first.add (← c.toNumber raw)) rest

/-- The mean of the items of a sequence: of all of them, or of each column of a table. -/
def meanOf (c : Coercion) : List Tree → Except Fault Value
  | [] => .error .meanOfNothing
  | .seq inner :: rest => do
    let means ← (List.range (width (.seq inner :: rest))).mapM fun position =>
      meanOf c (column (.seq inner :: rest) position)
    return .list means
  | .leaf raw :: rest => do
    let sum ← sumFrom c (.int 0) (.leaf raw :: rest)
    return .number (.real (← sum.ratio (.int (rest.length + 1))))
termination_by items => sizeOf items
decreasing_by exact sizeOf_column_lt inner rest position

/-- The mean of the items of a tree. -/
def mean (c : Coercion) (t : Tree) : Except Fault Value := do meanOf c (← t.items)

end NumericKernel.Aggregate

import NumericKernel.Coercion
import NumericKernel.Tree

/-!
# Medians

The middle one of the numbers in order, or the mean of the two in the middle.
-/

namespace NumericKernel.Aggregate

/-- The number of an item, which must not be a sequence. -/
def leafNumber (c : Coercion) : Tree → Except Fault Number
  | .seq _ => .error .medianOfNested
  | .leaf raw => c.toNumber raw

/-- The numbers in ascending order; equal ones stay as they stand. -/
def ascending (numbers : List Number) : List Number :=
  numbers.mergeSort fun a b => !b.less a

/-- The median of a tree; an empty one has the empty list for its median. -/
def median (c : Coercion) (t : Tree) : Except Fault Value := do
  let numbers ← (← t.items).mapM (leafNumber c)
  let ordered := ascending numbers
  let middle := ordered.length / 2
  if ordered.isEmpty then
    return .list []
  else if ordered.length % 2 = 0 then
    let sum ← (ordered.getD (middle - 1) (.int 0)).add (ordered.getD middle (.int 0))
    return .number (.real (← sum.ratio (.int 2)))
  else
    return .number (ordered.getD middle (.int 0))

end NumericKernel.Aggregate

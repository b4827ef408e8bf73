import NumericKernel.Number.Operations

/-!
# Linear recurrences

The sequences of Fibonacci and Lucas: each number is the sum of the two before it.
-/

namespace NumericKernel

namespace Recurrence

/-- The number at an index of the sequence that starts with `a` and `b`. -/
def term (a b : Nat) : Nat → Nat
  | 0 => a
  | n + 1 => term b (a + b) n

/-- The number at an index that has to be a natural. -/
def termAt (name : String) (a b : Nat) (index : Int) : Except Fault Nat :=
  if index < 0 then .error (.negativeSequenceIndex name index) else .ok (term a b index.toNat)

end Recurrence

/-- The Fibonacci numbers `0, 1, 1, 2, 3, …`. -/
def fibonacci (index : Int) : Except Fault Nat := Recurrence.termAt "fibonacci" 0 1 index

/-- The Lucas numbers `2, 1, 3, 4, 7, …`. -/
def lucas (index : Int) : Except Fault Nat := Recurrence.termAt "lucas" 2 1 index

end NumericKernel

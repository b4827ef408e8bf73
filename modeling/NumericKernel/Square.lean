/-!
# Perfect squares

Newton's iteration for the square root, on integers and from above.  Next to a root that
is not exact it may go to and fro between two values, so the values are kept, and the
iteration ends where one of them comes again.
-/

namespace NumericKernel.Square

/-- The value of the iteration after `x`. -/
def next (n x : Nat) : Nat := (x + n / x) / 2

/-! ## Values that have not come yet -/

/-- How many values up to a bound are not among those that have come. -/
def unmet (bound : Nat) (met : List Nat) : Nat :=
  (List.range (bound + 1)).countP (· ∉ met)

/-- No value is beyond the number and the value before it. -/
theorem next_le (n x : Nat) : next n x ≤ max n x := by
  have quotient := Nat.div_le_self n x
  unfold next
  omega

/-- Meeting a value that has not come yet leaves fewer to come. -/
theorem unmet_cons_lt {bound lower x : Nat} {met : List Nat} (lower_le : lower ≤ bound)
    (low : x ≤ bound) (fresh : x ∉ met) : unmet lower (x :: met) < unmet bound met := by
  have within : unmet lower (x :: met) ≤ unmet bound (x :: met) :=
    (List.range_sublist.2 (Nat.succ_le_succ lower_le)).countP_le
  have left : (List.range (bound + 1)).filter (· ∉ x :: met) =
      ((List.range (bound + 1)).filter (· ∉ met)).filter (· ≠ x) := by
    rw [List.filter_filter]
    refine List.filter_congr fun y _ => ?_
    simp [not_or]
  have fewer : unmet bound (x :: met) < unmet bound met := by
    unfold unmet
    rw [List.countP_eq_length_filter, List.countP_eq_length_filter, left,
      List.length_filter_lt_length_iff_exists]
    have counted : x ∈ List.range (bound + 1) := List.mem_range.2 (Nat.lt_succ_of_le low)
    exact ⟨x, List.mem_filter.2 ⟨counted, decide_eq_true fresh⟩, by simp⟩
  exact Nat.lt_of_le_of_lt within fewer

/-! ## The iteration -/

/-- How the iteration ends. -/
inductive Ending where
  /-- The value is a root. -/
  | root
  /-- The next value has come before. -/
  | recurrence
  /-- The value is zero, by which the next one would divide. -/
  | zeroDivisor
  deriving DecidableEq

/-- The iteration from `x`, where `met` are the values so far. -/
def iterate (n : Nat) (met : List Nat) (x : Nat) : Ending :=
  if x * x = n then .root
  else if x = 0 then .zeroDivisor
  else if next n x ∈ met then .recurrence
  else iterate n (next n x :: met) (next n x)
termination_by unmet (max n x) met
decreasing_by
  rename_i fresh
  have bounded := next_le n x
  exact unmet_cons_lt (by omega) bounded fresh

/-- Whether an integer is the square of an integer. -/
def isSquare (n : Int) : Bool :=
  if n = 0 ∨ n = 1 then true
  else if n < 0 then false
  else iterate n.toNat [n.toNat / 2] (n.toNat / 2) = .root

end NumericKernel.Square

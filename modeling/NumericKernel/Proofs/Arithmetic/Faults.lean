import NumericKernel.Number.Operations
import NumericKernel.Proofs.Computation

/-!
# Faults of operations on numbers

An operation on two integers is exact, and any other one rounds its operands to doubles
first.  So the only faults of the four operations are those of numbers too large for a double
and of a divisor that is zero:

* `fault_of_combine`: sums, differences and products;
* `fault_of_ratio_int`, `fault_of_ratio`: quotients.
-/

namespace NumericKernel.Number

/-! ## Conversion -/

variable {m n : Number} {fault given : Fault} {convert : Int → Option Double}

theorem fault_of_lookup {o : Option Double}
    (fails : (match o with
      | some x => .ok x
      | none => .error given : Except Fault Double) = .error fault) : fault = given := by
  cases o with
  | none => exact (Except.error.inj fails).symm
  | some x => cases fails

/-- This is said of any conversion of the integers, since the one to doubles would be evaluated
wherever two forms of the match are compared. -/
theorem fault_of_convert
    (fails : (match n with
      | .int n =>
        match convert n with
        | some x => .ok x
        | none => .error given
      | .real x => .ok x : Except Fault Double) = .error fault) : fault = given := by
  cases n with
  | int n => exact fault_of_lookup fails
  | real x => cases fails

theorem fault_of_toDouble (fails : n.toDouble = .error fault) : fault = .integerTooLarge := by
  delta toDouble at fails
  exact fault_of_convert fails

/-- Behind two conversions an operation fails by one of them, or on the doubles. -/
theorem fault_of_toDoubles {α : Type} {next : Double → Double → Except Fault α}
    (fails : (do next (← m.toDouble) (← n.toDouble)) = .error fault) :
    fault = .integerTooLarge ∨ ∃ x y, next x y = .error fault := by
  rcases bind_eq_error_iff.1 fails with first | ⟨x, -, fails⟩
  · exact .inl (fault_of_toDouble first)
  · rcases bind_eq_error_iff.1 fails with second | ⟨y, -, fails⟩
    · exact .inl (fault_of_toDouble second)
    · exact .inr ⟨x, y, fails⟩

/-! ## Operations -/

/-- Sums, differences and products fail for integers that are too large only. -/
theorem fault_of_combine {whole : Int → Int → Int} {rounding : Double → Double → Double}
    (fails : combine whole rounding m n = .error fault) : fault = .integerTooLarge := by
  have rounded (fails : (do return .real (rounding (← m.toDouble) (← n.toDouble)) :
      Except Fault Number) = .error fault) : fault = .integerTooLarge := by
    rcases fault_of_toDoubles fails with converting | ⟨x, y, result⟩
    · exact converting
    · cases result
  cases m with
  | real x => exact rounded fails
  | int a =>
    cases n with
    | real y => exact rounded fails
    | int b => cases fails

/-- A quotient of integers fails where it is too large only. -/
theorem fault_of_ratio_int {m n : Int} (nonzero : n ≠ 0)
    (fails : ratio (.int m) (.int n) = .error fault) : fault = .quotientTooLarge := by
  rw [ratio_int m nonzero] at fails
  exact fault_of_lookup fails

/-- A quotient fails for an operand or a result that is too large, or a divisor of zero. -/
theorem fault_of_ratio (fails : m.ratio n = .error fault) :
    fault = .integerTooLarge ∨ fault = .quotientTooLarge ∨ fault = .realDivisionByZero := by
  have rounded (fails : (do
      let x ← m.toDouble
      let y ← n.toDouble
      if y == 0 then .error .realDivisionByZero else return x / y : Except Fault Double) =
      .error fault) : fault = .integerTooLarge ∨ fault = .quotientTooLarge ∨
      fault = .realDivisionByZero := by
    rcases fault_of_toDoubles fails with converting | ⟨x, y, result⟩
    · exact .inl converting
    · split at result
      · exact .inr (.inr (Except.error.inj result).symm)
      · cases result
  cases m with
  | real x => exact rounded fails
  | int a =>
    cases n with
    | real y => exact rounded fails
    | int b =>
      rcases eq_or_ne b 0 with rfl | nonzero
      · exact .inr (.inr (Except.error.inj fails).symm)
      · exact .inr (.inl (fault_of_ratio_int nonzero fails))

end NumericKernel.Number

import NumericKernel.Value

/-!
# Faults

The reasons for which an operation refuses its operands.  A fault names its cause
and the operands to blame; its kind and its wording are read off it.

The wording quotes its operands by their texts and literals, whatever their size: it is
taken for granted that an integer to blame has no more digits than are converted.
-/

namespace NumericKernel

/-- What sort of mistake was made. -/
inductive FaultKind where
  | divisionByZero
  | undefinedDomain
  | invalidBase
  /-- A symbol belongs to no digit. -/
  | symbolNotFound
  /-- A value is too large for a double, or infinite. -/
  | overflow
  | badParameter
  | realDivisionByZero
  | badIndex
  /-- A value is not of the kind that a directive shows, or has no directive. -/
  | badArgument
  | termLimit
  deriving DecidableEq, Repr

/-- Why an operation has no result, with the operands to blame. -/
inductive Fault where
  | notNumber (v : Value)
  | notFinite (n : Number)
  /-- The parameter of this name is not a whole number. -/
  | notIntegral (name : String) (n : Number)
  | moduloByZero (dividend divisor : Number)
  | quotientByZero (dividend divisor : Number)
  | zeroToNegativePower (base exponent : Number)
  | powerNotReal (base exponent : Number)
  | powerTooLarge (base exponent : Number)
  /-- The least common multiple of two zeros. -/
  | multipleOfZeros (a b : Number)
  /-- A subtraction that leaves its operand as it is, which would be repeated without end.
  Such a computation has no outcome; the fault stands in its place, so that the loop has a
  value, and its kind and wording are never seen. -/
  | subtractionStalled (a b : Number)
  | negativeFactorial (n : Int)
  | gammaPole (n : Number)
  | noPrimeBelow (n : Number)
  | baseNotIntegral (base : Number)
  | baseTooSmall (base : Int)
  | baseNegative (base : Int)
  | baseTooLarge (symbols : Nat) (base : Int)
  | alphabetTooShort (symbols : Nat)
  | negativeNumeral (n : Int)
  | unknownDigit (c : Char)
  | unknownSymbol (v : Value)
  | negativeSequenceIndex (name : String) (n : Int)
  | negativeRoman (n : Int)
  | unknownRoman (rest : String)
  | notNumeric (v : Value)
  | notConvertible (v : Value)
  /-- An integer of so many digits is not converted from a text. -/
  | tooManyDigits (digits : Nat)
  /-- An integer has too many digits to be converted to a text. -/
  | tooLongToShow
  | meanOfNothing
  | meanOfMixedRows
  | medianOfNested
  | headOfNothing
  | integerTooLarge
  | quotientTooLarge
  | infinityToInteger
  | nanToInteger
  | realDivisionByZero
  | negativeTolerance
  | radixTooSmall (radix : Number)
  | emptySeed
  | negativePrimeIndex (index : Int)
  /-- Convergent `k` of a continued fraction has denominator zero. -/
  | degenerateConvergent (k : Nat)
  | termLimit (k : Nat) (limit : Int)
  /-- The name of a log level has a meaning of another kind. -/
  | unknownLevel (meaning : String)
  | illegalVariableName
  | nullInVariable
  /-- A directive for an integer stands for a value of another kind. -/
  | notInteger (v : Value)
  | tooFewArguments
  | tooManyArguments

namespace Fault

/-- The sort of mistake that a fault is. -/
def kind : Fault → FaultKind
  | moduloByZero .. | quotientByZero .. | zeroToNegativePower .. | multipleOfZeros ..
  | degenerateConvergent .. => .divisionByZero
  | baseNotIntegral .. | baseTooSmall .. | baseNegative .. | baseTooLarge ..
  | alphabetTooShort .. => .invalidBase
  | unknownDigit .. | unknownSymbol .. | unknownRoman .. => .symbolNotFound
  | integerTooLarge | quotientTooLarge | infinityToInteger => .overflow
  | nanToInteger | negativeTolerance | radixTooSmall .. | emptySeed | unknownLevel ..
  | illegalVariableName | nullInVariable | tooManyDigits .. | tooLongToShow => .badParameter
  | realDivisionByZero => .realDivisionByZero
  | negativePrimeIndex .. | headOfNothing => .badIndex
  | notInteger .. | tooFewArguments | tooManyArguments => .badArgument
  | termLimit .. => .termLimit
  | notNumber .. | notFinite .. | notIntegral .. | powerNotReal .. | powerTooLarge ..
  | subtractionStalled .. | negativeFactorial .. | gammaPole .. | noPrimeBelow ..
  | negativeNumeral .. | negativeSequenceIndex .. | negativeRoman .. | notNumeric ..
  | notConvertible .. | meanOfNothing | meanOfMixedRows | medianOfNested => .undefinedDomain

/-- The wording of a fault. -/
def message : Fault → String
  | notNumber v => "Expected a number, got " ++ v.kindName ++ " " ++ v.literal
  | notFinite n => "Operand contains NaN/Inf: " ++ n.text
  | notIntegral name n => name ++ " must be an integer, got " ++ n.text
  | moduloByZero a b => "Modulo by zero: " ++ a.text ++ " % " ++ b.text
  | quotientByZero a b => "Integer division by zero: " ++ a.text ++ " // " ++ b.text
  | zeroToNegativePower a b => "Zero base with negative exponent: " ++ a.text ++ " ** " ++ b.text
  | powerNotReal a b => "Power is not real-valued: " ++ a.text ++ " ** " ++ b.text
  | powerTooLarge a b => "Power overflows a Real: " ++ a.text ++ " ** " ++ b.text
  | multipleOfZeros a b => "lcm undefined for " ++ a.text ++ " and " ++ b.text
  | subtractionStalled a b => "gcd does not converge for " ++ a.text ++ " and " ++ b.text
  | negativeFactorial n => s!"factorial is undefined for negative integers, got {n}"
  | gammaPole n => "Gamma function has a pole at " ++ n.text
  | noPrimeBelow n => "There is no prime below " ++ n.text
  | baseNotIntegral b => "base must be an integer, got " ++ b.text
  | baseTooSmall b => s!"base must satisfy |base| >= 2, got {b}"
  | baseNegative b => s!"base must be positive, got {b}"
  | baseTooLarge size b => s!"base must not exceed the digit alphabet size {size}, got {b}"
  | alphabetTooShort size => s!"custom alphabet must hold at least 2 symbols, got {size}"
  | negativeNumeral n => s!"custom base conversion requires a non-negative value, got {n}"
  | unknownDigit c => "Symbol " ++ Text.quote c.toString ++ " is not in the digit alphabet"
  | unknownSymbol v => "Symbol " ++ v.literal ++ " is not in the custom alphabet"
  | negativeSequenceIndex name n => s!"{name} index must be non-negative, got {n}"
  | negativeRoman n => s!"Roman numerals cannot represent {n}"
  | unknownRoman rest => "Invalid Roman numeral near " ++ Text.quote rest
  | notNumeric v => "Cannot coerce " ++ v.literal ++ " to a number"
  | notConvertible v => "Cannot coerce " ++ v.literal ++ " to an integer"
  | tooManyDigits digits =>
    s!"Exceeds the limit ({Number.maxDigits} digits) for integer string conversion: "
      ++ s!"value has {digits} digits; use sys.set_int_max_str_digits() to increase the limit"
  | tooLongToShow =>
    s!"Exceeds the limit ({Number.maxDigits} digits) for integer string conversion; "
      ++ "use sys.set_int_max_str_digits() to increase the limit"
  | meanOfNothing => "arithmetic mean of an empty sequence is undefined"
  | meanOfMixedRows => "cannot average a nested sequence with scalar rows"
  | medianOfNested => "median expects a flat sequence of numbers"
  | headOfNothing => "tuple index out of range"
  | integerTooLarge => "int too large to convert to float"
  | quotientTooLarge => "integer division result too large for a float"
  | infinityToInteger => "cannot convert float infinity to integer"
  | nanToInteger => "cannot convert float NaN to integer"
  | realDivisionByZero => "float division by zero"
  | negativeTolerance => "tolerances must be non-negative"
  | radixTooSmall r => "radix must be >= 2, got " ++ r.text
  | emptySeed => "seed must contain at least one prime"
  | negativePrimeIndex i => s!"prime index must be non-negative, got {i}"
  | degenerateConvergent k => s!"Degenerate continued fraction convergent at term {k}"
  | termLimit k limit => s!"term {k} requested, limit {limit}"
  | unknownLevel meaning => "Unknown level: " ++ Text.quote meaning
  | illegalVariableName => "illegal environment variable name"
  | nullInVariable => "embedded null byte"
  | notInteger v => "%d format: a real number is required, not " ++ v.kindName
  | tooFewArguments => "not enough arguments for format string"
  | tooManyArguments => "not all arguments converted during string formatting"

end Fault

/-- The outcome of a computation, or of another one where a value has no place in the domain
of the first; all other faults stand. -/
@[macro_inline]
def whereUndefined {α : Type} (x other : Except Fault α) : Except Fault α :=
  match x with
  | .ok a => .ok a
  | .error fault => if fault.kind = .undefinedDomain then other else .error fault

end NumericKernel

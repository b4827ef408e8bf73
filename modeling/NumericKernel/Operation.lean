import NumericKernel.Aggregate.Extremum
import NumericKernel.Aggregate.Mean
import NumericKernel.Aggregate.Median
import NumericKernel.Arithmetic.CommonDivisor
import NumericKernel.Arithmetic.Division
import NumericKernel.Combination
import NumericKernel.Divisor
import NumericKernel.Numeral.Custom
import NumericKernel.Numeral.Written
import NumericKernel.Prime.Cache
import NumericKernel.Prime.Factorisation
import NumericKernel.Recurrence
import NumericKernel.Roman.Numeral
import NumericKernel.Square

/-!
# Operations on values

The operations as a host calls them: with values of any kind, which are checked to
be numbers of the kind that the operation needs, one operand after the other.
-/

namespace NumericKernel.Operation

/-! ## Arithmetic -/

/-- An operation on two finite numbers. -/
def binary {α : Type} (f : Number → Number → Except Fault α) (a b : Value) : Except Fault α := do
  let x ← a.requireOperand
  let y ← b.requireOperand
  f x y

/-- The remainder of a division, with the sign of the divisor. -/
def mod : Value → Value → Except Fault Number := binary Number.mod

/-- The whole quotient of a division, rounded down. -/
def divide : Value → Value → Except Fault Int := binary Number.divide

/-- One number to the power of another. -/
def power : Value → Value → Except Fault Number := binary Number.power

/-- The greatest common divisor of two numbers. -/
def gcd : Value → Value → Except Fault Number := binary Number.gcd

/-- The least common multiple of two numbers. -/
def lcm : Value → Value → Except Fault Number := binary Number.lcm

/-- The gamma function; the truth value true counts as one. -/
def gamma : Value → Except Fault Double
  | .bool true => Gamma.gamma (.int 1)
  | v => do Gamma.gamma (← v.requireNumber)

/-- The factorial of a number, or the gamma function one further on. -/
def factorial (v : Value) : Except Fault Number := do (← v.requireNumber).factorial

/-! ## Primes -/

/-- Whether a number is prime; one with a fractional part is not. -/
def isPrime (v : Value) : Except Fault Bool := do
  let n ← v.requireNumber
  if n.isIntegral then return Prime.isPrime (← n.trunc) else return false

/-- The least prime above a number. -/
def nextPrime (v : Value) : Except Fault Int := do (← v.requireNumber).nextPrime

/-- The greatest prime below a number. -/
def prevPrime (v : Value) : Except Fault Int := do (← v.requireNumber).prevPrime

/-- The prime nearest to a number, the greater of two. -/
def nearestPrime (v : Value) : Except Fault Int := do (← v.requireNumber).nearestPrime

/-- The place of the greatest prime up to a number, counted from zero. -/
def primeIndex (v : Value) : Except Fault Int := do (← v.requireNumber).primeIndex

/-- The prime at an index and the cache that it was taken from. -/
def nthPrime (cache : Prime.Cache) (v : Value) : Except Fault (Int × Prime.Cache) := do
  return Prime.nth cache (← v.requireInteger "n")

/-- The prime factors of an integer in ascending order, each as often as it divides. -/
def primeFactors (v : Value) : Except Fault (List Nat) := do
  return Prime.factors (← v.requireInteger)

/-- The exponents of the primes in an integer, up to the greatest that divides it. -/
def primeExponents (v : Value) : Except Fault (List Nat) := do
  return Prime.exponents (← v.requireInteger)

/-- The product of the primes to given exponents. -/
def ofPrimeExponents (exponents : List Value) : Except Fault Number := Prime.ofExponents exponents

/-! ## Divisors and combinations -/

/-- The divisors of an integer in ascending order. -/
def divisors (v : Value) : Except Fault (List Nat) := do
  return NumericKernel.divisors (← v.requireInteger)

/-- How many numbers up to an integer have no divisor in common with it. -/
def totient (v : Value) : Except Fault Nat := do
  return NumericKernel.totient (← v.requireInteger)

/-- In how many ways `k` of `n` things can be chosen. -/
def choose (n k : Value) : Except Fault Int := do
  NumericKernel.choose (← n.requireInteger "n") (← k.requireInteger "k")

/-- In how many ways `k` of `n` things can be put in a row. -/
def arrange (n k : Value) : Except Fault Int := do
  NumericKernel.arrange (← n.requireInteger "n") (← k.requireInteger "k")

/-! ## Numerals -/

/-- The numeral of an integer to a base. -/
def toBase (v base : Value) : Except Fault String := do
  let b ← Numeral.writtenBase (← base.requireNumber)
  return Numeral.write b (← v.requireInteger)

/-- The number that the text of a value writes to a base. -/
def ofBase (v base : Value) : Except Fault Number := do
  let b ← Numeral.writtenBase (← base.requireNumber)
  Numeral.read b (← v.display)

/-- The digits of an integer to a base, the highest first. -/
def toDigits (v base : Value) : Except Fault (List Int) := do
  let b ← Numeral.Base.ofNumber (← base.requireNumber)
  return Numeral.digits b (← v.requireInteger)

/-- The number of a list of digits to a base. -/
def ofDigits (digits : List Number) (base : Value) : Except Fault Number := do
  let b ← Numeral.Base.ofNumber (← base.requireNumber)
  Numeral.value b digits

/-- The symbols of an integer in a custom alphabet. -/
def toCustomBase (v symbols : Value) : Except Fault (List Value) := do
  let alphabet ← symbols.symbols
  let b ← Numeral.customBase alphabet
  Numeral.writeCustom alphabet b (← v.requireInteger)

/-- The number that a list of symbols stands for in a custom alphabet. -/
def ofCustomBase (c : Coercion) (v symbols : Value) : Except Fault Number := do
  let alphabet ← symbols.symbols
  let b ← Numeral.customBase alphabet
  Numeral.readCustom c alphabet b (← v.symbols)

/-! ## Sequences -/

/-- The Fibonacci number of an index. -/
def fibonacci (v : Value) : Except Fault Nat := do
  NumericKernel.fibonacci (← v.requireInteger "index")

/-- The Lucas number of an index. -/
def lucas (v : Value) : Except Fault Nat := do
  NumericKernel.lucas (← v.requireInteger "index")

/-- The Roman numeral of an integer. -/
def toRoman (v : Value) : Except Fault String := do
  Roman.write (← v.requireInteger "number")

/-- The number that the text of a value writes in Roman letters. -/
def ofRoman (v : Value) : Except Fault Nat := do Roman.read (← v.display)

/-- Whether a value is the square of an integer; a Real never is. -/
def isSquare : Value → Bool
  | .number (.int n) => Square.isSquare n
  | _ => false

/-! ## Rounding -/

/-- The number that a value counts as where only its size matters; a truth value
counts as one or zero. -/
def measure : Value → Except Fault Number
  | .bool b => .ok (.int (if b then 1 else 0))
  | v => v.requireNumber

/-- Whether a value is finite as a double. -/
def isFiniteDouble (v : Value) : Except Fault Bool := do (← measure v).isFiniteDouble

/-- Whether two values are equal up to a share of the larger, or up to an amount. -/
def isClose (a b : Value) (relative : Value := .number (.real Double.relativeTolerance))
    (absolute : Value := .number (.real Double.absoluteTolerance)) : Except Fault Bool := do
  (← measure a).isClose (← measure b) (← measure relative) (← measure absolute)

/-- Whether a value is zero up to an amount. -/
def isNearZero (v : Value) (tolerance : Value := .number (.real Double.absoluteTolerance)) :
    Except Fault Bool := do
  return (← measure v).isNearZero (← measure tolerance)

/-! ## Kinds of values -/

/-- Whether a value is an integer; a truth value is none. -/
def isInteger : Value → Bool
  | .number (.int _) => true
  | _ => false

/-- Whether a value is a double. -/
def isReal : Value → Bool
  | .number (.real _) => true
  | _ => false

/-- Whether a Real is among the values; what comes after the first one is not
looked at. -/
def anyReal : List Value → Except Fault Bool
  | [] => .ok false
  | v :: rest => do if (← v.requireNumber).isReal then return true else anyReal rest

/-- Whether a number has no fraction. -/
def isIntegral (v : Value) : Except Fault Bool := do return (← v.requireNumber).isIntegral

end NumericKernel.Operation

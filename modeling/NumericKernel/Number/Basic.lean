import NumericKernel.Double.Decimal

/-!
# Numbers

A number is an integer of any size or a double.  Numbers of both kinds are
compared by their exact values, never by rounding an integer to a double; a
double that is not a number compares false with everything.

An integer is only converted to a text, or from one, if it has few enough digits.
-/

namespace NumericKernel

/-- An integer of any size or a double. -/
inductive Number where
  | int (n : Int)
  | real (x : Double)
  deriving DecidableEq

namespace Number

instance : Inhabited Number := ⟨.int 0⟩

instance : Coe Int Number := ⟨.int⟩

/-- Whether a number is a double. -/
def isReal : Number → Bool
  | .int _ => false
  | .real _ => true

/-- The text of a number, for an integer of any size.  Where it is shown, the integer has
to be short enough. -/
def text : Number → String
  | .int n => toString n
  | .real x => x.text

/-! ## The limit on conversions -/

/-- The most digits of an integer that are converted, to a text or from one. -/
def maxDigits : Nat := 4300

/-- Whether a number is converted to its text. -/
def isShowable : Number → Bool
  | .int n => (Nat.toDigits 10 n.natAbs).length ≤ maxDigits
  | .real _ => true

/-! ## Exact comparison -/

/-- The exact value, or `none` for a double that is not a number. -/
def value? : Number → Option Double.Exact
  | .int n => some (.ofInt n)
  | .real x => x.value?

/-- How two numbers compare, if both have a value. -/
def compare? : Number → Number → Option Ordering
  | .int m, .int n => some (compare m n)
  | a, b => do return (← a.value?).compare (← b.value?)

/-- Whether two numbers have the same exact value. -/
def equal (a b : Number) : Bool := a.compare? b == some .eq

/-- Whether the exact value of a number is below that of another. -/
def less (a b : Number) : Bool := a.compare? b == some .lt

/-- Whether the exact value of a number is that of another or below it. -/
def atMost (a b : Number) : Bool := a.less b || a.equal b

/-- Whether a number is zero, of either sign. -/
def isZero (a : Number) : Bool := a.equal (.int 0)

/-- Whether a number is below zero. -/
def isNegative (a : Number) : Bool := a.less (.int 0)

/-- Whether a number is above zero. -/
def isPositive (a : Number) : Bool := (Number.int 0).less a

/-! ## Kinds of values -/

/-- Neither infinite nor a pattern that is not a number. -/
def isFinite (a : Number) : Bool :=
  match a.value? with
  | some (.finite _) => true
  | _ => false

/-- An integer, or a finite double without a fractional part. -/
def isIntegral : Number → Bool
  | .int _ => true
  | .real x => x.isIntegral

end Number

end NumericKernel

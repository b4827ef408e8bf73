import NumericKernel.Double.Nearest

/-!
# Decimal forms of doubles

A decimal form is a coefficient and the power of ten of its last digit.  The
shortest form of a double has the fewest digits that read back as the same
double, and is the nearest of those; the rounded form has a fixed number of
digits.  All of it is exact arithmetic on naturals.
-/

namespace NumericKernel.Double

/-- `coefficient * 10 ^ power`. -/
structure Decimal where
  coefficient : Nat
  power : Int
  deriving DecidableEq, Repr

/-- Decimal digits of a natural; zero has one. -/
def digitCount (n : Nat) : Nat := (Nat.toDigits 10 n).length

/-- The exponent of the leading digit of a positive ratio in scientific form. -/
def leadingExponent (num den : Nat) : Int :=
  if den ≤ num then digitCount (num / den) - 1 else -digitCount ((den - 1) / num)

/-- The ratio `num / (den * 10 ^ power)` as numerator and denominator. -/
def scaleDown (num den : Nat) (power : Int) : Nat × Nat :=
  if 0 ≤ power then (num, den * Nat.pow 10 power.toNat) else (num * Nat.pow 10 (-power).toNat, den)

namespace Decimal

/-- The power of ten of the first digit. -/
def exponent (d : Decimal) : Int := d.power + digitCount d.coefficient - 1

/-- The digits without trailing zeros. -/
def digits (d : Decimal) : List Char :=
  ((Nat.toDigits 10 d.coefficient).reverse.dropWhile (· == '0')).reverse

/-- The double nearest to a decimal form.  Forms far outside the range of the
finite doubles are recognised by their leading digit alone. -/
def toDouble (negative : Bool) (d : Decimal) : Double :=
  if d.coefficient = 0 ∨ d.exponent < -400 then ofSignBits negative 0
  else if 400 < d.exponent then ofSignBits negative infinityBits
  else
    let (num, den) := scaleDown d.coefficient 1 (-d.power)
    ofRatio negative num den

end Decimal

/-! ## Fewest digits -/

/-- Whether a decimal form lies in the interval of reals that round to the
finite double with these magnitude bits.  The ends are halfway to the neighbours
and belong to the interval exactly for an even pattern. -/
def roundsTo (bits : Nat) (d : Decimal) : Bool :=
  let units := unitsOfBits bits
  let low := units + unitsOfBits (bits - 1)
  let high := units + unitsOfBits (bits + 1)
  let (num, den) := scaleDown (2 * d.coefficient * unitsPerOne) 1 (-d.power)
  if bits % 2 = 0 then low * den ≤ num ∧ num ≤ high * den
  else low * den < num ∧ num < high * den

/-- The form with this many digits that reads back as the double, if one does:
of the two grid points around the value the nearer one that qualifies. -/
def formWith? (bits : Nat) (count : Nat) : Option Decimal :=
  let units := unitsOfBits bits
  let power := leadingExponent units unitsPerOne - (count - 1 : Nat)
  let (num, den) := scaleDown units unitsPerOne power
  let below : Decimal := ⟨num / den, power⟩
  let above : Decimal := ⟨num / den + 1, power⟩
  let (near, far) :=
    if roundQuotient num den = below.coefficient then (below, above) else (above, below)
  if roundsTo bits near then some near
  else if roundsTo bits far then some far
  else none

/-- The shortest form of the positive finite double with these magnitude bits;
seventeen digits always read back. -/
def shortest (bits : Nat) : Decimal :=
  ((List.range 17).findSome? (fun n => formWith? bits (n + 1))).getD ⟨unitsOfBits bits, 0⟩

/-! ## A fixed number of digits -/

/-- A positive ratio rounded to this many digits, a tie going to the even digit. -/
def rounded (num den count : Nat) : Decimal :=
  let power := leadingExponent num den - (count - 1 : Nat)
  let (num, den) := scaleDown num den power
  let coefficient := roundQuotient num den
  if coefficient = Nat.pow 10 count then ⟨Nat.pow 10 (count - 1), power + 1⟩ else ⟨coefficient, power⟩

/-! ## Texts -/

/-- An exponent with its sign and at least two digits. -/
def exponentText (e : Int) : String :=
  let digits := toString e.natAbs
  (if e < 0 then "e-" else "e+") ++ (if digits.length < 2 then "0" ++ digits else digits)

/-- Digits in scientific notation, with a point only when one has to be shown. -/
def scientificText (digits : List Char) (exponent : Int) : String :=
  match digits with
  | [] => "0" ++ exponentText exponent
  | lead :: [] => lead.toString ++ exponentText exponent
  | lead :: rest => lead.toString ++ "." ++ String.ofList rest ++ exponentText exponent

/-- Positional notation is used from `10 ^ plainFrom` on ... -/
def plainFrom : Int := -4

/-- ... and below `10 ^ plainBelow`. -/
def plainBelow : Int := 16

/-- Digits in positional notation, which always shows a point and a digit on
each side of it. -/
def plainText (digits : List Char) (exponent : Int) : String :=
  if exponent < 0 then
    "0." ++ String.ofList (List.replicate (-exponent - 1).toNat '0' ++ digits)
  else
    let whole := exponent.toNat + 1
    let padded := digits ++ List.replicate (whole - digits.length) '0'
    let rest := padded.drop whole
    String.ofList (padded.take whole) ++ "." ++ (if rest.isEmpty then "0" else String.ofList rest)

/-- The text of the double with a bit pattern that has no sign. -/
def unsignedText (bits : Nat) : String :=
  if bits = 0 then "0.0"
  else if bits < infinityBits then
    let form := shortest bits
    if plainFrom ≤ form.exponent ∧ form.exponent < plainBelow then
      plainText form.digits form.exponent
    else
      scientificText form.digits form.exponent
  else if bits = infinityBits then "inf"
  else "nan"

/-- The text of a double: the fewest digits that read back as it.  A pattern
that is not a number shows no sign. -/
def text (x : Double) : String :=
  let bits := x.magnitudeBits
  if x.signBit ∧ bits ≤ infinityBits then "-" ++ unsignedText bits else unsignedText bits

/-- The text with twelve significant digits in scientific notation. -/
def scientific (x : Double) : String :=
  let bits := x.magnitudeBits
  let unsigned :=
    if bits = 0 then scientificText (List.replicate 12 '0') 0
    else if bits < infinityBits then
      let form := rounded (unitsOfBits bits) unitsPerOne 12
      scientificText (Nat.toDigits 10 form.coefficient) form.exponent
    else unsignedText bits
  if x.signBit ∧ bits ≤ infinityBits then "-" ++ unsigned else unsigned

end NumericKernel.Double

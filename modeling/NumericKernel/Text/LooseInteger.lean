import NumericKernel.Text.Blank

/-!
# Integers written loosely

A plain integer is an optional minus sign and ASCII digits without a leading zero.
A loosely written one is plain once it has been tidied: blanks around it, a plus
sign, leading zeros, a fraction of zeros and underscores between digits are taken
away, in this order.
-/

namespace NumericKernel.Text

/-! ## Plain integers -/

/-- The natural that digits write when none of them is superfluous. -/
def plainNatural? (cs : List Char) : Option Nat :=
  if cs.isEmpty || !cs.all Char.isDigit then none
  else if cs.head? = some '0' && cs.length ≠ 1 then none
  else some (cs.foldl (fun n c => 10 * n + (c.toNat - '0'.toNat)) 0)

/-- The integer that a plain text writes. -/
def plainInteger? : List Char → Option Int
  | '-' :: rest => (plainNatural? rest).map fun n => -(n : Int)
  | cs => (plainNatural? cs).map fun n => (n : Int)

/-! ## Tidying -/

/-- The characters ignored around a loose integer: the blanks other than the
control characters that serve as separators. -/
def isOuterBlank (c : Char) : Bool := isBlank c && !(0x1C ≤ c.toNat && c.toNat ≤ 0x1F)

/-- A text without the blanks at its two ends. -/
def withoutOuterBlanks (cs : List Char) : List Char :=
  ((cs.dropWhile isOuterBlank).reverse.dropWhile isOuterBlank).reverse

/-- The text after a plus sign, which a second sign must not follow. -/
def withoutPlus? : List Char → Option (List Char)
  | '+' :: '-' :: _ => none
  | '+' :: rest => some rest
  | cs => some cs

/-- The text without zeros and underscores at its front.  It has to start with a
digit or a minus sign, and a minus sign may also follow the zeros.  Of zeros before
a point or before nothing the last one stays. -/
def withoutZeros? (cs : List Char) : Option (List Char) :=
  let (zeros, rest) := cs.span fun c => c = '0' || c = '_'
  let last := zeros.drop (zeros.length - 1)
  if zeros.head? = some '_' then none
  else
    match rest with
    | [] => if zeros.isEmpty then none else some last
    | '.' :: _ => if zeros.isEmpty then none else some (last ++ rest)
    | c :: _ => if c.isDigit || c = '-' then some rest else none

/-- The text before a point, if zeros and nothing else follow it. -/
def withoutFraction (cs : List Char) : List Char :=
  let (whole, fraction) := cs.span (· ≠ '.')
  if 1 < fraction.length && (fraction.drop 1).all (· = '0') then whole else cs

/-- The text without its underscores, if each of them stands alone and inside. -/
def withoutUnderscores (cs : List Char) : List Char :=
  let doubled := (cs.zip (cs.drop 1)).contains ('_', '_')
  if cs.head? = some '_' || cs.getLast? = some '_' || doubled then cs else cs.filter (· ≠ '_')

/-- The integer that a loosely written text stands for. -/
def looseInteger? (s : String) : Option Int := do
  let signed ← withoutPlus? (withoutOuterBlanks s.toList)
  let body ← withoutZeros? signed
  plainInteger? (withoutUnderscores (withoutFraction body))

end NumericKernel.Text

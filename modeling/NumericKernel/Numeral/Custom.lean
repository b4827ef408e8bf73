import NumericKernel.Coercion
import NumericKernel.Numeral.Digits

/-!
# Numerals in a custom alphabet

Any list of at least two values can serve as the symbols of a numeral system, and
so can the characters of a text.  A symbol is looked up by equality of content.
-/

namespace NumericKernel.Numeral

/-- The base of a custom alphabet is the number of its symbols. -/
def customBase (symbols : List Value) : Except Fault Base :=
  if h : 2 ≤ symbols.length then .ok ⟨symbols.length, by simpa using h⟩
  else .error (.alphabetTooShort symbols.length)

/-- The symbols of the digits of an integer that is not negative. -/
def writeCustom (symbols : List Value) (b : Base) (v : Int) : Except Fault (List Value) :=
  if v < 0 then .error (.negativeNumeral v)
  else .ok ((digits b v).map fun digit => symbols.getD digit.toNat .null)

/-- The place of the first symbol that equals an item.  The symbols before it are compared
with the item, and the ones after it are not. -/
def place? (c : Coercion) (item : Value) : List Value → Except Fault (Option Nat)
  | [] => .ok none
  | s :: rest => do
    if ← c.equal item s then return some 0 else return (← place? c item rest).map (· + 1)

/-- The digit of an item: the place of the first symbol that equals it. -/
def customDigit (c : Coercion) (symbols : List Value) (item : Value) : Except Fault Number := do
  match ← place? c item symbols with
  | some digit => return .int digit
  | none => .error (.unknownSymbol item)

/-- The number that a list of symbols stands for. -/
def readCustom (c : Coercion) (symbols : List Value) (b : Base) (items : List Value) :
    Except Fault Number := do
  value b (← items.mapM (customDigit c symbols))

end NumericKernel.Numeral

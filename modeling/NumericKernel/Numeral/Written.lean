import NumericKernel.Numeral.Alphabet
import NumericKernel.Numeral.Digits

/-!
# Written numerals

An integer is written with the symbols of the digit alphabet, after a minus sign
if it is negative.  Reading takes any number of leading minus signs, each of which
turns the sign of what follows; further on a minus sign is a digit like others.
-/

namespace NumericKernel.Numeral

/-- The base that a number is, when numerals are written with the alphabet. -/
def writtenBase (n : Number) : Except Fault Base := Base.ofNumberWithin alphabet.length n

/-- The numeral of an integer. -/
def write (b : Base) (v : Int) : String :=
  let symbols := (digits b v.natAbs).map fun digit => symbol digit.toNat
  String.ofList (if v < 0 then '-' :: symbols else symbols)

/-- The digit of a symbol that has to be in the alphabet. -/
def requireDigit (c : Char) : Except Fault Number :=
  match digit? c with
  | some digit => .ok (.int digit)
  | none => .error (.unknownDigit c)

/-- The number that the characters of a numeral stand for. -/
def readSymbols (b : Base) : List Char → Except Fault Number
  | [] => value b []
  | c :: rest => do
    if c = '-' then return (← readSymbols b rest).neg
    else value b (← (c :: rest).mapM requireDigit)

/-- The number that a text stands for. -/
def read (b : Base) (s : String) : Except Fault Number := readSymbols b s.toList

end NumericKernel.Numeral

/-!
# The digit alphabet

The symbols of the digits zero to 254, in the order of the code page: the decimal
digits and the Latin letters first, then the other symbols.
-/

namespace NumericKernel.Numeral

/-- The symbols in the order of their digits. -/
def alphabet : List Char := String.toList (
  "0123456789ABCDEFGHIJKLMNOPQRSTUVWXYZabcdefghijklmno" ++
  "pqrstuvwxyzǝʒαβγδεζηθвимнт\nΓΔΘιΣΩ≠∊∍∞₁₂₃₄₅₆ !\"#$%&'" ++
  "()*+,-./:;<=>?@[\\]^_`\x7b|\x7d~Ƶ€Λ‚ƒ„…†‡ˆ‰Š‹ŒĆŽƶĀ‘’“”–—˜™" ++
  "š›œćžŸā¡¢£¤¥¦§¨©ª«¬λ®¯°±²³´µ¶·¸¹º»¼½¾¿ÀÁÂÃÄÅÆÇÈÉÊËÌ" ++
  "ÍÎÏÐÑÒÓÔÕÖ×ØÙÚÛÜÝÞßàáâãäåæçèéêëìíîïðñòóôõö÷øùúûüýþÿ")

/-- The symbol of a digit. -/
def symbol (digit : Nat) : Char := alphabet.getD digit '0'

/-- The digit of a symbol, if it is one of the alphabet. -/
def digit? (c : Char) : Option Nat := alphabet.idxOf? c

end NumericKernel.Numeral

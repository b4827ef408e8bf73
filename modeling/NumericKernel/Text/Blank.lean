import NumericKernel.Text.CodeRange

/-!
# Blank characters

The characters that may surround a numeral: the spaces of Unicode, the line and
paragraph separators, and the control characters used as separators.  Zero-width
characters are not blank.
-/

namespace NumericKernel.Text

/-- Inclusive ranges of the blank characters. -/
def blankRanges : List (Nat × Nat) := [
  (0x9, 0xD), (0x1C, 0x20), (0x85, 0x85), (0xA0, 0xA0), (0x1680, 0x1680), (0x2000, 0x200A),
  (0x2028, 0x2029), (0x202F, 0x202F), (0x205F, 0x205F), (0x3000, 0x3000)]

/-- Whether a character is blank. -/
def isBlank (c : Char) : Bool := inRanges blankRanges c

/-- A text without the blanks at its two ends. -/
def trim (cs : List Char) : List Char :=
  ((cs.dropWhile isBlank).reverse.dropWhile isBlank).reverse

end NumericKernel.Text

/-!
# Ranges of codes

A class of characters is given by the inclusive ranges of their codes.
-/

namespace NumericKernel.Text

/-- Whether the code of a character lies in one of the ranges. -/
def inRanges (ranges : List (Nat × Nat)) (c : Char) : Bool :=
  ranges.any fun (first, last) => first ≤ c.toNat && c.toNat ≤ last

end NumericKernel.Text

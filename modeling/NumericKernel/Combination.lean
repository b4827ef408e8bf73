import NumericKernel.Factorial

/-!
# Combinations and arrangements

Both counts are quotients of factorials.  They are zero when more is to be chosen
than there is; otherwise the factorials decide which arguments are refused.
-/

namespace NumericKernel

/-- The ways to choose `k` of `n` things. -/
def choose (n k : Int) : Except Fault Int := do
  if n < k then
    return 0
  else
    let all ← integerFactorial n
    let chosen ← integerFactorial k
    let left ← integerFactorial (n - k)
    (Number.int all).divide (.int (chosen * left))

/-- The ways to choose `k` of `n` things in order. -/
def arrange (n k : Int) : Except Fault Int := do
  if n < k then
    return 0
  else
    let all ← integerFactorial n
    let left ← integerFactorial (n - k)
    (Number.int all).divide (.int left)

end NumericKernel

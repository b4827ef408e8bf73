/-!
# Term rules

The terms of a continued fraction given by a rule: first a list of terms, then a
cycle of terms or the values of a polynomial.
-/

namespace NumericKernel

/-- How the terms go on after the listed ones. -/
inductive Continuation where
  /-- The terms are repeated for ever. -/
  | cycle (terms : List Int)
  /-- The term of index `k` is the value at `k`; the constant coefficient is first. -/
  | polynomial (coefficients : List Int)

/-- A list of terms and the rule for those behind it. -/
structure Terms where
  lead : List Int := []
  continuation : Continuation

namespace Terms

/-- The term of an index. -/
def term (t : Terms) (k : Nat) : Int :=
  if h : k < t.lead.length then t.lead[k]
  else
    match t.continuation with
    | .cycle terms => terms.getD ((k - t.lead.length) % terms.length) 0
    | .polynomial coefficients => coefficients.foldr (fun c rest => c + k * rest) 0

end Terms

end NumericKernel

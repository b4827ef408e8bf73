import NumericKernel.Arithmetic.Division
import NumericKernel.ContinuedFraction.Query

/-!
# Digits of a continued fraction

The fraction `a 0 + b 1 / (a 1 + b 2 / (a 2 + …))` is expanded digit by digit.  A
state holds two successive convergents, scaled so that the next digit is their
integer part.  While the two integer parts differ, one more term is taken in; when
they agree, the digit is certain and the rests are scaled by the radix.
-/

namespace NumericKernel

/-- A continued fraction with the radix of its digits. -/
structure ContinuedFraction where
  /-- The partial denominators, from index zero on. -/
  a : Nat → Int
  /-- The partial numerators, from index one on. -/
  b : Nat → Int
  radix : Number := .int 10
  /-- The last index for which terms can be asked. -/
  limit : Int

namespace ContinuedFraction

/-- A fraction whose digits can be told apart: the radix is at least two. -/
def checked (f : ContinuedFraction) : Except Fault ContinuedFraction :=
  if f.radix.less (.int 2) then .error (.radixTooSmall f.radix) else .ok f

/-- The term that a request is for. -/
def term (f : ContinuedFraction) : Request → Int
  | .a k => f.a k
  | .b k => f.b k

/-- The answer to a request: the term, if the limit allows to ask for it. -/
def ask (f : ContinuedFraction) (t : Request) : Except Fault Int :=
  if t.index ≤ f.limit then .ok (f.term t) else .error (.termLimit t.index f.limit)

/-- Two successive convergents `p0 / q0` and `p1 / q1`, the second of index `k`. -/
structure State where
  k : Nat
  p0 : Number
  q0 : Number
  p1 : Number
  q1 : Number

namespace State

/-- The state that holds the first two convergents. -/
def first : Query State := do
  let a0 ← Query.term (.a 0)
  let a1 ← Query.term (.a 1)
  let b1 ← Query.term (.b 1)
  return { k := 1, p0 := .int a0, q0 := .int 1, p1 := .int (a1 * a0 + b1), q1 := .int a1 }

/-- A linear combination, as the numerator or the denominator of the next convergent. -/
def weigh (x : Int) (m : Number) (y : Int) (n : Number) : Except Fault Number := do
  let first ← (Number.int x).mul m
  let second ← (Number.int y).mul n
  first.add second

/-- The state with one term more: the next convergent takes the place of the last. -/
def absorb (s : State) (x y : Int) : Except Fault State := do
  let p ← weigh x s.p1 y s.p0
  let q ← weigh x s.q1 y s.q0
  return { k := s.k + 1, p0 := s.p1, q0 := s.q1, p1 := p, q1 := q }

/-- The state after a digit: the rests of both convergents, scaled by the radix. -/
def scale (s : State) (radix : Number) : Except Fault State := do
  let p0 ← radix.mul (← s.p0.mod s.q0)
  let p1 ← radix.mul (← s.p1.mod s.q1)
  return { s with p0, p1 }

/-- The integer parts of both convergents, which must exist. -/
def integerParts (s : State) : Except Fault (Int × Int) := do
  if s.q0.isZero || s.q1.isZero then
    .error (.degenerateConvergent s.k)
  else
    return (← s.p0.divide s.q0, ← s.p1.divide s.q1)

/-- One round of the search for a digit: the digit with the state after it, if it is
certain, or else the state with one term more. -/
def round (radix : Number) (s : State) : Query (Int × State ⊕ State) := do
  let (digit, other) ← s.integerParts
  if digit = other then
    return .inl (digit, ← s.scale radix)
  else
    let x ← Query.term (.a (s.k + 1))
    let y ← Query.term (.b (s.k + 1))
    return .inr (← s.absorb x y)

end State

/-- The first state, with the requests that are made for it. -/
def starting (f : ContinuedFraction) : Asking State := State.first.run f.ask

/-- The first state, if its terms can be asked for. -/
def initial (f : ContinuedFraction) : Except Fault State := f.starting.answer

/-- The search for the next digit, round by round.  A round that finds none has asked for
a term within the limit, so there are no more of them than terms are left. -/
def search (f : ContinuedFraction) : (left : Nat) → State → Query (Int × State)
  | 0, s => do
    match ← s.round f.radix with
    | .inl found => return found
    | .inr next => .done (.error (.termLimit (next.k + 1) f.limit))
  | left + 1, s => do
    match ← s.round f.radix with
    | .inl found => return found
    | .inr next => search f left next

/-- The next digit and the state after it, with the requests that the search makes. -/
def asking (f : ContinuedFraction) (s : State) : Asking (Int × State) :=
  (f.search (f.limit - s.k).toNat s).run f.ask

/-- The next digit and the state after it. -/
def nextDigit (f : ContinuedFraction) (s : State) : Except Fault (Int × State) :=
  (f.asking s).answer

/-- The digits from a state on with the states after them, this many unless a
fault comes first. -/
def digitsFrom (f : ContinuedFraction) : Nat → State → List (Int × State) × Option Fault
  | 0, _ => ([], none)
  | count + 1, s =>
    match f.nextDigit s with
    | .error fault => ([], some fault)
    | .ok (digit, next) =>
      let (rest, ending) := digitsFrom f count next
      ((digit, next) :: rest, ending)

end ContinuedFraction

end NumericKernel

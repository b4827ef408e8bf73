import NumericKernel.Display
import NumericKernel.Number.Operations
import NumericKernel.Text.NumberText

/-!
# Coercion

How the values of a host become numbers.  Numbers stand for themselves and texts
for the number they write; a host may give further words a number of its own.
-/

namespace NumericKernel

/-- A reading of values as numbers. -/
structure Coercion where
  /-- Texts with a number of their own, compared as they are. -/
  words : List (String × Number) := []

namespace Coercion

/-- The reading that knows no words. -/
def standard : Coercion := {}

/-- A reading that knows a few number words. -/
def withWords : Coercion where
  words := [("one", .int 1), ("two", .int 2), ("ten", .int 10)]

/-- The number that a value stands for. -/
def toNumber (c : Coercion) (v : Value) : Except Fault Number :=
  match v with
  | .number n => .ok n
  | .text s =>
    match c.words.lookup s with
    | some n => .ok n
    | none => do
      match ← Text.readNumber? s with
      | some n => return n
      | none => .error (.notNumeric v)
  | _ => .error (.notNumeric v)

/-- The integer part, toward zero, of the number that a value stands for. -/
def toInteger (c : Coercion) (v : Value) : Except Fault Int := do
  let n ← c.toNumber v
  if n.isFinite then n.trunc else .error (.notConvertible v)

/-- Whether a value has items; a text has none. -/
def isIterable : Value → Bool
  | .list _ => true
  | _ => false

/-! ## Equality by content -/

/-- Equality of the numbers that two values stand for. -/
def equalNumbers (c : Coercion) (v w : Value) : Except Fault Bool := do
  return (← c.toNumber v).equal (← c.toNumber w)

/-- Equality of the texts by which two values are shown. -/
def equalTexts (v w : Value) : Except Fault Bool := do
  return (← v.display) == (← w.display)

/-- Equality of two values that are not lists: as numbers if both stand for one, and by
their texts otherwise. -/
def equalScalar (c : Coercion) (v w : Value) : Except Fault Bool :=
  whereUndefined (c.equalNumbers v w) (equalTexts v w)

mutual

/-- Equality by content: lists of the same length item by item, up to the first two that
differ, and other values as scalars. -/
def equal (c : Coercion) : Value → Value → Except Fault Bool
  | .list vs, .list ws => if vs.length = ws.length then equalItems c vs ws else .ok false
  | .list _, _ => .ok false
  | _, .list _ => .ok false
  | v, w => c.equalScalar v w

/-- Equality of the items of two lists of the same length. -/
def equalItems (c : Coercion) : List Value → List Value → Except Fault Bool
  | v :: vs, w :: ws => do if ← equal c v w then equalItems c vs ws else return false
  | _, _ => .ok true

end

end Coercion

end NumericKernel

import NumericKernel.Fault

/-!
# Roman numerals

Thirteen symbols of one or two letters, in descending order of their values.
Writing takes each symbol as often as it fits; reading prefers a symbol of two
letters and accepts the symbols in any order.
-/

namespace NumericKernel.Roman

/-- A value and the letters for it. -/
structure Symbol where
  value : Nat
  letters : List Char
  deriving DecidableEq, Repr

/-- The symbols in descending order of their values. -/
def symbols : List Symbol := [
  ⟨1000, ['M']⟩, ⟨900, ['C', 'M']⟩, ⟨500, ['D']⟩, ⟨400, ['C', 'D']⟩,
  ⟨100, ['C']⟩, ⟨90, ['X', 'C']⟩, ⟨50, ['L']⟩, ⟨40, ['X', 'L']⟩,
  ⟨10, ['X']⟩, ⟨9, ['I', 'X']⟩, ⟨5, ['V']⟩, ⟨4, ['I', 'V']⟩, ⟨1, ['I']⟩]

/-- How often each symbol is taken for a natural. -/
def takenFor : List Symbol → Nat → List (Symbol × Nat)
  | [], _ => []
  | s :: rest, n => (s, n / s.value) :: takenFor rest (n % s.value)

/-- The letters of a natural number. -/
def lettersOf (n : Nat) : List Char :=
  (takenFor symbols n).flatMap fun (s, count) => (List.replicate count s.letters).flatten

/-- The numeral of an integer, which must not be negative; zero has the empty one. -/
def write (n : Int) : Except Fault String :=
  if n < 0 then .error (.negativeRoman n) else .ok (String.ofList (lettersOf n.toNat))

/-- The value of the symbol with these letters. -/
def value? (letters : List Char) : Option Nat :=
  (symbols.find? (·.letters == letters)).map (·.value)

/-- The sum of the symbols that a text is made of. -/
def readLetters : List Char → Except Fault Nat
  | [] => .ok 0
  | [c] =>
    match value? [c] with
    | some v => .ok v
    | none => .error (.unknownRoman c.toString)
  | c :: d :: rest =>
    match value? [c, d] with
    | some v => do return v + (← readLetters rest)
    | none =>
      match value? [c] with
      | some v => do return v + (← readLetters (d :: rest))
      | none => .error (.unknownRoman (String.ofList (c :: d :: rest)))

/-- The number that a text of Roman letters stands for. -/
def read (s : String) : Except Fault Nat := readLetters s.toList

end NumericKernel.Roman

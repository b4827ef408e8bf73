import NumericKernel.Validation

/-!
# Entries of a table of Roman symbols

An entry pairs a positive value with a symbol of one or two characters.  Once made
it does not change.
-/

namespace NumericKernel.Roman

/-- A value and its symbol. -/
structure Entry where
  value : Int
  symbol : String

namespace Entry

/-- The positive integer that the field has to be. -/
def readValue : Option Value → Except Flaw Int
  | none => .error .missing
  | some v => do
    let n ← Flaw.requireInteger v
    if 0 < n then return n else .error .notPositive

/-- The short text that the field has to be. -/
def readSymbol : Option Value → Except Flaw String
  | none => .error .missing
  | some v => do
    let s ← Flaw.requireText v
    if s.length < 1 then .error (.tooShort 1)
    else if 2 < s.length then .error (.tooLong 2)
    else return s

/-- The entry made from the values of its fields, or what is wrong with them. -/
def ofFields (value symbol : Option Value) : Except (List Violation) Entry :=
  match readValue value, readSymbol symbol with
  | .ok n, .ok s => .ok ⟨n, s⟩
  | .error flaw, .ok _ => .error [⟨"value", flaw⟩]
  | .ok _, .error flaw => .error [⟨"symbol", flaw⟩]
  | .error first, .error second => .error [⟨"value", first⟩, ⟨"symbol", second⟩]

/-- Whether a name can be the name of a field; one that starts with an underscore
cannot, and setting it leaves an entry as it is. -/
def isFieldName (name : String) : Bool := !name.startsWith "_"

/-- What comes of setting fields of an entry: none can be set. -/
def assign (e : Entry) (names : List String) : Except (List Violation) Entry :=
  match names.find? isFieldName with
  | none => .ok e
  | some name => .error [⟨name, .frozen⟩]

end Entry

end NumericKernel.Roman

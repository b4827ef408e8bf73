import NumericKernel.Fault

/-!
# Values shown as texts

A value is shown by one of its texts, and its plain text can be taken apart into
characters.  An integer in the value that has too many digits makes this fail.
-/

namespace NumericKernel.Value

/-- A value shown by one of its texts. -/
def shownAs (text : Value → String) (v : Value) : Except Fault String :=
  if v.isShowable then .ok (text v) else .error .tooLongToShow

/-- A value shown by its plain text. -/
def display (v : Value) : Except Fault String := v.shownAs plain

/-- The characters of the plain text of a value, each as a text of its own. -/
def characters (v : Value) : Except Fault (List Value) := do
  return (← v.display).toList.map fun c => .text c.toString

/-- The symbols that a value lists: its items, or the characters of its text. -/
def symbols : Value → Except Fault (List Value)
  | .list items => .ok items
  | v => v.characters

end NumericKernel.Value

import NumericKernel.Display
import NumericKernel.Number.Operations

/-!
# Messages with directives

A message with arguments holds directives that stand for them in turn: an integer,
a plain text or a literal.  Without arguments a message is taken as it is.
-/

namespace NumericKernel.Log

/-- The integer that a value shows as; a number is cut toward zero. -/
def integerText : Value → Except Fault String
  | .bool b => .ok (if b then "1" else "0")
  | .number n => do Value.display (.number (.int (← n.trunc)))
  | v => .error (.notInteger v)

/-- How a directive shows a value, if the character makes one. -/
def directive? (c : Char) : Option (Value → Except Fault String) :=
  if c = 'd' then some integerText
  else if c = 's' then some (Value.shownAs Value.plain)
  else if c = 'r' then some (Value.shownAs Value.literal)
  else none

/-- The message with its directives replaced, each by the next argument; none may be
missing or left over.  A percent sign written twice stands for itself, and so does
one that makes no directive. -/
def expand : List Char → List Value → Except Fault String
  | [], [] => .ok ""
  | [], _ :: _ => .error .tooManyArguments
  | '%' :: '%' :: rest, arguments => do return "%" ++ (← expand rest arguments)
  | '%' :: c :: rest, arguments =>
    match directive? c, arguments with
    | some _, [] => .error .tooFewArguments
    | some shown, v :: others => do return (← shown v) ++ (← expand rest others)
    | none, _ => do return "%" ++ c.toString ++ (← expand rest arguments)
  | c :: rest, arguments => do return c.toString ++ (← expand rest arguments)

/-- A message with its arguments in the place of its directives. -/
def message (pattern : String) (arguments : List Value) : Except Fault String :=
  if arguments.isEmpty then .ok pattern else expand pattern.toList arguments

end NumericKernel.Log

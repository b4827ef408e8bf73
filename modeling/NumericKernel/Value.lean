import NumericKernel.Number.Basic
import NumericKernel.Text.Quoted

/-!
# Values

What an operation may be handed: nothing at all, a truth value, a number, a text
or a list of values.  A value has two texts: the plain one, in which a text is
shown as it is, and the literal one, in which it is quoted.
-/

namespace NumericKernel

/-- What an operation may be handed. -/
inductive Value where
  | null
  | bool (b : Bool)
  | number (n : Number)
  | text (s : String)
  | list (items : List Value)

namespace Value

instance : Inhabited Value := ⟨.null⟩

instance : Coe Number Value := ⟨.number⟩

instance : Coe Int Value := ⟨fun n => .number (.int n)⟩

mutual

/-- The text of a value in which texts are quoted. -/
def literal : Value → String
  | .null => "None"
  | .bool true => "True"
  | .bool false => "False"
  | .number n => n.text
  | .text s => Text.quote s
  | .list items => "[" ++ literals items ++ "]"

/-- The literals of the items, separated by commas. -/
def literals : List Value → String
  | [] => ""
  | [v] => v.literal
  | v :: w :: rest => v.literal ++ ", " ++ literals (w :: rest)

end

/-- The text of a value in which a text stands for itself. -/
def plain : Value → String
  | .text s => s
  | v => v.literal

mutual

/-- Whether every integer in a value, at any depth, is converted to its text. -/
def isShowable : Value → Bool
  | .number n => n.isShowable
  | .list items => allShowable items
  | _ => true

/-- Whether every item of a list has a text. -/
def allShowable : List Value → Bool
  | [] => true
  | v :: rest => v.isShowable && allShowable rest

end

/-- The name of the kind of a value, for the wording of a fault. -/
def kindName : Value → String
  | .null => "NoneType"
  | .bool _ => "bool"
  | .number (.int _) => "int"
  | .number (.real _) => "float"
  | .text _ => "str"
  | .list _ => "list"

/-- Whether a value is a number. -/
def isNumber : Value → Bool
  | .number _ => true
  | _ => false

end Value

end NumericKernel

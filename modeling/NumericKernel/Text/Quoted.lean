import NumericKernel.Text.Hidden

/-!
# Quoted texts

A text shown inside a message is quoted so that it can be read unambiguously:
single quotes are preferred, double quotes are taken for a text that holds a
single quote and no double one, and characters without a visible form are
escaped by their code.
-/

namespace NumericKernel.Text

/-- Lower-case hexadecimal digits, padded with zeros to a width. -/
def hexDigits (width n : Nat) : List Char :=
  let digits := Nat.toDigits 16 n
  List.replicate (width - digits.length) '0' ++ digits

/-- The escape of a character by its code, in the shortest of three widths. -/
def codeEscape (c : Char) : List Char :=
  if c.toNat < 0x100 then '\\' :: 'x' :: hexDigits 2 c.toNat
  else if c.toNat < 0x10000 then '\\' :: 'u' :: hexDigits 4 c.toNat
  else '\\' :: 'U' :: hexDigits 8 c.toNat

/-- A character as it stands between the quotes. -/
def quoteChar (mark : Char) (c : Char) : List Char :=
  if c = '\\' ∨ c = mark then ['\\', c]
  else if c = '\n' then ['\\', 'n']
  else if c = '\r' then ['\\', 'r']
  else if c = '\t' then ['\\', 't']
  else if isHidden c then codeEscape c
  else [c]

/-- The quotation mark for a text. -/
def quotationMark (cs : List Char) : Char :=
  if cs.contains '\'' && !cs.contains '"' then '"' else '\''

/-- A text in quotation marks. -/
def quote (s : String) : String :=
  let mark := quotationMark s.toList
  String.ofList (mark :: s.toList.flatMap (quoteChar mark) ++ [mark])

end NumericKernel.Text

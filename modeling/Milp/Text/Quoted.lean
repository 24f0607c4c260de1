import Milp.Text.Printable
set_option autoImplicit false

/-! # Quoted text

How a message shows a text so that it can be told from its surroundings: between quotes, with the
quote, the backslash and every character that does not print written as an escape. The apostrophe is
the quote unless the text holds one and no double quote. Long texts are cut (`abbreviate`). -/

namespace Milp.Text

/-- The last `width` hexadecimal digits of a number. -/
def hexDigits : Nat → Nat → List Char
  | 0, _ => []
  | width + 1, n => hexDigits width (n / 16) ++ [Nat.digitChar (n % 16)]

/-- A code point by its number, in the shortest of the three forms that holds it. -/
def escapeCode (n : Nat) : List Char :=
  if n < 0x100 then '\\' :: 'x' :: hexDigits 2 n
  else if n < 0x10000 then '\\' :: 'u' :: hexDigits 4 n
  else '\\' :: 'U' :: hexDigits 8 n

def escapeChar (quote c : Char) : List Char :=
  if c = quote ∨ c = '\\' then ['\\', c]
  else if c = '\n' then ['\\', 'n']
  else if c = '\r' then ['\\', 'r']
  else if c = '\t' then ['\\', 't']
  else if isPrintable c then [c]
  else escapeCode c.toNat

/-- The quote that a text is written between. -/
def quoteFor (s : List Char) : Char :=
  if '\'' ∈ s ∧ '"' ∉ s then '"' else '\''

def quoted (s : String) : String :=
  let cs := s.toList
  let q := quoteFor cs
  String.ofList (q :: cs.flatMap (escapeChar q) ++ [q])

/-- A text cut to a number of characters, with two points in place of the rest; a negative number
leaves it whole. -/
def abbreviate (limit : Int) (s : String) : String :=
  if limit < 0 ∨ s.length ≤ limit then s else String.ofList (s.toList.take limit.toNat) ++ ".."

end Milp.Text

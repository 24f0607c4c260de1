import Milp.Arithmetic
set_option autoImplicit false

/-! # Lines of the LP format

Numbers are written with twelve significant digits, and an expression as a line of terms that is
broken where the next term would not fit. Writing can fail at any term, after earlier lines have
been written, so a text is a list of lines of which some may be failures. -/

namespace Milp.Lp

/-- Whether a bound counts as infinite on the given side. -/
def unboundedAbove (v : Value) : Except Failure Bool := Value.holds .atLeast v (.float infinity)
def unboundedBelow (v : Value) : Except Failure Bool := Value.holds .atMost v (.float (-infinity))

/-- A number, or a sign and a word if it counts as infinite. -/
def numberText (v : Value) : Except Failure String := do
  if ← unboundedAbove v then return "+inf"
  else if ← unboundedBelow v then return "-inf"
  else return (← Failure.lift v.toDouble).generalText 12

/-- A coefficient that is not negative, with the name of its variable; one is left out. -/
def productText (coefficient : Value) (name : Except Failure String) : Except Failure String := do
  if ← Failure.lift (coefficient.equals (.int 1)) then name
  else
    let number ← numberText coefficient
    return number ++ " " ++ (← name)

/-- A negative coefficient without its sign, with the name of its variable. -/
def oppositeText (coefficient : Value) (name : Except Failure String) : Except Failure String := do
  if ← Failure.lift (coefficient.equals (.int (-1))) then name
  else
    let number ← numberText (← coefficient.negate)
    return number ++ " " ++ (← name)

/-- A term, as a coefficient and the name of its variable. All terms have their sign in front, apart
from a first one that is not negative. -/
def termToken (first : Bool) (term : Value × Except Failure String) : Except Failure String := do
  if ← Value.holds .below term.1 (.int 0) then return "- " ++ (← oppositeText term.1 term.2)
  else
    let token ← productText term.1 term.2
    return if first then token else "+ " ++ token

def lineWidth : Nat := 78

/-- What a line starts with that goes on with an expression. -/
def indentation : String := "".pushn ' ' 6

/-- Adds the terms of an expression to a line; a full line is done and a new one begun. Gives the
lines that are done and the one that is not. -/
def addTerms (first : Bool) (line : String) :
    List (Value × Except Failure String) → List String × Except Failure String
  | [] => ([], .ok (if first then line ++ " 0" else line))
  | term :: rest =>
    match termToken first term with
    | .error f => ([], .error f)
    | .ok token =>
      if lineWidth < line.length + token.length + 1 then
        let (done, last) := addTerms false (indentation ++ " " ++ token) rest
        (line :: done, last)
      else addTerms false (line ++ " " ++ token) rest

/-- The lines of an expression after a header; `finish` completes the last one. -/
def expressionLines (header : String) (terms : List (Value × Except Failure String))
    (finish : Except Failure String) : List (Except Failure String) :=
  let (done, last) := addTerms true header terms
  done.map .ok ++ [do return (← last) ++ (← finish)]

/-- The lines before the first failure, each with an end of line, and that failure. -/
def written : List (Except Failure String) → String × Option Failure
  | [] => ("", none)
  | .error f :: _ => ("", some f)
  | .ok line :: rest =>
    let (text, failure) := written rest
    (line ++ "\n" ++ text, failure)

end Milp.Lp

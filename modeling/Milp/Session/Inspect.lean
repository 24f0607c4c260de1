import Milp.Arithmetic
import Milp.Value.Text
set_option autoImplicit false

/-! # Inspecting entities

What can be read off a variable, an expression or a constraint, by name. Other values have nothing
besides themselves. -/

namespace Milp.Value

def numbersOf (serial : Serials) (vs : List Var) : Value := list (vs.map fun v => int (serial v.id))

/-- The questions that a variable answers: whether it has a name, is binary, integer, continuous or
discrete. -/
def answersOf (v : Var) : Value :=
  list [bool v.name.isSome, bool (v.kind = .binary), bool (v.kind = .integer),
    bool (v.kind = .continuous), bool v.kind.isDiscrete]

/-- The text of a value, cut to a number of characters unless that is negative. -/
def abbreviated (view : View) (v limit : Value) : Except Failure String := do
  let s := v.display view
  if ← holds .below limit (int 0) then return s
  if ← holds .atMost (int s.length) limit then return s
  return Text.abbreviate (← Failure.lift limit.toIndex) s

/-- What an inspection shows besides the value itself. -/
def inspection (view : View) (v : Value) : List (String × Value) :=
  let texts := [("str", text (v.display view)), ("repr", text (v.description view))]
  match v with
  | var x => texts ++ [("is", answersOf x)]
  | expr _ e => texts ++ [("len", int e.size), ("n", int e.size), ("empty", bool e.terms.isEmpty),
      ("vars", numbersOf view.serial e.vars)]
  | constraint c => texts ++ [("type", sense c.sense), ("n", int c.expr.size),
      ("has_name", bool c.name.isSome), ("vars", numbersOf view.serial c.expr.vars)]
  | _ => []

end Milp.Value

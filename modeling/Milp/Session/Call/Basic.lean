import Milp.Arithmetic
import Milp.Session.Arguments
import Milp.Session.Copy
set_option autoImplicit false

/-! # Calls by name: what they have in common -/

namespace Milp.Session

/-- A parameter that must be given. -/
def given (name : String) : Parameter := { name }

/-- A parameter that may be left out. -/
def optional (name : String) (default : Value := .nothing) : Parameter :=
  { name, default := some default }

def unknownName {α : Type} : Acting α := throw (.fault .missingMember)

def fromFault {α : Type} (x : Except Fault α) : Acting α := Action.ofFault x

def ofNat (n : Nat) : Value := .int n

/-- A result that is only a success. -/
def void (x : Acting Unit) : Acting Value := do
  x
  return .nothing

def vars (vs : List Var) : Value := .list (vs.map .var)

/-- The value of a method without parameters. -/
def plain (args : Arguments) (x : Value) : Acting Value := do
  fromFault args.bind0
  return x

/-- Whether a value counts as true. -/
def isTrue (v : Value) : Acting Bool := do fromFault (v.truthy (← get).view)

/-- The identity of a variable that is about to be made. -/
def freshVar : Acting Nat := do
  let s ← get
  set { s with nextVar := s.nextVar + 1 }
  return s.nextVar

/-- The identity of a constraint that is about to be made. -/
def freshConstraint : Acting Nat := do
  let s ← get
  set { s with nextConstraint := s.nextConstraint + 1 }
  return s.nextConstraint

end Milp.Session

import Milp.LinearExpr
set_option autoImplicit false

/-! # Linear constraints

A constraint compares a linear expression with a number. Like a variable it has a serial number,
which alone tells it from others. -/

namespace Milp

/-- How a constraint compares its expression with its right-hand side. -/
inductive Sense where
  | atMost
  | equal
  | atLeast
deriving DecidableEq, Repr

namespace Sense

def all : List Sense := [atMost, equal, atLeast]

def name : Sense → String
  | atMost => "LE"
  | equal => "EQ"
  | atLeast => "GE"

/-- The number of a sense. -/
def number : Sense → Int
  | atMost => 1
  | equal => 2
  | atLeast => 3

def symbol : Sense → String
  | atMost => "<="
  | equal => "=="
  | atLeast => ">="

/-- The letter by which engines know a sense. -/
def code : Sense → String
  | atMost => "L"
  | equal => "E"
  | atLeast => "G"

def ofCode? : String → Option Sense
  | "L" => some atMost
  | "E" => some equal
  | "G" => some atLeast
  | _ => none

theorem ofCode?_code (s : Sense) : ofCode? s.code = some s := by cases s <;> rfl

end Sense

/-- Whether an objective is to be made small or large. -/
inductive Direction where
  | minimize
  | maximize
deriving DecidableEq, Repr

namespace Direction

def name : Direction → String
  | minimize => "Minimize"
  | maximize => "Maximize"

/-- The number by which engines know a direction. -/
def number : Direction → Int
  | minimize => 1
  | maximize => -1

end Direction

/-- The constraint `expr <sense> bound`. -/
structure Constraint where
  id : Nat
  expr : LinearExpr
  sense : Sense
  bound : Double
  name : Option String
deriving DecidableEq

namespace Constraint

/-- The comparison without the name. -/
def comparisonText (serial : Serials) (c : Constraint) : String :=
  s!"{c.expr.text serial} {c.sense.symbol} {c.bound.generalText 6}"

/-- The comparison after the name, if there is one that is not empty. -/
def text (serial : Serials) (c : Constraint) : String :=
  let comparison := c.comparisonText serial
  match c.name with
  | some name => if name.isEmpty then comparison else s!"{name}: {comparison}"
  | none => comparison

def description (serial : Serials) (c : Constraint) : String :=
  let name := c.name.getD ""
  s!"mipbuilder.constr.LinearConstraint[{name}]({Text.abbreviate 60 (c.comparisonText serial)})"

end Constraint

end Milp

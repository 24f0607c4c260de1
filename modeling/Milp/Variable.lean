import Milp.Domain
import Milp.Text.Quoted
set_option autoImplicit false

/-! # Variables

A variable is a plain descriptor: it does not know which models it belongs to. Two variables are the
same when they have the same `id`, whatever their names and bounds. The serial number that is shown
for a variable without a name is that of its first appearance, which is not known here
(`Serials`). -/

namespace Milp

structure Var where
  id : Nat
  domain : Domain
  lower : Number
  upper : Number
  objective : Double
  name : Option String
deriving DecidableEq

/-- The serial numbers of variables, by their `id`. -/
abbrev Serials := Nat → Nat

namespace Var

def kind (v : Var) : VarKind := v.domain.kind

/-- The name, or the serial number of a variable that has none. -/
def text (serial : Serials) (v : Var) : String :=
  match v.name with
  | some name => if name.isEmpty then s!"_x{serial v.id}" else name
  | none => s!"_x{serial v.id}"

/-- An optional name as messages show it. -/
def nameText : Option String → String
  | some name => Text.quoted name
  | none => "None"

def description (v : Var) : String :=
  s!"mipbuilder.linear.Var(name={nameText v.name},lb={v.lower.text},ub={v.upper.text}," ++
    s!"type={v.kind.code},obj={v.objective.shortestText})"

end Var

end Milp

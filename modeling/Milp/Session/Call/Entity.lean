import Milp.Session.Call.Basic
import Milp.Value.Member
set_option autoImplicit false

/-! # Calls of variables, expressions and constraints -/

namespace Milp.Session

def callVar (v : Var) (name : String) (args : Arguments) : Acting Value := do
  match name with
  | "has_name" => plain args (.bool v.name.isSome)
  | "is_binary" => plain args (.bool (v.kind = .binary))
  | "is_integer" => plain args (.bool (v.kind = .integer))
  | "is_continuous" => plain args (.bool (v.kind = .continuous))
  | "is_discrete" => plain args (.bool v.kind.isDiscrete)
  | "to_linear_expr" => plain args (.expr 0 (LinearExpr.ofVar v))
  | _ => fromFault (Value.member (← get).view (.var v) name)

/-- The coefficient of a value that may be no variable; it must be a possible key. -/
def coefficientOf (e : LinearExpr) (v : Value) : Except Fault Double :=
  match v with
  | .var x => .ok (e.coefficient x)
  | v => if v.isKey then .ok Double.zero else .error .wrongType

/-- The constraint that compares an expression with a number. -/
def callComparison (e : LinearExpr) (s : Sense) (args : Arguments) : Acting Value := do
  let (bound, name) ← fromFault (args.bind2 (given "rhs") (optional "name"))
  Action.ofExcept (e.compareValue (← freshConstraint) s bound name)

def callExpr (e : LinearExpr) (name : String) (args : Arguments) : Acting Value := do
  match name with
  | "iter_terms" => plain args (.list (e.terms.map fun t => .tuple [.var t.1, .float t.2]))
  | "iter_variables" => plain args (vars e.vars)
  | "number_of_terms" => plain args (ofNat e.size)
  | "is_empty" => plain args (.bool e.terms.isEmpty)
  | "to_string" => plain args (.text (e.text (← get).serialOfVar))
  | "negate" => plain args (.expr 0 e.negate)
  | "get_coef" => .float <$> fromFault do coefficientOf e (← args.bind1 (given "dvar"))
  | "plus" => .expr 0 <$> Action.ofExcept do
      e.plusValue (← Failure.lift (args.bind1 (given "e")))
  | "minus" => .expr 0 <$> Action.ofExcept do
      e.minusValue (← Failure.lift (args.bind1 (given "e")))
  | "times" => .expr 0 <$> Action.ofExcept do
      e.timesValue (← Failure.lift (args.bind1 (given "k")))
  | "le" => callComparison e .atMost args
  | "ge" => callComparison e .atLeast args
  | "eq" => callComparison e .equal args
  | _ => unknownName

def callConstraint (c : Constraint) (name : String) (args : Arguments) : Acting Value := do
  match name with
  | "has_name" => plain args (.bool c.name.isSome)
  | "number_of_terms" => plain args (ofNat c.expr.size)
  | "iter_variables" => plain args (vars c.expr.vars)
  | "to_string" => plain args (.text (c.comparisonText (← get).serialOfVar))
  | _ => fromFault (Value.member (← get).view (.constraint c) name)

def callDomain (kind : VarKind) (infinity : Value) (name : String) (args : Arguments) :
    Acting Value := do
  let candidate (parameter : String) : Acting Value := fromFault (args.bind1 (given parameter))
  /- A request that must be there. -/
  let present (parameter : String) : Acting Value := do
    match ← candidate parameter with
    | .nothing => throw (.boundNotNumber .nothing)
    | v => return v
  let lower (v : Value) : Acting Value := Action.ofExcept (Domain.lowerOfValue kind infinity v)
  let upper (v : Value) : Acting Value := Action.ofExcept (Domain.upperOfValue kind infinity v)
  match name with
  | "resolve_lb" => lower (← candidate "candidate_lb")
  | "resolve_ub" => upper (← candidate "candidate_ub")
  | "compute_lb" => lower (← present "candidate_lb")
  | "compute_ub" => upper (← present "candidate_ub")
  | "is_discrete" => plain args (.bool kind.isDiscrete)
  | "to_string" => plain args (.text (Value.domainText kind))
  | _ => fromFault (Value.member (← get).view (.domain kind infinity) name)

/-- Senses are read from a value by one of them. -/
def callSense (s : Sense) (name : String) (args : Arguments) : Acting Value := do
  match name with
  | "parse" => do
    let arg ← fromFault (args.bind1 (given "arg"))
    return .sense (← Action.ofExcept (Sense.ofValue arg))
  | _ => fromFault (Value.member (← get).view (.sense s) name)

end Milp.Session

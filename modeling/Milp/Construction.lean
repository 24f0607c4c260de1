import Milp.Keyword
set_option autoImplicit false

/-! # Building entities from values

The readers that turn what a caller passes into a variable, an expression or a constraint. Each
checks its parts in a fixed order, and the first part that cannot be used decides the failure. -/

namespace Milp

/-- An optional name; `owner` says in the failure what it would be the name of. -/
def nameOfValue (owner : String) : Value → Except Failure (Option String)
  | .nothing => .ok none
  | .text s | .textItem s => .ok (some s)
  | v => .error (.nameNotText owner v)

/-- A coefficient; `caller` says in the failure who wants it. -/
def coefficientOfValue (caller : String) (v : Value) : Except Failure Double :=
  if v.isNumber then Failure.lift v.toDouble else .error (.badCoefficient caller v)

/-! ## Variables -/

/-- An optional bound of a variable. -/
def boundOfValue : Value → Except Failure (Option Number)
  | .nothing => .ok none
  | v => if v.isNumber then some <$> Failure.lift v.toNumber else .error (.boundNotNumber v)

/-- A domain with an infinity, which must be a number where numbers are compared with it. -/
def Domain.ofParts (kind : VarKind) (infinity : Value) : Except Fault Domain :=
  return { kind, infinity := ← infinity.toNumber }

/-- The lower bound that a domain makes of a request, if there is one. -/
def Domain.lowerOfValue (kind : VarKind) (infinity request : Value) : Except Failure Value := do
  match ← boundOfValue request with
  | none => return .int 0
  | some x => .number <$> Failure.lift do (← Domain.ofParts kind infinity).lowerFor x

/-- The upper bound that a domain makes of a request, if there is one. -/
def Domain.upperOfValue (kind : VarKind) (infinity request : Value) : Except Failure Value := do
  match ← boundOfValue request with
  | none => return kind.defaultUpper infinity
  | some x => .number <$> Failure.lift do (← Domain.ofParts kind infinity).upperFor x

/-- What a caller may say about a new variable. -/
structure Var.Request where
  lower : Value := .nothing
  upper : Value := .nothing
  domain : Value := .text "C"
  objective : Value := .int 0
  name : Value := .nothing

/-- The variable that a caller asks for, with the given identity. -/
def Var.ofValues (id : Nat) (r : Var.Request) : Except Failure Var := do
  let name ← nameOfValue "Variable" r.name
  let (kind, infinity) ← Domain.partsOfValue r.domain
  let objective ← coefficientOfValue "Var" r.objective
  let lower ← Failure.lift (← Domain.lowerOfValue kind infinity r.lower).toNumber
  let upper ← Failure.lift (← Domain.upperOfValue kind infinity r.upper).toNumber
  let domain ← Failure.lift (Domain.ofParts kind infinity)
  if ← Failure.lift (upper.lt lower) then .error (.emptyDomain name r.lower r.upper)
  else return { id, domain, lower, upper, objective, name }

theorem Failure.lift_eq_ok {α : Type} {x : Except Fault α} {a : α} :
    Failure.lift x = .ok a ↔ x = .ok a := by
  cases x <;> simp [Failure.lift]

/-! ## Expressions -/

namespace LinearExpr

/-- A term from a pair of a variable and a coefficient. -/
def termOfValue (view : View) (pair : Value) : Except Failure Term := do
  match pair.elements view with
  | .ok (.finite [v, k]) =>
    match v with
    | .var x => return (x, ← coefficientOfValue "LinearExpr" k)
    | _ => .error (.notATermVariable v)
  | _ => .error (.notAPair pair)

def ofPairs (view : View) (pairs : List Value) : Except Failure LinearExpr :=
  ofTerms <$> pairs.mapM (termOfValue view)

/-- The expression that a value lists: a variable, an expression, a table from variables to
coefficients or a sequence of pairs. -/
def ofListing (view : View) : Value → Except Failure LinearExpr
  | .nothing => .ok empty
  | .var v => .ok (ofVar v)
  | .expr _ e => .ok e
  | .table entries => ofPairs view (Value.partOf .items entries)
  | .ref r =>
    match view.entries r with
    | some entries => ofPairs view (Value.partOf .items entries)
    | none => .error (.fault .wrongType)
  | v => do ofPairs view (← Failure.lift (v.allElements view))

/-- The expression that a value is; `caller` says in the failure who wants it. -/
def ofValue (caller : String) : Value → Except Failure LinearExpr
  | .expr _ e => .ok e
  | .var v => .ok (ofVar v)
  | v => .error (.notAnExpression caller v)

end LinearExpr

/-! ## Constraints -/

/-- The constraint that a caller asks for, with the given identity. -/
def Constraint.ofValues (id : Nat) (expr sense bound name : Value) : Except Failure Constraint := do
  let name ← nameOfValue "Constraint" name
  if !bound.isNumber then .error (.badBound bound)
  else
    let expr ← LinearExpr.ofValue "LinearConstraint" expr
    let sense ← Sense.ofValue sense
    let bound ← Failure.lift bound.toDouble
    return { id, expr, sense, bound, name }

end Milp

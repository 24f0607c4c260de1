import Milp.Model.Update
set_option autoImplicit false

/-! # Solving models and asking for results -/

namespace Milp.Model

/-! ## The direction -/

/-- Sets the direction. A value that is none is logged as a fatal error. -/
def setSense (sense : Value) : Acting Unit := do
  checkAlive
  match Direction.ofValue sense with
  | .ok d =>
    callEngine "set_int_attr" (Engine.setModelAttribute (.text ModelAttribute.sense.name)
      (.int d.number))
  | .error (.fault f) => throw (.fault f)
  | .error f => onHandler (Handler.raiseFailure f)

/-- The direction that the engine has. -/
def getSense : Acting Value := do
  checkAlive
  let value ← askEngine "get_int_attr"
    (Engine.getModelAttribute (.text ModelAttribute.sense.name))
  Action.ofFault do
    if ← value.equals (.int 1) then return .direction .minimize
    if ← value.equals (.int (-1)) then return .direction .maximize
    .error .wrongValue

/-! ## Solving -/

/-- Commits queued entities and solves the model. -/
def optimize : Acting Unit := do
  update
  let m ← model
  log .trace fun name =>
    s!"Optimizing model {name}: {m.vars.length} variable(s), " ++
      s!"{m.constraints.length} constraint(s)"
  callEngine "optimize" Engine.optimize

/-- The state of the model, as a number. -/
def status : Acting Value := do
  checkAlive
  askEngine "get_int_attr" (Engine.getModelAttribute (.text ModelAttribute.status.name))

def objectiveValue : Acting Value := do
  checkAlive
  askEngine "get_dbl_attr" (Engine.getObjective (.text objectiveAttribute))

/-! ## Attributes -/

/-- What a table of entities has for a value that may be no entity at all. -/
def indexOf? (index? : Value → Option Nat) (v : Value) : Except Fault (Option Nat) :=
  if v.isKey then .ok (index? v) else .error .wrongType

def varIndexOf? (m : Model) : Value → Except Fault (Option Nat) :=
  indexOf? fun
    | .var v => m.varIndex? v
    | _ => none

def constraintIndexOf? (m : Model) : Value → Except Fault (Option Nat) :=
  indexOf? fun
    | .constraint c => m.constraintIndex? c
    | _ => none

/-- The index of a variable, which must be committed. -/
def committedVar (v : Value) : Acting Nat := do
  let m ← model
  match ← Action.ofFault (m.varIndexOf? v) with
  | some i => return i
  | none => onHandler (Handler.raiseFailure (.uncommittedVar v m.name))

/-- The index of a constraint, which must be committed. -/
def committedConstraint (c : Value) : Acting Nat := do
  let m ← model
  match ← Action.ofFault (m.constraintIndexOf? c) with
  | some i => return i
  | none => onHandler (Handler.raiseFailure (.uncommittedConstraint c m.name))

/-- Reads an attribute of a committed variable. -/
def getVarAttribute (v attr : Value) : Acting Value := do
  checkAlive
  let i ← committedVar v
  askEngine "get_var_attr" (Engine.getVarAttribute attr (.int i))

/-- Reads an attribute of a committed constraint. -/
def getConstraintAttribute (c attr : Value) : Acting Value := do
  checkAlive
  let i ← committedConstraint c
  askEngine "get_constr_attr" (Engine.getConstraintAttribute attr (.int i))

/-- The value of a committed variable in the solution. -/
def value (v : Value) : Acting Value := getVarAttribute v (.text VarAttribute.value.label)

/-! ## Irreducible infeasible subsystems -/

def computeIis : Acting Unit := do
  checkAlive
  callEngine "compute_iis" Engine.computeIis

/-- The constraints among the given ones that are in the subsystem that was found last. -/
def iisAmong : List Constraint → Acting (List Value)
  | [] => return []
  | c :: rest => do
    let inIis ← getConstraintAttribute (.constraint c) (.text ConstraintAttribute.inIis.label)
    let others ← iisAmong rest
    return if inIis.same (.int 0) then others else .constraint c :: others

/-- The committed constraints that are in the subsystem that was found last. -/
def iisConstraints : Acting Value := do
  return .list (← iisAmong (← model).constraints)

/-! ## Files -/

/-- Writes the model to a file. -/
def write (file : Value) : Acting Unit := do
  checkAlive
  callEngine "write" (Engine.write file)

end Milp.Model

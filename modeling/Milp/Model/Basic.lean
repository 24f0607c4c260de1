import Milp.Construction
import Milp.Engine.Add
import Milp.Engine.Attribute
import Milp.Engine.Solve
import Milp.Table
set_option autoImplicit false

/-! # Models

Variables and constraints are queued first and committed to the model's engine later, variables
before constraints. A committed entity has an index, its position among the committed entities of its
kind, which never changes; tables by identity and by name find it again. A model owns its engine, and
is of no use any more when it has ended. -/

namespace Milp

structure Model where
  name : Value
  /-- The place of the environment that the engine comes from. -/
  environment : Nat
  handler : Handler
  engine : Engine
  /-- The committed entities in the order of their indices. -/
  vars : List Var := []
  constraints : List Constraint := []
  /-- The indices of committed entities, by identity. -/
  varIndices : Table Nat Nat := {}
  constraintIndices : Table Nat Nat := {}
  /-- The first committed variable of each name. -/
  varsByName : Table String Var := {}
  /-- The index of the next variable to be committed. -/
  varCount : Nat := 0
  pendingVars : List Var := []
  pendingConstraints : List Constraint := []
  ended : Bool := false

namespace Model

/-! ## Looking entities up -/

/-- The index of a committed variable. -/
def varIndex? (m : Model) (v : Var) : Option Nat := m.varIndices.get? v.id

/-- The index of a committed constraint. -/
def constraintIndex? (m : Model) (c : Constraint) : Option Nat := m.constraintIndices.get? c.id

/-- The first committed variable with a name. -/
def varByName? (m : Model) (name : String) : Option Var := m.varsByName.get? name

def isCommittedVar (m : Model) (v : Var) : Bool := (m.varIndex? v).isSome

/-! ## Actions -/

/-- An action of a model. -/
abbrev Acting (α : Type) := Action (Model × Surroundings) α

def model : Acting Model := return (← get).1

def change (f : Model → Model) : Acting Unit := modify fun (m, w) => (f m, w)

def onEngine {α : Type} (x : Engine.Acting α) : Acting α :=
  Action.within Model.engine (fun engine m => { m with engine }) x

def onHandler {α : Type} (x : Handler.Acting α) : Acting α :=
  Action.within Model.handler (fun handler m => { m with handler }) x

/-- Logs a message of the model itself, which can show its name. -/
def log (s : Severity) (text : String → String) : Acting Unit := do
  let m ← model
  onHandler (Handler.report s fun view => .ok (text (m.name.display view)))

/-- Refuses any call to a model that has ended. -/
def checkAlive : Acting Unit := do
  let m ← model
  if m.ended then throw (.ended m.name)

/-- Raises a refusal of the engine, after logging it. -/
def checkStatus (status : Value) (operation : String) : Acting Unit := do
  if ← onEngine (Engine.isTrue status) then
    let code ← Action.ofFault status.toInt
    log .error fun name =>
      s!"Engine call {operation} failed with status {code} in model {name}"
    throw (.engine (.int code) (.text operation))

/-- Calls the engine and raises a refusal. -/
def callEngine (operation : String) (x : Engine.Acting Value) : Acting Unit := do
  let status ← onEngine x
  checkStatus status operation

/-- Asks the engine for a value and raises a refusal. -/
def askEngine (operation : String) (x : Engine.Acting Engine.Answer) : Acting Value := do
  let (status, value) ← onEngine x
  checkStatus status operation
  return value

/-! ## Beginning and end -/

/-- A new model with its engine. The level says which messages are printed. -/
def create (name : Value) (environment : Nat) (level : Value) (engine : Engine) :
    Action Surroundings Model := do
  let m : Model := { name, environment, handler := .ofValue level, engine }
  let text := fun name => s!"Model {name} created with engine: {engine.name}"
  let (outcome, m, w) := (log .trace text).perform (m, ← get)
  set w
  Action.ofExcept outcome
  return m

/-- Releases the engine. -/
def release : Acting Unit := do
  change ({ · with ended := true })
  let _ ← onEngine Engine.finish

/-- Ends the model; a second time has no effect. -/
def finish : Acting Unit := do
  if !(← model).ended then
    log .trace fun name => s!"Ending model {name}"
    release

/-- What becomes of a model that nobody can reach any more. -/
def finalize : Acting Unit := do
  if !(← model).ended then release

/-! ## Queueing entities -/

/-- Queues a variable. -/
def addVar (v : Value) : Acting Value := do
  checkAlive
  match v with
  | .var x =>
    change fun m => { m with pendingVars := m.pendingVars ++ [x] }
    return v
  | _ => throw (.notAVariable v)

/-- Queues a constraint. -/
def addConstraint (c : Value) : Acting Value := do
  checkAlive
  match c with
  | .constraint x =>
    change fun m => { m with pendingConstraints := m.pendingConstraints ++ [x] }
    return c
  | _ => throw (.notAConstraint c)

/-- Queues a variable or a constraint. -/
def add (entity : Value) : Acting Value :=
  match entity with
  | .var _ => addVar entity
  | .constraint _ => addConstraint entity
  | _ => throw (.notAnEntity entity)

/-- Builds and queues a variable with the given serial number. -/
def newVar (id : Nat) (r : Var.Request) : Acting Value := do
  let v ← Action.ofExcept (Var.ofValues id r)
  addVar (.var v)

/-- Builds and queues a constraint with the given serial number. -/
def newConstraint (id : Nat) (expr sense bound name : Value) : Acting Value := do
  let c ← Action.ofExcept (Constraint.ofValues id expr sense bound name)
  addConstraint (.constraint c)

/-! ## Text -/

def text (view : View) (m : Model) : String :=
  s!"mipbuilder.model.Model[{m.name.display view}]"

def description (view : View) (m : Model) : String :=
  s!"mipbuilder.model.Model(name={m.name.description view}, " ++
    s!"variables={m.vars.length}, constraints={m.constraints.length})"

end Model

end Milp

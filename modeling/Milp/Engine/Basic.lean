import Milp.Arithmetic
import Milp.Code
import Milp.Surroundings
set_option autoImplicit false

/-! # Engines

An engine stores the columns and rows of one model and may be able to solve it. What a caller passes
is checked here, and a call is either accepted with the status 0 or refused with a code. Engines that
have no solver behind them keep a log of the calls made to them. -/

namespace Milp

/-! ## What an engine stores -/

structure Column where
  objective : Double
  lower : Double
  upper : Double
  kind : VarKind
  name : Value

/-- A row: the positions of columns with their coefficients, compared with a bound. -/
structure Row where
  indices : List Value
  values : List Double
  sense : Sense
  bound : Double
  name : Value

/-- What is known about a solution. It is forgotten when the model changes. -/
structure Solution where
  status : Int := ModelState.notSet
  objective : Option Number := none
  values : Option (List Double) := none
  /-- The rows of an irreducible infeasible subsystem. -/
  iis : Option (List Nat) := none

/-- Calls of an operation that are made to fail: all of them, or a number of times. -/
structure InjectedFailure where
  operation : Value
  code : Value
  times : Value

/-- What is left of an order to fail after one more call. -/
def InjectedFailure.next (f : InjectedFailure) : Except Failure (Option InjectedFailure) := do
  if f.times matches .nothing then return some f
  if ← Value.holds .atMost f.times (.int 1) then return none
  return some { f with times := ← Value.combine 0 .minus f.times (.int 1) }

/-- What stands behind an engine. -/
inductive Backend where
  /-- Nothing: models can be built and not solved. -/
  | store
  /-- Each variable gets the value of its domain nearest to zero, whatever the rows. -/
  | nearestToZero
  /-- The same, with operations that can be told to fail. -/
  | faulty (failures : List InjectedFailure)
  /-- An instance of the native solver, until the engine has ended. -/
  | native (solver : Option Nat)

/-! ## The log of calls -/

/-- A call to an engine, as it was made. -/
inductive Call where
  | addVar (objective lower upper kind name : Value)
  | addVars (count objectives lowers uppers kinds names : Value)
  | addConstraint (size indices values sense bound name : Value)
  | addConstraints (count size begins indices values senses bounds names : Value)
  | updateModel
  | optimize
  | computeIis
  | write (file : Value)
  | setModelAttribute (attr value : Value)
  | setParameter (name value : Value)
  | finish

namespace Call

/-- The name of the operation, by which its calls can be found and made to fail. -/
def operation : Call → String
  | addVar .. => "add_var"
  | addVars .. => "add_vars"
  | addConstraint .. => "add_constr"
  | addConstraints .. => "add_constrs"
  | updateModel => "update_model"
  | optimize => "optimize"
  | computeIis => "compute_iis"
  | write _ => "write"
  | setModelAttribute .. => "set_int_attr"
  | setParameter .. => "set_parameter"
  | finish => "end"

/-- What the call was made with. -/
def payload : Call → List (String × Value)
  | addVar objective lower upper kind name =>
    [("obj", objective), ("lb", lower), ("ub", upper), ("vtype", kind), ("name", name)]
  | addVars count objectives lowers uppers kinds names =>
    [("count", count), ("objs", objectives), ("lbs", lowers), ("ubs", uppers), ("vtypes", kinds),
      ("names", names)]
  | addConstraint size indices values sense bound name =>
    [("nnz", size), ("ind", indices), ("val", values), ("sense", sense), ("rhs", bound),
      ("name", name)]
  | addConstraints count size begins indices values senses bounds names =>
    [("count", count), ("nnz", size), ("beg", begins), ("ind", indices), ("val", values),
      ("senses", senses), ("rhss", bounds), ("names", names)]
  | write file => [("filename", file)]
  | setModelAttribute attr value => [("attr", attr), ("value", value)]
  | setParameter name value => [("name", name), ("value", value)]
  | updateModel | optimize | computeIis | finish => []

end Call

/-! ## The type -/

structure Engine where
  backend : Backend
  modelName : Value := .nothing
  columns : List Column := []
  rows : List Row := []
  /-- The direction, as it was set: a value equal to 1 or to -1. -/
  sense : Value := .int 1
  parameters : List (Value × Value) := []
  calls : List Call := []
  ended : Bool := false
  solution : Solution := {}

namespace Engine

/-- The name by which an engine is known. -/
def name (e : Engine) : String :=
  match e.backend with
  | .store => "nosolve"
  | .nearestToZero => "zero"
  | .faulty _ => "fail"
  | .native _ => "highs"

def isNative (e : Engine) : Bool := e.backend matches .native _

def clearSolution (e : Engine) : Engine := { e with solution := {} }

def pushColumn (e : Engine) (c : Column) : Engine := { e with columns := e.columns ++ [c] }

def pushRow (e : Engine) (r : Row) : Engine := { e with rows := e.rows ++ [r] }

/-- Engines with the native solver behind them keep no log. -/
def record (e : Engine) (c : Call) : Engine :=
  if e.isNative then e else { e with calls := e.calls ++ [c] }

/-! ## Failures on demand -/

/-- Makes an operation fail from now on; an earlier order for it is replaced. -/
def failOn (e : Engine) (f : InjectedFailure) : Engine :=
  match e.backend with
  | .faulty fs =>
    { e with backend := .faulty (f :: fs.filter fun g => !g.operation.same f.operation) }
  | _ => e

def clearFailures (e : Engine) : Engine :=
  match e.backend with
  | .faulty _ => { e with backend := .faulty [] }
  | _ => e

/-- The order to fail for an operation. -/
def injected? (e : Engine) (operation : String) : Option InjectedFailure :=
  match e.backend with
  | .faulty fs => fs.find? fun f => f.operation.same (.text operation)
  | _ => none

/-- Replaces the order to fail for an operation. -/
def setInjected (e : Engine) (operation : String) (f : Option InjectedFailure) : Engine :=
  match e.backend with
  | .faulty fs =>
    { e with backend := .faulty (f.toList ++ fs.filter fun g => !g.operation.same (.text operation)) }
  | _ => e

/-! ## Actions -/

/-- An action of an engine. -/
abbrev Acting (α : Type) := Action (Engine × Surroundings) α

def accepted : Value := .int 0

def refused (r : Refusal) : Value := .refusal r

def engine : Acting Engine := return (← get).1

def change (f : Engine → Engine) : Acting Unit := modify fun (e, w) => (f e, w)

/-- Whether a value counts as true. -/
def isTrue (v : Value) : Acting Bool := do
  let (_, w) ← get
  Action.ofFault (v.truthy w.view)

/-- The code with which the next call of an operation is made to fail, or 0. -/
def injectedCode (operation : String) : Acting Value := do
  match (← engine).injected? operation with
  | none => return accepted
  | some f =>
    let next ← Action.ofExcept f.next
    change (·.setInjected operation next)
    return f.code

/-- Goes on with a call unless it is made to fail. -/
def unlessInjected {α : Type} (operation : String) (refuse : Value → α) (x : Acting α) :
    Acting α := do
  let code ← injectedCode operation
  if ← isTrue code then return refuse code else x

/-- Records a call and goes on with it unless it is made to fail. -/
def recorded (c : Call) (x : Acting Value) : Acting Value := do
  change (·.record c)
  unlessInjected c.operation id x

/-- Calls the native solver; an engine that has ended has none. -/
def callSolver (c : SolverCall) : Acting Reply := do
  match (← engine).backend with
  | .native (some i) =>
    let (e, w) ← get
    let (reply, solver) := w.solver.call i c
    set (e, { w with solver })
    return reply
  | _ => throw (.fault .missingMember)

/-- The instance of the native solver. -/
def solverInstance : Acting SolverInstance := do
  match (← get) with
  | ({ backend := .native (some i), .. }, w) => return w.solver.instance? i
  | _ => throw (.fault .missingMember)

end Engine

end Milp

import Milp.Session.Call
import Milp.Session.Reach
set_option autoImplicit false

/-! # Steps of a session

A caller works in steps. Each step gives a value or fails; either way it may have made calls to
engines and to the native solver, logged messages and given warnings, which are reported with it. A
value can be bound to a name, and a model that cannot be reached any more is released. -/

namespace Milp

namespace Session

/-- What a caller can ask for, with names already replaced by what they stand for. -/
inductive Step where
  | var (request : Var.Request)
  | expr (terms : Value)
  | constraint (expr sense bound name : Value)
  /-- An operator or a method on operands. -/
  | operate (operator : String) (operands : List Value)
  | inspect (v : Value)
  | coefficient (expr v : Value)
  | settings (named : List (String × Value))
  | defaultSettings (named : List (String × Value)) (logger : Bool)
  | settingsFiles
  | logger (level : Value)
  | environment (named : List (String × Value))
  | engine (key modelName : Value)
  | model (environment name : Value)
  | call (target : Value) (name : String) (args : Arguments)
  | drop (name : String)
  | read (file : String)
  | script (method : String) (s : FailureScript)
  | outcomes (os : List Outcome)

/-! ## Tables in arguments -/

/-- A value whose tables are kept as nodes. -/
def intern (v : Value) : Acting Value := do
  let s ← get
  let (v, settings) := s.settings.intern v
  set { s with settings }
  return v

def internNamed (named : List (String × Value)) : Acting (List (String × Value)) :=
  named.mapM fun n => do return (n.1, ← intern n.2)

/-- A step whose tables are kept as nodes. -/
def internStep : Step → Acting Step
  | .var r => do
    return .var { lower := ← intern r.lower, upper := ← intern r.upper,
                  domain := ← intern r.domain, objective := ← intern r.objective,
                  name := ← intern r.name }
  | .expr terms => .expr <$> intern terms
  | .constraint e sense bound name => do
    return .constraint (← intern e) (← intern sense) (← intern bound)
      (← intern name)
  | .operate operator operands => .operate operator <$> operands.mapM intern
  | .inspect v => .inspect <$> intern v
  | .coefficient e v => do return .coefficient (← intern e) (← intern v)
  | .settings named => .settings <$> internNamed named
  | .defaultSettings named logger => do return .defaultSettings (← internNamed named) logger
  | .logger level => .logger <$> intern level
  | .environment named => .environment <$> internNamed named
  | .engine key modelName => do return .engine (← intern key) (← intern modelName)
  | .model env name => do return .model (← intern env) (← intern name)
  | .call target name args => do
    let positional ← args.positional.mapM intern
    return .call target name { positional, named := ← internNamed args.named }
  | st => return st

/-! ## Operators -/

/-- The operators by their signs. -/
def operatorOf? : String → Option Operator
  | "+" => some .plus
  | "-" => some .minus
  | "*" => some .times
  | "<=" => some .atMost
  | ">=" => some .atLeast
  | _ => none

/-- Applies an operator or a function to operands. A constraint that it makes gets the given
identity. -/
def operate (view : View) (id : Nat) (operator : String) (operands : List Value) :
    Except Failure Value := do
  match operatorOf? operator, operator, operands with
  | some op, _, [v, w] => Value.combine id op v w
  | none, "neg", [v] => v.negate
  | none, "sum", [v] => do Value.sum (← Failure.lift (v.allElements view)) (.int 0)
  | none, "sum", [v, start] => do Value.sum (← Failure.lift (v.allElements view)) start
  | none, "sum_expr", [v] => Value.sumExpressions view v
  | none, "scal_prod", [v, w] => Value.scalarProduct view v w
  | _, _, _ => .error (.fault .wrongType)

def isOperator (s : String) : Bool :=
  (operatorOf? s).isSome || s ∈ ["neg", "sum", "sum_expr", "scal_prod"]

/-! ## Carrying out a step -/

/-- Looks an expression's coefficient up in all ways: twice as a number, and whether it has one. -/
def lookUp (view : View) (expr v : Value) : Except Failure Value :=
  match expr with
  | .expr _ e => Failure.lift do
    let k ← coefficientOf e v
    let mentioned := match v with
      | .var x => e.mentions x
      | _ => false
    return .list [.float k, .float k, .bool mentioned]
  | v => .error (.fault (Failure.noMember view v "get_coef"))

/-- New settings with further ones by quick names. None of them can be called `self`. -/
def newSettings (named : List (String × Value)) : Acting Nat := do
  if named.any (·.1 = "self") then throw (.fault .wrongType)
  onSettings .nothing (SettingsReader.create (named.map fun n => (.text n.1, n.2)))

/-- New settings as files say; the handler that is told about them is new if one is asked for. -/
def newDefaultSettings (named : List (String × Value)) (logger : Bool) : Acting Nat := do
  if logger then
    if (named.lookup "logger").isSome then throw (.fault .wrongType)
    newSettingsFromFiles (named ++ [("logger", ← newHandler (.text "info"))])
  else newSettingsFromFiles named

/-- What a step does, apart from binding its value. -/
def perform : Step → Acting Value
  | .var request => do return .var (← Action.ofExcept (Var.ofValues (← freshVar) request))
  | .expr terms => do
    return .expr 0 (← Action.ofExcept (LinearExpr.ofListing (← get).view terms))
  | .constraint expr sense bound name => do
    return .constraint
      (← Action.ofExcept (Constraint.ofValues (← freshConstraint) expr sense bound name))
  | .operate operator operands => do
    if isOperator operator then
      Action.ofExcept (operate (← get).view (← freshConstraint) operator operands)
    else
      match operands with
      | v :: rest => call v operator { positional := rest }
      | [] => throw (.fault .badIndex)
  | .inspect v => return v
  | .coefficient expr v => do Action.ofExcept (lookUp (← get).view expr v)
  | .settings named => do return .ref (.settings (← newSettings named))
  | .defaultSettings named logger => do
    return .ref (.settings (← newDefaultSettings named logger))
  | .settingsFiles => do
    let s ← get
    return .list ((SettingsReader.defaultFiles s.files s.searchPath).map .text)
  | .logger level => newHandler level
  | .environment named => do
    if named.any (·.1 = "self") then throw (.fault .wrongType)
    return .ref (.environment (← makeEnvironment named))
  | .engine key modelName => do
    return .ref (.engine (.free (← onEngines (EngineFactory.make key modelName))))
  | .model .nothing name => do newModel (.ref (.environment (← makeEnvironment []))) name
  | .model environment name => newModel environment name
  | .call target name args => call target name args
  | .drop _ => return .nothing
  | .read file => do return .text (← Action.ofFault ((← get).files.read file))
  | .script method script => do
    modify fun s => { s with solver := s.solver.setScript method script.answers }
    return .nothing
  | .outcomes os => do
    modify fun s => { s with solver := s.solver.addOutcomes os }
    return .nothing

/-! ## Names -/

/-- What a name stands for. -/
def lookup (s : Session) (name : String) : Except Failure Value :=
  match s.names.lookup name with
  | some v => .ok v
  | none => .error (.unbound name)

def bindName (s : Session) (name : String) (v : Value) : Session :=
  { s with names := (name, v) :: s.names.filter (·.1 ≠ name) }

def unbindName (s : Session) (name : String) : Session :=
  { s with names := s.names.filter (·.1 ≠ name) }

/-! ## Results -/

mutual

/-- A value in which expressions that callers have not met have tags of their own. -/
def tagged (next : Nat) : Value → Value × Nat
  | .expr 0 e => (.expr next e, next + 1)
  | .list xs =>
    let (xs, next) := taggedAll next xs
    (.list xs, next)
  | .tuple xs =>
    let (xs, next) := taggedAll next xs
    (.tuple xs, next)
  | .array kind xs =>
    let (xs, next) := taggedAll next xs
    (.array kind xs, next)
  | v => (v, next)

def taggedAll (next : Nat) : List Value → List Value × Nat
  | [] => ([], next)
  | x :: xs =>
    let (x, next) := tagged next x
    let (xs, next) := taggedAll next xs
    (x :: xs, next)

end

/-- Adds an identity to those that have been seen. -/
def see (seen : List Nat) (id : Nat) : List Nat :=
  if seen.contains id then seen else seen ++ [id]

def seeVar (s : Session) (v : Var) : Session := { s with seenVars := see s.seenVars v.id }

def seeVars (s : Session) (vs : List Var) : Session := vs.foldl seeVar s

mutual

/-- Sees the variables and constraints of a value, down to a number of nodes within nodes. -/
def seeValue (depth : Nat) (s : Session) (v : Value) : Session :=
  match v with
  | .var v => s.seeVar v
  | .expr _ e => s.seeVars e.vars
  | .constraint c =>
    { s with seenConstraints := see s.seenConstraints c.id }.seeVars c.expr.vars
  | .list xs | .tuple xs | .array _ xs => seeAll depth s xs
  | .cell _ x => seeValue depth s x
  | .table es => seeEntries depth s es
  | .ref r =>
    match depth, s.entriesAt? r with
    | depth + 1, some es => seeEntries depth s es
    | _, _ => s
  | _ => s
termination_by (depth, 1 + sizeOf v)

def seeAll (depth : Nat) (s : Session) (vs : List Value) : Session :=
  match vs with
  | [] => s
  | x :: xs => seeAll depth (seeValue depth s x) xs
termination_by (depth, 1 + sizeOf vs)

def seeEntries (depth : Nat) (s : Session) (es : List (Value × Value)) : Session :=
  match es with
  | [] => s
  | (_, v) :: rest => seeEntries depth (seeValue depth s v) rest
termination_by (depth, 1 + sizeOf es)

end

/-! ## What is reported with a step -/

/-- Meets an engine for the first time, unless it has the native solver behind it. -/
def meet (s : Session) (r : EngineRef) : Session :=
  match s.engineAt? r with
  | some e => if e.isNative || s.met.any (·.1 = r) || s.silent.contains r then s else { s with met := s.met ++ [(r, 0)] }
  | none => s

mutual

/-- The engines that a value leads to. -/
def enginesIn : Value → List EngineRef
  | .ref (.engine r) => [r]
  | .ref (.model i) => [.ofModel i]
  | .list xs | .tuple xs => enginesInAll xs
  | _ => []

def enginesInAll : List Value → List EngineRef
  | [] => []
  | x :: xs => enginesIn x ++ enginesInAll xs

end

/-- A call of an engine that a step reports, with the number of the engine. -/
abbrev ReportedCall := Nat × Call

/-- The calls of engines that have not been reported yet. A log that was cleared is reported from its
beginning. -/
def newCalls (s : Session) : List ReportedCall :=
  (s.met.zip (List.range s.met.length)).flatMap fun ((r, reported), number) =>
    match s.engineAt? r with
    | none => []
    | some e =>
      let reported := if e.calls.length < reported then 0 else reported
      (e.calls.drop reported).map (number, ·)

/-- Takes note that all calls have been reported. -/
def markReported (s : Session) : Session :=
  { s with met := s.met.map fun (r, n) => (r, ((s.engineAt? r).map (·.calls.length)).getD n) }

/-- The result of a step, with what happened meanwhile. -/
structure Result where
  outcome : Except Failure Value
  calls : List ReportedCall
  native : List (Nat × SolverCall)
  log : List LogRecord
  warnings : List String
  /-- The committed and queued entities of the model that was called. -/
  counts : Option (List Nat)

/-- The model that a value refers to. -/
def modelOf? : Value → Option Nat
  | .ref (.model i) => some i
  | _ => none

def countsOf (m : Model) : List Nat :=
  [m.vars.length, m.constraints.length, m.pendingVars.length,
    m.pendingConstraints.length]

/-- What a value is bound to, as the caller asks for it. -/
inductive Binding where
  | none
  | named (name : String)
  /-- To something that is no name. -/
  | impossible

/-- Takes note of a value that a caller receives: tables become nodes, entities get serial numbers,
and engines are met. -/
def receive (s : Session) (v : Value) : Value × Session :=
  let (v, settings) := s.settings.intern v
  let (v, nextTag) := tagged s.nextTag v
  let s := { s with settings, nextTag }
  let s := s.seeValue (settings.nodes.length + 1) v
  (v, (enginesIn v).foldl meet s)

/-- What follows from the outcome of a step: its value is received and bound to a name. -/
def settle (s : Session) (binding : Binding) (outcome : Except Failure Value) :
    Except Failure Value × Session :=
  match outcome, binding with
  | .error f, _ => (.error f, s)
  | .ok _, .impossible => (.error (.fault .wrongType), s)
  | .ok v, .none =>
    let (v, s) := s.receive v
    (.ok v, s)
  | .ok v, .named name =>
    let (v, s) := s.receive v
    (.ok v, s.bindName name v)

/-- The name that a step takes the meaning from. -/
def dropped? : Except Failure Step → Option String
  | .ok (.drop name) => some name
  | _ => none

/-- The model that is called, before and after a step. -/
def countsAt (s : Session) (target : Option Value) : Option (List Nat) :=
  ((target.bind modelOf?).bind (s.models[·]?)).map countsOf

/-- Carries a step out and binds its value, if it is to be bound. A step that could not be understood
fails. The counts of the model that the step is addressed to are reported with it. What only the
step before it had answered is lost when it begins. -/
def run (s : Session) (step : Except Failure Step) (target : Option Value) (binding : Binding) :
    Result × Session :=
  let s := s.releaseLost .nothing
  let before := s.solver.trace.length
  let (outcome, s) := (Action.ofExcept step >>= internStep >>= perform).perform s
  let (outcome, s) := s.settle binding outcome
  let s := match dropped? step with
    | some dropped => s.unbindName dropped
    | none => s
  let s := s.releaseLost ((outcome.toOption).getD .nothing)
  let result : Result :=
    { outcome
      calls := s.newCalls
      native := s.solver.trace.drop before
      log := s.log
      warnings := s.warnings
      counts := s.countsAt target }
  (result, { s.markReported with log := [], warnings := [] })

end Session

end Milp

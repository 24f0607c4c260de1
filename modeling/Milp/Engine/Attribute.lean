import Milp.Engine.Native
import Milp.Lp.Printer
set_option autoImplicit false

/-! # Reading and setting attributes, parameters, files and the end

A reader answers a status and a value, which is missing when the status is not 0. -/

namespace Milp.Engine

/-- A status with a value. -/
abbrev Answer := Value × Value

def found (v : Value) : Answer := (accepted, v)

def notFound (r : Refusal) : Answer := (refused r, .nothing)

/-- Goes on with a reader unless it is made to fail. -/
def readUnlessInjected (operation : String) (x : Acting Answer) : Acting Answer :=
  unlessInjected operation (fun code => (code, .nothing)) x

/-- The attribute whose name a value is, among some. -/
def attributeOf {α : Type} (name : α → String) (v : Value) : List α → Except Fault (Option α)
  | [] => .ok none
  | a :: rest => do if ← v.equals (.text (name a)) then return some a else attributeOf name v rest

/-! ## The model -/

def modelAttribute (e : Engine) : ModelAttribute → Value
  | .sense => e.sense
  | .status => .int e.solution.status
  | .columnCount => .int e.columns.length
  | .rowCount => .int e.rows.length
  | .isMixedInteger => .int (if e.columns.any fun c => c.kind ≠ .continuous then 1 else 0)

/-- Reads a whole number of the model. -/
def getModelAttribute (attr : Value) : Acting Answer :=
  readUnlessInjected "get_int_attr" do
    match ← Action.ofFault (attributeOf ModelAttribute.name attr ModelAttribute.all) with
    | some a => return found (modelAttribute (← engine) a)
    | none => return notFound .invalidArgument

/-- Reads the objective value. -/
def getObjective (attr : Value) : Acting Answer :=
  readUnlessInjected "get_dbl_attr" do
    if !(← Action.ofFault (attr.equals (.text objectiveAttribute))) then
      return notFound .invalidArgument
    match (← engine).solution.objective with
    | some x => return found (.number x)
    | none => return notFound .dataNotAvailable

/-- The direction that a value other than 1 stands for is to maximize. -/
def directionOf (v : Value) : Except Fault Direction := do
  return if ← v.equals (.int 1) then .minimize else .maximize

/-- Whether a value is one of the numbers of the directions. -/
def isDirection (v : Value) : Except Fault Bool := do
  if ← v.equals (.int 1) then return true else v.equals (.int (-1))

/-- Changes the direction, unless it is the current one. -/
def setDirection (value : Value) : Acting Value := do
  let e ← engine
  if ← Action.ofFault (value.equals e.sense) then return accepted
  let d ← Action.ofFault (directionOf value)
  if !(← ifNative (return (← callSolver (.setDirection d)) ≠ .error)) then
    return refused .engineFailure
  change fun e => { e with sense := value }
  change clearSolution
  return accepted

/-- Sets a whole number of the model; only the direction can be set. -/
def setModelAttribute (attr value : Value) : Acting Value :=
  recorded (.setModelAttribute attr value) do
    if ← Action.ofFault (attr.equals (.text ModelAttribute.sense.name)) then
      if ← Action.ofFault (isDirection value) then setDirection value
      else return refused .invalidArgument
    else return refused .invalidArgument

/-! ## Columns and rows -/

/-- The element that a caller's position stands for. -/
def elementAt {α : Type} (xs : List α) (index : Value) : Except Fault α := do
  match xs[(← index.toIndex).toNat]? with
  | some x => return x
  | none => .error .badIndex

def columnAttribute (c : Column) : VarAttribute → Value
  | .objective => .float c.objective
  | .lower => .float c.lower
  | .upper => .float c.upper
  | .kind => .text c.kind.code
  | .name => c.name
  | .value => .nothing

/-- The value of a column in a solution, if there is one. -/
def solutionAnswer (values : Option (List Double)) (index : Value) : Except Fault Answer := do
  match values with
  | none => return notFound .dataNotAvailable
  | some values => return found (.float (← elementAt values index))

/-- Reads an attribute of a column. -/
def getVarAttribute (attr index : Value) : Acting Answer :=
  readUnlessInjected "get_var_attr" do
    let e ← engine
    if !(← Action.ofExcept (isPosition index e.columns.length)) then
      return notFound .indexOutOfRange
    Action.ofFault do
      if ← attr.equals (.text VarAttribute.value.label) then
        solutionAnswer e.solution.values index
      else
        match ← decode VarAttribute.ofLabel? attr with
        | none => return notFound .invalidArgument
        | some a => return found (columnAttribute (← elementAt e.columns index) a)

/-- Whether a row is in an irreducible infeasible subsystem, if one is known. -/
def iisAnswer (iis : Option (List Nat)) (index : Value) : Except Fault Answer := do
  match iis with
  | none => return notFound .dataNotAvailable
  | some iis =>
    if !index.isKey then .error .wrongType
    let i ← index.toIndex
    return found (.int (if iis.any fun r => (r : Int) = i then 1 else 0))

/-- Reads an attribute of a row. -/
def getConstraintAttribute (attr index : Value) : Acting Answer :=
  readUnlessInjected "get_constr_attr" do
    let e ← engine
    if !(← Action.ofExcept (isPosition index e.rows.length)) then
      return notFound .indexOutOfRange
    Action.ofFault do
      let row ← elementAt e.rows index
      match ← attributeOf ConstraintAttribute.label attr [.bound, .sense, .name, .inIis] with
      | none => return notFound .invalidArgument
      | some .bound => return found (.float row.bound)
      | some .sense => return found (.text row.sense.code)
      | some .name => return found row.name
      | some .inIis => iisAnswer e.solution.iis index

/-! ## Parameters -/

/-- The names by which the native solver knows parameters; others keep theirs. -/
def optionName (v : Value) : Value :=
  match v.text? with
  | some "log_output" => .text "output_flag"
  | some "mip_gap" => .text "mip_rel_gap"
  | _ => v

/-- Stores a parameter. -/
def storeParameter (name value : Value) : Acting Unit :=
  change fun e => { e with parameters := Value.insert e.parameters name value }

/-- Sets a parameter of the native solver, which takes its output flag as a truth value. -/
def setNativeParameter (name value : Value) : Acting Value := do
  if !name.isKey then throw (.fault .wrongType)
  let option := optionName name
  let value ← if option.same (.text "output_flag") then
      .bool <$> isTrue value
    else pure value
  if (← callSolver (.setOption option value)) = .error then return refused .invalidArgument
  storeParameter name value
  return accepted

/-- Sets a parameter. -/
def setParameter (name value : Value) : Acting Value := do
  if (← engine).isNative then setNativeParameter name value
  else recorded (.setParameter name value) do
    if !name.isKey then throw (.fault .wrongType)
    storeParameter name value
    return accepted

/-! ## Files -/

/-- A column as it is printed. -/
def Column.printed (c : Column) : Lp.Column :=
  { objective := .float c.objective, lower := .float c.lower, upper := .float c.upper,
    kind := .text c.kind.code, name := c.name }

/-- A row as it is printed. -/
def Row.printed (r : Row) : Lp.Row :=
  { indices := .list r.indices, values := .list (r.values.map .float), sense := .text r.sense.code,
    bound := .float r.bound, name := r.name }

/-- The model as it is printed. -/
def printed (e : Engine) : Lp.Model :=
  { name := e.modelName, sense := e.sense, columns := e.columns.map Column.printed,
    rows := e.rows.map Row.printed }

/-- Writes the model to a file that can be written, as far as it can be printed. -/
def writePrinted (names : List String) : Acting Value := do
  let (e, w) ← get
  let (text, failure) := e.printed.text w.view (.int 1)
  set (e, { w with files := w.files.write names text })
  match failure with
  | some f => throw f
  | none => return accepted

/-- Writes the model to the file at a path. -/
def writeFile (path : String) : Acting Value := do
  let (_, w) ← get
  match w.files.writablePlace path with
  | .ok names => writePrinted names
  | .error .badPath => throw (.fault .badPath)
  | .error _ => return refused .fileWriteError

/-- Writes the model to a file in the LP format, which the ending of its name must ask for. -/
def writeLp (file : Value) : Acting Value := do
  let (_, w) ← get
  if !(Text.lower (file.display w.view)).endsWith ".lp" then return refused .notSupported
  match file.text? with
  | some path => writeFile path
  | none => throw (.fault .wrongType)

def writeNative (file : Value) : Acting Value := do
  let (_, w) ← get
  if (← callSolver (.write (file.display w.view))) = .error then return refused .fileWriteError
  return accepted

/-- Writes the model to a file. -/
def write (file : Value) : Acting Value := do
  if (← engine).isNative then writeNative file else recorded (.write file) (writeLp file)

/-! ## The end -/

/-- Releases the engine. What it stores can still be read. -/
def finish : Acting Value := do
  change fun e =>
    let e := e.record .finish
    { e with ended := true, backend := if e.isNative then .native none else e.backend }
  return accepted

/-! ## Creation -/

/-- A new engine with the native solver behind it. -/
def createNative (modelName : Value) : Action Surroundings Engine := do
  let (i, solver) := (← get).solver.create
  let (_, solver) := solver.call i (.setOption (.text "output_flag") (.bool false))
  modify fun w => { w with solver }
  return { backend := .native (some i), modelName }

end Milp.Engine

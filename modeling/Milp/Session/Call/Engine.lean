import Milp.Session.Call.Basic
set_option autoImplicit false

/-! # Calls of engines -/

namespace Milp.Session

/-- A recorded call as a table. -/
def payloadOf (c : Call) : Value := .table (c.payload.map fun p => (.text p.1, p.2))

/-- The payloads of the recorded calls of an operation. -/
def callsOf (e : Engine) (operation : Value) : Except Fault (List Value) := do
  let calls ← e.calls.filterM fun c => Value.equals (.text c.operation) operation
  return calls.map payloadOf

/-- An answer as a pair. -/
def answer (x : Engine.Acting Engine.Answer) : Engine.Acting Value := do
  let (status, value) ← x
  return .tuple [status, value]

/-- Orders an operation of an engine to fail; only engines made for it take such orders. -/
def failOn (r : EngineRef) (args : Arguments) : Acting Value := do
  let (operation, code, times) ← fromFault (args.bind3 (given "operation")
    (optional "code" (Engine.refused .engineFailure)) (optional "times"))
  if !operation.isKey then throw (.fault .wrongType)
  void (onEngine r (Engine.change (·.failOn { operation, code, times })))

/-- The operations that build a model. -/
def callBuilder (r : EngineRef) (name : String) (args : Arguments) : Acting Value := do
  let all (names : List String) : Acting (List Value) :=
    fromFault (args.bind (Arguments.required names))
  let mismatch : Acting Value := throw (.fault .wrongType)
  match name with
  | "add_var" =>
    match ← all ["obj", "lb", "ub", "vtype", "name"] with
    | [o, l, u, k, n] => onEngine r (Engine.addVar o l u k n)
    | _ => mismatch
  | "add_vars" =>
    match ← all ["count", "objs", "lbs", "ubs", "vtypes", "names"] with
    | [c, o, l, u, k, n] => onEngine r (Engine.addVars c o l u k n)
    | _ => mismatch
  | "add_constr" =>
    match ← all ["nnz", "ind", "val", "sense", "rhs", "name"] with
    | [s, i, v, k, b, n] => onEngine r (Engine.addConstraint s i v k b n)
    | _ => mismatch
  | "add_constrs" =>
    match ← all ["count", "nnz", "beg", "ind", "val", "senses", "rhss", "names"] with
    | [c, s, b, i, v, k, rs, n] => onEngine r (Engine.addConstraints c s b i v k rs n)
    | _ => mismatch
  | _ => unknownName

def callEngine (r : EngineRef) (name : String) (args : Arguments) : Acting Value := do
  match (← get).engineAt? r with
  | none => unknownName
  | some e =>
    let plain (x : Acting Value) : Acting Value := do
      fromFault args.bind0
      x
    let one (p : String) (x : Value → Acting Value) : Acting Value := do
      x (← fromFault (args.bind1 (given p)))
    let two (p q : String) (x : Value → Value → Acting Value) : Acting Value := do
      let (a, b) ← fromFault (args.bind2 (given p) (given q))
      x a b
    match name with
    | "call_log" =>
      return .list (e.calls.map fun c => .tuple [.text c.operation, payloadOf c])
    | "parameters" => return .table e.parameters
    | "number_of_columns" => return ofNat e.columns.length
    | "number_of_rows" => return ofNat e.rows.length
    | "highs" =>
      match e.backend with
      | .native (some i) => return .ref (.solver i)
      | .native none => return .nothing
      | _ => unknownName
    | "name" => plain (return .text e.name)
    | "is_ended" => plain (return .bool e.ended)
    | "calls" => one "operation" fun o => .list <$> fromFault (callsOf e o)
    | "number_of_calls" => one "operation" fun o => do
        return ofNat (← fromFault (callsOf e o)).length
    | "clear_call_log" => plain (void (onEngine r (Engine.change ({ · with calls := [] }))))
    | "fail_on" => if e.backend matches .faulty _ then failOn r args else unknownName
    | "clear_failures" =>
      if e.backend matches .faulty _ then
        plain (void (onEngine r (Engine.change (·.clearFailures))))
      else unknownName
    | "update_model" => plain (onEngine r Engine.updateModel)
    | "optimize" => plain (onEngine r Engine.optimize)
    | "compute_iis" => plain (onEngine r Engine.computeIis)
    | "end" => plain (onEngine r Engine.finish)
    | "write" => one "filename" fun f => onEngine r (Engine.write f)
    | "get_int_attr" => one "attr" fun a => onEngine r (answer (Engine.getModelAttribute a))
    | "get_dbl_attr" => one "attr" fun a => onEngine r (answer (Engine.getObjective a))
    | "set_int_attr" => two "attr" "value" fun a v => onEngine r (Engine.setModelAttribute a v)
    | "get_var_attr" =>
      two "attr" "index" fun a i => onEngine r (answer (Engine.getVarAttribute a i))
    | "get_constr_attr" =>
      two "attr" "index" fun a i => onEngine r (answer (Engine.getConstraintAttribute a i))
    | "set_parameter" => two "name" "value" fun n v => onEngine r (Engine.setParameter n v)
    | _ => callBuilder r name args

end Milp.Session

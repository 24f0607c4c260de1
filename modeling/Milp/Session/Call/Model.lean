import Milp.Session.Call.Handler
set_option autoImplicit false

/-! # Calls of models -/

namespace Milp.Session

/-- The variable that the arguments of a factory ask for. -/
def requestOf (kind : VarKind) (args : Arguments) : Except Fault Var.Request := do
  let domain := Value.text kind.code
  match kind with
  | .binary =>
    let (objective, name) ← args.bind2 (optional "obj" (.int 0)) (optional "name")
    return { lower := .int 0, upper := .int 1, domain, objective, name }
  | _ =>
    match ← args.bind [optional "lb", optional "ub", optional "obj" (.int 0), optional "name"] with
    | [lower, upper, objective, name] => return { lower, upper, domain, objective, name }
    | _ => .error .wrongType

/-- What is read off a model by the name of a property or of an operation that only looks at it. -/
def queryOf (name : String) (args : Arguments) : Except Fault (Option Model.Query) := do
  let plain (q : Model.Query) : Except Fault (Option Model.Query) := do
    args.bind0
    return some q
  match name with
  | "name" => return some .name
  | "environment" => return some .environment
  | "error_handler" => return some .handler
  | "number_of_variables" => return some .varCount
  | "number_of_constraints" => return some .constraintCount
  | "number_of_pending_variables" => return some .pendingVarCount
  | "number_of_pending_constraints" => return some .pendingConstraintCount
  | "is_ended" => plain .isEnded
  | "iter_variables" => plain .vars
  | "iter_constraints" => plain .constraints
  | "get_output_level" => plain .outputLevel
  | "get_var_index" => return some (.varIndex (← args.bind1 (given "var")))
  | "get_constraint_index" => return some (.constraintIndex (← args.bind1 (given "ct")))
  | "get_var_by_name" => return some (.varByName (← args.bind1 (given "name")))
  | _ => return none

/-- The operation that a name and arguments stand for. A new entity gets an identity of its own. -/
def operationOf (name : String) (args : Arguments) : Acting (Option Model.Operation) := do
  let plain (op : Model.Operation) : Acting (Option Model.Operation) := do
    fromFault args.bind0
    return some op
  let one (p : String) (op : Value → Model.Operation) : Acting (Option Model.Operation) := do
    return some (op (← fromFault (args.bind1 (given p))))
  let newVar (kind : VarKind) : Acting (Option Model.Operation) := do
    let request ← fromFault (requestOf kind args)
    return some (.newVar (← freshVar) request)
  match name with
  | "add" => one "entity" .add
  | "add_var" => one "var" .addVar
  | "add_constraint" => one "ct" .addConstraint
  | "continuous_var" => newVar .continuous
  | "integer_var" => newVar .integer
  | "binary_var" => newVar .binary
  | "linear_constraint" =>
    match ← fromFault (args.bind [given "lhs", given "sense", given "rhs", optional "name"]) with
    | [lhs, sense, rhs, name] =>
      return some (.newConstraint (← freshConstraint) lhs sense rhs name)
    | _ => throw (.fault .wrongType)
  | "update" => plain .update
  | "optimize" => plain .optimize
  | "compute_iis" => plain .computeIis
  | "end" => plain .finish
  | "status" => plain .status
  | "get_sense" => plain .getSense
  | "objective_value" => plain .objectiveValue
  | "iis_constraints" => plain .iisConstraints
  | "set_sense" => one "sense" .setSense
  | "write" => one "filename" .write
  | "value" => one "var" .value
  | "get_var_attribute" =>
    let (v, attr) ← fromFault (args.bind2 (given "var") (given "attr"))
    return some (.varAttribute v attr)
  | "get_constraint_attribute" =>
    let (c, attr) ← fromFault (args.bind2 (given "ct") (given "attr"))
    return some (.constraintAttribute c attr)
  | "get_engine" => plain .getEngine
  | "set_output_level" => one "output_level" .setOutputLevel
  | _ =>
    match severityOf? name with
    | some s =>
      let (message, rest) ← fromFault args.bindMessage
      return some (.tell s message (.tuple rest))
    | none => return (← fromFault (queryOf name args)).map .query

/-- Calls an operation of a model or reads a property of it. -/
def callModel (i : Nat) (name : String) (args : Arguments) : Acting Value := do
  match ← operationOf name args with
  | some op => onModel i (op.run i)
  | none => unknownName

end Milp.Session

import Milp.Session.Call.Basic
set_option autoImplicit false

/-! # Calls of message handlers, and of directions, which may use one -/

namespace Milp.Session

def severityOf? : String → Option Severity
  | "trace" => some .trace
  | "info" => some .info
  | "warning" => some .warning
  | "error" => some .error
  | "fatal" => some .fatal
  | _ => none

def setOutputLevel (r : HandlerRef) (args : Arguments) : Acting Value := do
  onHandler r (Handler.changeLevel (← fromFault (args.bind1 (given "output_level"))))

def outputLevelOf (r : HandlerRef) : Acting Value :=
  onHandler r do return (← get).1.level.toValue

def callHandler (r : HandlerRef) (name : String) (args : Arguments) : Acting Value := do
  match name with
  | "number_of_errors" => onHandler r do return ofNat (← get).1.errors
  | "number_of_warnings" => onHandler r do return ofNat (← get).1.warnings
  | "get_output_level" => fromFault args.bind0; outputLevelOf r
  | "set_output_level" => setOutputLevel r args
  | _ =>
    match severityOf? name with
    | some s =>
      let (message, args) ← fromFault (args.bind2 (given "msg") (optional "args"))
      onHandler r (Handler.tell s message args)
    | none => unknownName

/-- Directions are read from a value by one of them. A handler that is given logs a value that is
none. -/
def callDirection (d : Direction) (name : String) (args : Arguments) : Acting Value := do
  match name with
  | "parse" => do
    let (arg, logger) ← fromFault (args.bind2 (given "arg") (optional "logger"))
    match Direction.ofValue arg with
    | .ok d => return .direction d
    | .error (.fault f) => throw (.fault f)
    | .error f =>
      let view := (← get).view
      if ← fromFault (logger.truthy view) then
        match logger with
        | .ref (.handler r) => onHandler r (Handler.raiseFailure f)
        | _ => throw (.fault (Failure.noMember view logger "fatal"))
      else throw f
  | _ => fromFault (Value.member (← get).view (.direction d) name)

end Milp.Session

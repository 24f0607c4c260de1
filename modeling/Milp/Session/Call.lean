import Milp.Session.Call.Engine
import Milp.Session.Call.Entity
import Milp.Session.Call.Model
import Milp.Session.Call.Settings
set_option autoImplicit false

/-! # Calls by name

The operations and properties of each kind of object, by the names under which callers know them. A
property is read without regard to arguments, and a note on an object takes the place of an operation
of the same name. -/

namespace Milp.Session

/-- A value as it is quoted, if all that its text shows can be looked up. -/
def quote (v : Value) : Acting Value := do
  let s ← get
  match v with
  | .ref (.environment i) =>
    match s.environments[i]? with
    | some env => .text <$> Action.ofFault (env.description s.view s.settings)
    | none => unknownName
  | v => return .text (v.description s.view)

/-- A value as it is printed. -/
def print (v : Value) : Acting Value := do
  match v with
  | .ref (.environment _) => quote v
  | v => return .text (v.display (← get).view)

/-- Leaves the use of a value: a model ends. -/
def leave (v : Value) : Acting Value := do
  match v with
  | .ref (.model i) => void (onModel i Model.finish)
  | .ref r => if ((← get).ownerAt? r).isSome then throw (.fault .reservedSetting) else unknownName
  | _ => unknownName

/-- Adds to a value: to a model an entity, to a list the elements of any sequence, to anything else what
its sum takes. -/
def addTo (v : Value) (args : Arguments) : Acting Value := do
  match args.positional, args.named with
  | [w], [] =>
    match v with
    | .ref (.model i) =>
      let _ ← onModel i (Model.add w)
      return v
    | .list xs =>
      if w.isGrid || w.operand?.isSome then Action.ofExcept (Value.combine 0 .plus v w)
      else return .list (xs ++ (← fromFault (w.allElements (← get).view)))
    | v => Action.ofExcept (Value.combine 0 .plus v w)
  | _, _ => throw (.fault .wrongType)

/-- Calls an operation or reads a property of an object. -/
def callObject (r : Ref) (name : String) (args : Arguments) : Acting Value := do
  match r, (← get).settings.note? r name with
  | _, some v => return v
  | .model i, none => callModel i name args
  | .environment i, none => callEnvironment i name args
  | .settings i, none => callSettings i name args
  | .engine r, none => callEngine r name args
  | .handler r, none => callHandler r name args
  | .solver _, none => unknownName

/-- Calls an operation or reads a property of a value. -/
def call (target : Value) (name : String) (args : Arguments) : Acting Value := do
  match name, target with
  | "str", _ => print target
  | "repr", _ => quote target
  | "exit", _ => leave target
  | "iadd", _ => addTo target args
  | _, .ref r => callObject r name args
  | _, .var v => callVar v name args
  | _, .expr _ e => callExpr e name args
  | _, .constraint c => callConstraint c name args
  | _, .domain kind infinity => callDomain kind infinity name args
  | _, .sense s => callSense s name args
  | _, .direction d => callDirection d name args
  | _, _ => fromFault (target.member (← get).view name)

end Milp.Session

import Milp.Template
set_option autoImplicit false

/-! # Failures of the modelling layer

Every way in which a call can be refused, with the values that its message shows. A failure is a
cause; its wording is in one place (`Failure.message?`), and so is the category under which callers
can catch it (`Failure.category`). -/

namespace Milp

/-- What callers can tell apart without reading a message. -/
inductive Category where
  | modelling
  | engine
  | ended
  | unknownVariable
  | duplicate
  | fault (f : Fault)
  /-- A name that nothing is bound to. -/
  | unbound
deriving DecidableEq, Repr

inductive Failure where
  /-- A basic operation failed. -/
  | fault (f : Fault)
  /-- A message that a caller or a handler raises as it is. -/
  | raised (text : String)
  /-- `owner` is "Variable" or "Constraint". -/
  | nameNotText (owner : String) (name : Value)
  | emptyDomain (name : Option String) (lower upper : Value)
  | notASense (arg : Value)
  | directionText (arg : Value)
  | directionValue (arg : Value)
  | notADomain (arg : Value)
  | unknownEngine (key : Value) (known : List String)
  | badSetting (line : Nat) (file : String)
  | uncommittedVar (v model : Value)
  | uncommittedConstraint (c model : Value)
  /-- An engine refused an operation. -/
  | engine (code operation : Value)
  | ended (model : Value)
  | unknownVariable (v c : Value)
  | duplicate (owner entity : Value)
  | notAnEntity (arg : Value)
  | notAVariable (arg : Value)
  | notAConstraint (arg : Value)
  | badCoefficient (caller : String) (arg : Value)
  | notAPair (arg : Value)
  | notATermVariable (arg : Value)
  | notAnExpression (caller : String) (arg : Value)
  | badFactor (arg : Value)
  | badBound (arg : Value)
  | boundNotNumber (arg : Value)
  | notABoolean (text : String)
  | unbound (name : String)

namespace Failure

/-- The text in place of an empty message. -/
def defaultMessage : String := "mipbuilder exception raised"

def orDefault (s : String) : String := if s.isEmpty then defaultMessage else s

def category : Failure → Category
  | fault f => .fault f.kind
  | raised _ | nameNotText .. | emptyDomain .. | notASense _ | directionText _ | directionValue _
  | notADomain _ | unknownEngine .. | badSetting .. | uncommittedVar .. | uncommittedConstraint .. =>
    .modelling
  | engine .. => .engine
  | ended _ => .ended
  | unknownVariable .. => .unknownVariable
  | duplicate .. => .duplicate
  | notAnEntity _ | notAVariable _ | notAConstraint _ | badCoefficient .. | notAPair _
  | notATermVariable _ | notAnExpression .. | badFactor _ | badBound _ => .fault .wrongType
  | boundNotNumber _ | notABoolean _ => .fault .wrongValue
  | unbound _ => .unbound

/-- The message of a failure; most faults have none. -/
def message? (view : View) (f : Failure) : Option String :=
  let quote := Value.description view
  let shown := Value.display view
  match f with
  | fault f => f.message?
  | raised text => some (orDefault text)
  | nameNotText owner name => some s!"{owner} name accepts only strings or None, got: {quote name}"
  | emptyDomain name lower upper =>
    let name := name.getD "None"
    some s!"Variable: {name} has empty domain: [{shown lower}..{shown upper}]"
  | notASense arg => some s!"cannot convert this to a comparison type: {quote arg}"
  | directionText arg =>
    some ("Text is not recognized as objective sense: " ++ shown arg ++
      ", expecting \"min\" or \"max\"")
  | directionValue arg => some s!"cannot convert: <{quote arg}> to objective sense"
  | notADomain arg =>
    some s!"Cannot convert to variable type: {quote arg} - expecting 'C', 'I' or 'B'"
  | unknownEngine key known =>
    let keys := ", ".intercalate known
    some s!"Cannot build engine from key: {quote key}, expecting one of: {keys}"
  | badSetting line file => some s!"Syntax error in line {line} of {file}"
  | uncommittedVar v model => some s!"Variable {shown v} is not committed in model {shown model}"
  | uncommittedConstraint c model =>
    some s!"Constraint {shown c} is not committed in model {shown model}"
  | engine code operation =>
    some s!"Engine call {shown operation} failed with status {shown code}"
  | ended model => some s!"Model {shown model} has been ended and cannot be used"
  | unknownVariable v c =>
    some s!"Constraint {shown c} references variable {shown v} which is not in the model"
  | duplicate owner entity => some s!"{shown owner} {shown entity} is already in the model"
  | notAnEntity arg => some s!"Model.add expects a variable or a constraint, got: {quote arg}"
  | notAVariable arg => some s!"Model.add_var expects a variable, got: {quote arg}"
  | notAConstraint arg =>
    some s!"Model.add_constraint expects a linear constraint, got: {quote arg}"
  | badCoefficient caller arg => some s!"{caller} expects a numeric coefficient, got: {quote arg}"
  | notAPair arg => some s!"LinearExpr expects (variable, coefficient) pairs, got: {quote arg}"
  | notATermVariable arg => some s!"LinearExpr expects a variable, got: {quote arg}"
  | notAnExpression caller arg =>
    some s!"{caller}: cannot convert to linear expression: {quote arg}"
  | badFactor arg => some s!"Cannot multiply a linear expression by: {quote arg}"
  | badBound arg => some s!"Constraint right-hand side must be a number, got: {quote arg}"
  | boundNotNumber arg => some s!"Variable bound expects number, got: {shown arg}"
  | notABoolean text => some s!"Not a boolean: {text}"
  | unbound name => some name

/-- What a caller can read off a failure besides its message. -/
def fields : Failure → List (String × Value)
  | engine code operation => [("code", code), ("operation", operation)]
  | ended model => [("model_name", model)]
  | unknownVariable v c => [("var", v), ("constraint", c)]
  | duplicate _ entity => [("entity", entity)]
  | _ => []

theorem message?_eq_none_iff (view : View) (f : Failure) :
    f.message? view = none ↔ ∃ g, f = .fault g ∧ g.message? = none := by
  cases f <;> simp [message?]

/-- A result that may be a fault, as one that may be a failure. -/
def lift {α : Type} : Except Fault α → Except Failure α
  | .ok a => .ok a
  | .error f => .error (fault f)

/-- The fault that a value does not have a member. -/
def noMember (view : View) (v : Value) (name : String) : Fault :=
  match v with
  | .ref r =>
    match view.owner r with
    | some owner => .missingSetting owner name
    | none => .missingMember
  | _ => .missingMember

/-! ## Failures that a caller builds -/

/-- A message with its arguments filled in: percent directives take precedence over fields in
braces, and without arguments a template stands for itself. -/
def fillEither (view : View) (template : String) (args : List Value) : Except Fault String :=
  if args.isEmpty then .ok template
  else if template.contains '%' then Template.fillPercent view template ⟨args, none⟩
  else if template.contains '{' then Template.fillBraces view template args
  else .ok template

/-- A failure with a message of the caller's own. An empty message stands for the default one, and
a template that comes to nothing for itself. -/
def ofMessage (view : View) (message : Value) (args : List Value) : Except Fault Failure := do
  if !(← message.truthy view) then return raised ""
  match message.text? with
  | some s =>
    let filled ← fillEither view s args
    return raised (if filled.isEmpty then s else filled)
  | none => .error (if args.isEmpty then .wrongType else .missingMember)

/-- The failure of a category with the given parts. -/
def ofParts (view : View) : Category → List Value → Except Fault Failure
  | .modelling, message :: args => ofMessage view message args
  | .engine, [code, operation] => .ok (engine code operation)
  | .ended, [model] => .ok (ended model)
  | .unknownVariable, [v, c] => .ok (unknownVariable v c)
  | .duplicate, [owner, entity] => .ok (duplicate owner entity)
  | _, _ => .error .wrongType

end Failure

end Milp

import Milp.Model.Query
set_option autoImplicit false

/-! # Operations of a model

Everything that callers can ask of a model, with the arguments they pass. Operations either look at
the model alone (`Query`), or may change it and call its engine (`Operation`). -/

namespace Milp.Model

/-- What can be read off a model without asking its engine. -/
inductive Query where
  | name
  | environment
  | handler
  | varCount
  | constraintCount
  | pendingVarCount
  | pendingConstraintCount
  | isEnded
  | vars
  | constraints
  | outputLevel
  | varIndex (v : Value)
  | constraintIndex (c : Value)
  | varByName (name : Value)

namespace Query

def ofCount (n : Nat) : Value := .int n

/-- An index, or nothing for an entity that is not committed. -/
def ofIndex (i : Option Nat) : Value := (i.map ofCount).getD .nothing

/-- The answer to a query about the model that is kept at a place. -/
def answer (place : Nat) (m : Model) : Query → Except Fault Value
  | name => .ok m.name
  | environment => .ok (.ref (.environment m.environment))
  | handler => .ok (.ref (.handler (.ofModel place)))
  | varCount => .ok (ofCount m.vars.length)
  | constraintCount => .ok (ofCount m.constraints.length)
  | pendingVarCount => .ok (ofCount m.pendingVars.length)
  | pendingConstraintCount => .ok (ofCount m.pendingConstraints.length)
  | isEnded => .ok (.bool m.ended)
  | vars => .ok (.list (m.vars.map .var))
  | constraints => .ok (.list (m.constraints.map .constraint))
  | outputLevel => .ok m.handler.level.toValue
  | varIndex v => ofIndex <$> m.varIndexOf? v
  | constraintIndex c => ofIndex <$> m.constraintIndexOf? c
  | varByName key =>
    if key.isKey then .ok (((key.text?.bind m.varByName?).map Value.var).getD .nothing)
    else .error .wrongType

end Query

inductive Operation where
  | query (q : Query)
  | add (entity : Value)
  | addVar (v : Value)
  | addConstraint (c : Value)
  /-- Builds a variable with the given identity, and queues it. -/
  | newVar (id : Nat) (request : Var.Request)
  /-- Builds a constraint with the given identity, and queues it. -/
  | newConstraint (id : Nat) (expr sense bound name : Value)
  | update
  | optimize
  | computeIis
  | finish
  | status
  | getSense
  | objectiveValue
  | iisConstraints
  | setSense (sense : Value)
  | write (file : Value)
  | value (v : Value)
  | varAttribute (v attr : Value)
  | constraintAttribute (c attr : Value)
  /-- Asks for the engine itself. -/
  | getEngine
  | setOutputLevel (level : Value)
  | tell (s : Severity) (message args : Value)

/-- An action without a result of its own. -/
def void (x : Acting Unit) : Acting Value := do
  x
  return .nothing

/-- What an operation does to the model that is kept at a place. -/
def Operation.run (place : Nat) : Operation → Acting Value
  | query q => do Action.ofFault (q.answer place (← model))
  | add entity => Model.add entity
  | addVar v => Model.addVar v
  | addConstraint c => Model.addConstraint c
  | newVar id request => Model.newVar id request
  | newConstraint id expr sense bound name => Model.newConstraint id expr sense bound name
  | update => void Model.update
  | optimize => void Model.optimize
  | computeIis => void Model.computeIis
  | finish => void Model.finish
  | status => Model.status
  | getSense => Model.getSense
  | objectiveValue => Model.objectiveValue
  | iisConstraints => Model.iisConstraints
  | setSense sense => void (Model.setSense sense)
  | write file => void (Model.write file)
  | value v => Model.value v
  | varAttribute v attr => Model.getVarAttribute v attr
  | constraintAttribute c attr => Model.getConstraintAttribute c attr
  | getEngine => do
    checkAlive
    return .ref (.engine (.ofModel place))
  | setOutputLevel level => onHandler (Handler.changeLevel level)
  | tell s message args => onHandler (Handler.tell s message args)

end Milp.Model

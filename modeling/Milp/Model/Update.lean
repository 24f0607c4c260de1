import Milp.Model.Basic
set_option autoImplicit false

/-! # Committing queued entities

An update commits all queued variables and then all queued constraints. A queue of one entity is
committed with a single call of the engine, a longer one with a batch, in which rows are stored one
after the other. A queue is emptied only when its call has succeeded, so an update that failed can be
repeated. -/

namespace Milp.Model

/-! ## Checks -/

/-- The first entity of a queue that is committed or stands earlier in the queue. -/
def firstDuplicate? {α : Type} (id : α → Nat) (indices : Table Nat Nat) (seen : List Nat) :
    List α → Option α
  | [] => none
  | x :: rest =>
    if indices.contains (id x) || id x ∈ seen then some x
    else firstDuplicate? id indices (id x :: seen) rest

/-- The first variable of a constraint that is not committed. -/
def unknownVar? (m : Model) (c : Constraint) : Option Var :=
  c.expr.vars.find? fun v => !m.isCommittedVar v

/-- Refuses a queue of variables that holds one which is committed or queued twice. -/
def checkVars (m : Model) : Except Failure Unit :=
  match firstDuplicate? Var.id m.varIndices [] m.pendingVars with
  | some v => .error (.duplicate (.text "Variable") (.var v))
  | none => .ok ()

/-- Refuses a queue of constraints at the first one that is committed or queued twice, or that
has a variable which is not committed. -/
def checkConstraintsFrom (m : Model) (seen : List Nat) : List Constraint → Except Failure Unit
  | [] => .ok ()
  | c :: rest =>
    if m.constraintIndices.contains c.id || c.id ∈ seen then
      .error (.duplicate (.text "Constraint") (.constraint c))
    else
      match m.unknownVar? c with
      | some v => .error (.unknownVariable (.var v) (.constraint c))
      | none => checkConstraintsFrom m (c.id :: seen) rest

def checkConstraints (m : Model) : Except Failure Unit :=
  m.checkConstraintsFrom [] m.pendingConstraints

/-! ## Encoding -/

/-- A position as engines take it, with 32 bits of which one is for the sign. -/
def position32 (n : Nat) : Except Fault Nat :=
  if n < power 2 31 then .ok n else .error .overflow

/-- The index of the variable of a term, which must be committed, and the coefficient. -/
def encodeTerm (m : Model) (t : Term) : Except Fault (Nat × Double) :=
  match m.varIndex? t.1 with
  | some i => do return (← position32 i, t.2)
  | none => .error .missingKey

/-- The terms of an expression, in their order. -/
def encodeTerms (m : Model) (e : LinearExpr) : Except Fault (List (Nat × Double)) :=
  e.terms.mapM m.encodeTerm

/-- Rows one after the other from a position on: where each one starts, and the terms of all. -/
def encodeRowsFrom (m : Model) (position : Nat) :
    List Constraint → Except Fault (List Nat × List (Nat × Double))
  | [] => .ok ([], [])
  | c :: rest => do
    let start ← position32 position
    let terms ← m.encodeTerms c.expr
    let (starts, others) ← encodeRowsFrom m (position + terms.length) rest
    return (start :: starts, terms ++ others)

/-- Rows one after the other: where each one starts, and the terms of all. -/
def encodeRows (m : Model) (cs : List Constraint) : Except Fault (List Nat × List (Nat × Double)) :=
  m.encodeRowsFrom 0 cs

def floats (xs : List Double) : Value := .list (xs.map .float)

def ints (xs : List Nat) : Value := .list (xs.map fun (i : Nat) => .int i)

def names (xs : List (Option String)) : Value := .list (xs.map Value.ofName)

/-- The call that adds one variable. -/
def addOneVar (v : Var) : Engine.Acting Value :=
  Engine.addVar (.float v.objective) (.number v.lower) (.number v.upper) (.text v.kind.code)
    (.ofName v.name)

/-- The call that adds several variables; their bounds must fit into doubles. -/
def addManyVars (vs : List Var) : Except Fault (Engine.Acting Value) := do
  let objectives := vs.map (·.objective)
  let lowers ← vs.mapM (·.lower.toDouble)
  let uppers ← vs.mapM (·.upper.toDouble)
  return Engine.addVars (.int vs.length) (floats objectives) (floats lowers) (floats uppers)
    (.list (vs.map fun v => .text v.kind.code)) (names (vs.map (·.name)))

/-- The call that adds one constraint. -/
def addOneConstraint (m : Model) (c : Constraint) : Except Fault (Engine.Acting Value) := do
  let terms ← m.encodeTerms c.expr
  return Engine.addConstraint (.int terms.length) (ints (terms.map Prod.fst))
    (floats (terms.map Prod.snd)) (.text c.sense.code) (.float c.bound) (.ofName c.name)

/-- The call that adds several constraints. -/
def addManyConstraints (m : Model) (cs : List Constraint) : Except Fault (Engine.Acting Value) := do
  let (begins, terms) ← m.encodeRows cs
  return Engine.addConstraints (.int cs.length) (.int terms.length) (ints begins)
    (ints (terms.map Prod.fst)) (floats (terms.map Prod.snd))
    (.list (cs.map fun c => .text c.sense.code)) (floats (cs.map (·.bound)))
    (names (cs.map (·.name)))

/-- The call that adds variables, a single one by itself. -/
def varsCall : List Var → Except Fault (Engine.Acting Value)
  | [v] => .ok (addOneVar v)
  | vs => addManyVars vs

/-- The call that adds constraints, a single one by itself. -/
def constraintsCall (m : Model) : List Constraint → Except Fault (Engine.Acting Value)
  | [c] => m.addOneConstraint c
  | cs => m.addManyConstraints cs

/-! ## Committing -/

/-- Commits a variable with the given index. -/
def commitVar (m : Model) (index : Nat) (v : Var) : Model :=
  { m with
    vars := m.vars ++ [v]
    varIndices := m.varIndices.set v.id index
    varsByName :=
      match v.name with
      | some name => m.varsByName.setNew name v
      | none => m.varsByName }

/-- Commits variables with the indices from a first one on. -/
def commitVarsFrom (m : Model) (index : Nat) : List Var → Model
  | [] => m
  | v :: rest => commitVarsFrom (m.commitVar index v) (index + 1) rest

/-- Moves the queued variables to the committed ones. -/
def commitVars (m : Model) : Model :=
  { m.commitVarsFrom m.varCount m.pendingVars with
    varCount := m.varCount + m.pendingVars.length
    pendingVars := [] }

/-- Commits a constraint with the given index. -/
def commitConstraint (m : Model) (index : Nat) (c : Constraint) : Model :=
  { m with
    constraints := m.constraints ++ [c]
    constraintIndices := m.constraintIndices.set c.id index }

/-- Commits constraints with the indices from a first one on. -/
def commitConstraintsFrom (m : Model) (index : Nat) : List Constraint → Model
  | [] => m
  | c :: rest => commitConstraintsFrom (m.commitConstraint index c) (index + 1) rest

/-- Moves the queued constraints to the committed ones. -/
def commitConstraints (m : Model) : Model :=
  { m.commitConstraintsFrom m.constraints.length m.pendingConstraints with
    pendingConstraints := [] }

/-- Hands variables over to the engine. -/
def sendVars (vs : List Var) : Acting Unit := do
  let call ← Action.ofFault (varsCall vs)
  callEngine (if vs.length = 1 then "add_var" else "add_vars") call

/-- Hands constraints over to the engine. -/
def sendConstraints (cs : List Constraint) : Acting Unit := do
  let m ← model
  let call ← Action.ofFault (m.constraintsCall cs)
  callEngine (if cs.length = 1 then "add_constr" else "add_constrs") call

def flushVars : Acting Unit := do
  let m ← model
  if !m.pendingVars.isEmpty then
    Action.ofExcept m.checkVars
    sendVars m.pendingVars
    change commitVars
    log .trace fun name => s!"Committed {m.pendingVars.length} variable(s) to model {name}"

def flushConstraints : Acting Unit := do
  let m ← model
  if !m.pendingConstraints.isEmpty then
    Action.ofExcept m.checkConstraints
    sendConstraints m.pendingConstraints
    change commitConstraints
    log .trace fun name =>
      s!"Committed {m.pendingConstraints.length} constraint(s) to model {name}"

/-- Commits all queued variables and constraints. -/
def update : Acting Unit := do
  checkAlive
  flushVars
  flushConstraints
  callEngine "update_model" Engine.updateModel

end Milp.Model

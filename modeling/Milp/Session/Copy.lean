import Milp.Session.Basic
set_option autoImplicit false

/-! # Copies

A copy of settings has nothing in common with them that could change: nodes, variables, expressions,
constraints and other objects that can be reached are copied as well, each of them once. A copied model
has ended, and nothing that happens to a copied engine is reported. Main statement: an object that was
copied is not copied again (`Copied.ref?_put`). -/

namespace Milp.Session

/-- What has been copied so far, each with its copy. -/
structure Copied where
  refs : List (Ref × Ref) := []
  vars : List (Nat × Var) := []
  exprs : List (Nat × Value) := []
  constraints : List (Nat × Constraint) := []

namespace Copied

/-- The copy of an object. -/
def ref? (c : Copied) (r : Ref) : Option Ref := c.refs.lookup r

def put (c : Copied) (r copy : Ref) : Copied := { c with refs := (r, copy) :: c.refs }

theorem ref?_put (c : Copied) (r copy : Ref) : (c.put r copy).ref? r = some copy := by
  simp [ref?, put]

end Copied

/-- An action that copies. -/
abbrev Copying (α : Type) := Action (Session × Copied) α

def change (f : Session → Session) : Copying Unit := modify fun (s, c) => (f s, c)

def note (f : Copied → Copied) : Copying Unit := modify fun (s, c) => (s, f c)

/-! ## Variables, expressions and constraints -/

def copyVar (v : Var) : Copying Var := do
  let (s, c) ← get
  match c.vars.lookup v.id with
  | some copy => return copy
  | none =>
    let copy := { v with id := s.nextVar }
    change fun s => { s with nextVar := s.nextVar + 1 }
    note fun c => { c with vars := (v.id, copy) :: c.vars }
    return copy

def copyTerms : List Term → Copying (List Term)
  | [] => return []
  | t :: rest => do
    let v ← copyVar t.1
    return (v, t.2) :: (← copyTerms rest)

def copyExpr (tag : Nat) (e : LinearExpr) : Copying Value := do
  match (← get).2.exprs.lookup tag with
  | some copy => return copy
  | none =>
    let terms ← copyTerms e.terms
    let copy := Value.expr (← get).1.nextTag (LinearExpr.ofTerms terms)
    change fun s => { s with nextTag := s.nextTag + 1 }
    note fun c => { c with exprs := (tag, copy) :: c.exprs }
    return copy

def copyConstraint (k : Constraint) : Copying Constraint := do
  match (← get).2.constraints.lookup k.id with
  | some copy => return copy
  | none =>
    let terms ← copyTerms k.expr.terms
    let copy := { k with id := (← get).1.nextConstraint, expr := LinearExpr.ofTerms terms }
    change fun s => { s with nextConstraint := s.nextConstraint + 1 }
    note fun c => { c with constraints := (k.id, copy) :: c.constraints }
    return copy

/-! ## Objects -/

/-- Copies a handler to a place of its own. -/
def copyHandler (r : HandlerRef) : Copying Ref := do
  let (s, _) ← get
  match s.handlerAt? r with
  | none => throw (.fault .missingMember)
  | some h =>
    change fun s => { s with handlers := s.handlers ++ [h] }
    let copy := Ref.handler (.free s.handlers.length)
    note (·.put (.handler r) copy)
    return copy

/-- Copies an engine to a place of its own. -/
def copyEngine (r : EngineRef) : Copying Ref := do
  let (s, _) ← get
  match s.engineAt? r with
  | none => throw (.fault .missingMember)
  | some e =>
    let place := EngineRef.free s.engines.length
    change fun s => { s with engines := s.engines ++ [e], silent := place :: s.silent }
    note (·.put (.engine r) (.engine place))
    return .engine place

/-- Makes room for the copy of a node, an environment or a model, whose parts are copied later. -/
def reserve (r : Ref) : Copying Ref := do
  let (s, _) ← get
  let copy ← match r with
    | .settings i =>
      match s.settings.node? i with
      | some n =>
        change fun s => { s with settings := (s.settings.add { n with entries := [] }).2 }
        pure (.settings s.settings.nodes.length)
      | none => throw (.fault .missingMember)
    | .environment i =>
      match s.environments[i]? with
      | some e =>
        change fun s => { s with environments := s.environments ++ [e] }
        pure (.environment s.environments.length)
      | none => throw (.fault .missingMember)
    | .model i =>
      match s.models[i]? with
      | some m =>
        let place := s.models.length
        change fun s => { s with models := s.models ++ [{ m with ended := true }],
                                 silent := .ofModel place :: s.silent }
        note fun c => (c.put (.engine (.ofModel i)) (.engine (.ofModel place))).put
          (.handler (.ofModel i)) (.handler (.ofModel place))
        pure (.model place)
      | none => throw (.fault .missingMember)
    | r => pure r
  note (·.put r copy)
  return copy

/-- Copies the variables and constraints of a model. -/
def copyEntities (place : Nat) (m : Model) : Copying Unit := do
  let vars ← m.vars.mapM copyVar
  let pendingVars ← m.pendingVars.mapM copyVar
  let constraints ← m.constraints.mapM copyConstraint
  let pendingConstraints ← m.pendingConstraints.mapM copyConstraint
  change fun s => { s with models := s.models.modify place fun m =>
    { m with vars, pendingVars, constraints, pendingConstraints } }

/-! ## Values -/

mutual

/-- Copies a value, down to a number of values and objects within each other. -/
def copyValue : Nat → Value → Copying Value
  | 0, _ => throw (.fault .tooDeep)
  | n + 1, v =>
    match v with
    | .list xs => .list <$> xs.mapM (copyValue n)
    | .tuple xs => .tuple <$> xs.mapM (copyValue n)
    | .array kind xs => .array kind <$> xs.mapM (copyValue n)
    | .cell kind x => .cell kind <$> copyValue n x
    | .table es => .table <$> copyEntries n true es
    | .var x => .var <$> copyVar x
    | .expr tag e => copyExpr tag e
    | .constraint k => .constraint <$> copyConstraint k
    | .ref r => .ref <$> copyRef n r
    | .part .. => throw (.fault .wrongType)
    | v => return v

/-- Copies entries; the keys of settings stay as they are. -/
def copyEntries (n : Nat) (keys : Bool) : List (Value × Value) → Copying (List (Value × Value))
  | [] => return []
  | (k, v) :: rest =>
    match n with
    | 0 => throw (.fault .tooDeep)
    | n + 1 => do
      let k ← if keys then copyValue n k else pure k
      let v ← copyValue n v
      return (k, v) :: (← copyEntries (n + 1) keys rest)

/-- Copies an object, unless it has been copied already. -/
def copyRef (n : Nat) (r : Ref) : Copying Ref := do
  match n with
  | 0 => throw (.fault .tooDeep)
  | n + 1 =>
    let (s, c) ← get
    match c.ref? r, r with
    | some copy, _ => return copy
    | none, .handler h => copyHandler h
    | none, .engine e => copyEngine e
    | none, .solver _ => return r
    | none, .settings i =>
      let copy ← reserve r
      match s.settings.node? i, copy with
      | some node, .settings j =>
        let entries ← copyEntries n (node.kind = .plain) node.entries
        change fun s => { s with settings := s.settings.modify j ({ · with entries }) }
        return copy
      | _, _ => return copy
    | none, .environment i =>
      let copy ← reserve r
      match s.environments[i]?, copy with
      | some env, .environment j =>
        match ← copyRef n (.settings env.settings) with
        | .settings settings =>
          change fun s => { s with environments := s.environments.set j { settings } }
          return copy
        | _ => return copy
      | _, _ => return copy
    | none, .model i =>
      let copy ← reserve r
      match s.models[i]?, copy with
      | some m, .model j =>
        let name ← copyValue n m.name
        match ← copyRef n (.environment m.environment) with
        | .environment environment =>
          change fun s => { s with models := s.models.modify j ({ · with name, environment }) }
          copyEntities j m
          return copy
        | _ => return copy
      | _, _ => return copy

end

/-- How deep values and objects can be within each other without containing themselves. -/
def depthLimit (s : Session) : Nat :=
  let levels := s.settings.nodes.map fun n => Value.depthEntries n.entries + 3
  4 * (levels.foldl (· + ·) 0 + s.models.length + s.environments.length + 1)

/-- A copy of the settings at a place. -/
def copySettings (i : Nat) : Acting Nat := do
  let s ← get
  let (outcome, s, _) := (copyRef s.depthLimit (.settings i)).perform (s, {})
  set s
  match ← Action.ofExcept outcome with
  | .settings j => return j
  | _ => throw (.fault .missingMember)

/-! ## Environments -/

/-- A new environment from given settings, which are copied, or from files. -/
def makeEnvironment (named : List (String × Value)) : Acting Nat := do
  let others := named.filter (·.1 ≠ "context")
  match (named.lookup "context").getD .nothing with
  | .nothing => newEnvironment (← newSettingsFromFiles others)
  | .ref (.settings i) =>
    match (← get).settings.node? i with
    | some { kind := .general, .. } =>
      let root ← copySettings i
      onSettings .nothing
        (SettingsReader.assignAll root false (others.map fun n => (.text n.1, n.2)))
      newEnvironment root
    | _ => throw (.fault .missingMember)
  | _ => throw (.fault .missingMember)

end Milp.Session

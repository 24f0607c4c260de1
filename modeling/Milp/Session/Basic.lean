import Milp.Model.Creation
import Milp.Model.Operation
set_option autoImplicit false

/-! # Sessions

A session holds the objects that a caller works with, under names that the caller chose. An object
stays where it is and is referred to by its place, so that several names can mean the same one.

Variables and constraints are told apart by identities, which are given out as they are made. Callers
see serial numbers instead, in the order in which the entities first appear in a result: one that was
built in vain leaves no gap. -/

namespace Milp

structure Session where
  /-- What names stand for, the latest meaning of a name first. -/
  names : List (String × Value) := []
  models : List Model := []
  environments : List Environment := []
  settings : SettingsStore := {}
  engines : List Engine := []
  handlers : List Handler := []
  solver : Solver := {}
  files : Files := .empty
  log : List LogRecord := []
  warnings : List String := []
  /-- The directories in which files of settings are looked for. -/
  searchPath : List String := []
  /-- How many models got a name made up for them. -/
  namedModels : Nat := 0
  /-- The identities of the next variable and constraint, and the tag of the next expression. -/
  nextVar : Nat := 0
  nextConstraint : Nat := 0
  nextTag : Nat := 1
  /-- The variables and constraints that callers have seen, by identity, the first one first. -/
  seenVars : List Nat := []
  seenConstraints : List Nat := []
  /-- The engines that callers have met, with the number of calls that have been reported. -/
  met : List (EngineRef × Nat) := []
  /-- Engines that are copies, whose calls are not reported. -/
  silent : List EngineRef := []

namespace Session

/-! ## Objects by reference -/

def engineAt? (s : Session) : EngineRef → Option Engine
  | .free i => s.engines[i]?
  | .ofModel i => s.models[i]?.map (·.engine)

def handlerAt? (s : Session) : HandlerRef → Option Handler
  | .free i => s.handlers[i]?
  | .ofModel i => s.models[i]?.map (·.handler)

/-- The place of an identity among those that have been seen, or the next one. -/
def serialIn (seen : List Nat) (id : Nat) : Nat := seen.idxOf id

def serialOfVar (s : Session) : Serials := serialIn s.seenVars

def serialOfConstraint (s : Session) (id : Nat) : Nat := serialIn s.seenConstraints id

/-- The entries of the node behind a reference. -/
def entriesAt? (s : Session) : Ref → Option (List (Value × Value))
  | .settings i => (s.settings.node? i).map (·.entries)
  | _ => none

/-- The word for the settings behind a reference. -/
def ownerAt? (s : Session) : Ref → Option String
  | .settings i =>
    match s.settings.node? i with
    | some { kind := .plain, .. } | none => none
    | some n => some n.kind.label
  | _ => none

/-- A member of the object behind a reference, apart from settings and notes. -/
def memberAt? (s : Session) (r : Ref) (name : String) : Option Value :=
  match r, name with
  | .model i, "name" => s.models[i]?.map (·.name)
  | .model i, "environment" => s.models[i]?.map fun m => .ref (.environment m.environment)
  | .model i, "error_handler" => s.models[i]?.map fun _ => .ref (.handler (.ofModel i))
  | .model i, "number_of_variables" => s.models[i]?.map fun m => .int m.vars.length
  | .model i, "number_of_constraints" => s.models[i]?.map fun m => .int m.constraints.length
  | .model i, "number_of_pending_variables" => s.models[i]?.map fun m => .int m.pendingVars.length
  | .model i, "number_of_pending_constraints" =>
    s.models[i]?.map fun m => .int m.pendingConstraints.length
  | .environment i, "context" => s.environments[i]?.map fun e => .ref (.settings e.settings)
  | .handler r, "number_of_errors" => (s.handlerAt? r).map fun h => .int h.errors
  | .handler r, "number_of_warnings" => (s.handlerAt? r).map fun h => .int h.warnings
  | .engine r, "number_of_columns" => (s.engineAt? r).map fun e => .int e.columns.length
  | .engine r, "number_of_rows" => (s.engineAt? r).map fun e => .int e.rows.length
  | .engine r, "parameters" => (s.engineAt? r).map fun e => .table e.parameters
  | _, _ => none

/-- A member of the object behind a reference. Settings that an environment shows are looked up with
the given view. -/
def memberAt (s : Session) (view : View) (r : Ref) (name : String) : Except Fault Value :=
  match r, name with
  | .settings i, _ =>
    match s.settings.node? i with
    | some n => SettingsStore.setting n name
    | none => .error .missingMember
  | .environment i, "solver_agent" =>
    match s.environments[i]? with
    | some e => e.solverAgent view s.settings
    | none => .error .missingMember
  | .environment i, "output_level" =>
    match s.environments[i]? with
    | some e => e.outputLevel view s.settings
    | none => .error .missingMember
  | r, name =>
    match (s.settings.note? r name).or (s.memberAt? r name) with
    | some v => .ok v
    | none => .error .missingMember

/-- The text of a table that is being written out already. -/
def openText : String := "\x7b...\x7d"

/-- What is seen of objects, down to a number of levels of references within references, while the
texts of some nodes are being written out. -/
def viewTo (s : Session) : Nat → List Nat → View
  | 0, _ => { View.blank with serial := s.serialOfVar }
  | depth + 1, opened =>
    let inner := s.viewTo depth opened
    let describe := fun (r : Ref) => match r with
      | .environment i =>
        match s.environments[i]? with
        | some env => ((env.description inner s.settings).toOption).getD ""
        | none => ""
      | .settings i =>
        match s.settings.node? i with
        | some n =>
          if opened.contains i then openText
          else Value.description (s.viewTo depth (i :: opened)) (.table n.entries)
        | none => ""
      | .engine e => ((s.engineAt? e).map Engine.name).getD ""
      | .handler _ => "DefaultErrorHandler"
      | .solver i => toString i
      | .model i => ((s.models[i]?).map (Model.description inner)).getD ""
    { describe
      display := fun r => match r with
        | .model i => ((s.models[i]?).map (Model.text inner)).getD ""
        | r => describe r
      describePart := fun p r =>
        Value.called (Value.partClass p)
          (Value.description inner (.list (Value.partOf p ((s.entriesAt? r).getD []))))
      entries := s.entriesAt?
      member := s.memberAt inner
      owner := s.ownerAt?
      serial := s.serialOfVar }

/-- What is seen of objects in the present state. -/
def view (s : Session) : View := s.viewTo (s.settings.nodes.length + s.models.length + 3) []

/-! ## Actions -/

/-- An action of a session. -/
abbrev Acting (α : Type) := Action Session α

def surroundings (s : Session) : Surroundings :=
  { solver := s.solver, files := s.files, log := s.log, warnings := s.warnings, view := s.view }

def setSurroundings (s : Session) (w : Surroundings) : Session :=
  { s with solver := w.solver, files := w.files, log := w.log, warnings := w.warnings }

/-- An action on one object and on what all objects share. -/
def onPart {σ α : Type} (part : Session → Option σ) (put : σ → Session → Session)
    (x : Action (σ × Surroundings) α) : Acting α := do
  let s ← get
  match part s with
  | none => throw (.fault .missingMember)
  | some p =>
    let (outcome, p, w) := x.perform (p, s.surroundings)
    set (put p (s.setSurroundings w))
    Action.ofExcept outcome

def onModel {α : Type} (i : Nat) (x : Model.Acting α) : Acting α :=
  onPart (·.models[i]?) (fun m s => { s with models := s.models.set i m }) x

def onEngine {α : Type} (r : EngineRef) (x : Engine.Acting α) : Acting α :=
  match r with
  | .free i => onPart (·.engines[i]?) (fun e s => { s with engines := s.engines.set i e }) x
  | .ofModel i => onModel i (Model.onEngine x)

def onHandler {α : Type} (r : HandlerRef) (x : Handler.Acting α) : Acting α :=
  match r with
  | .free i => onPart (·.handlers[i]?) (fun h s => { s with handlers := s.handlers.set i h }) x
  | .ofModel i => onModel i (Model.onHandler x)

/-- An action that can make engines. -/
def onEngines {α : Type} (x : EngineFactory α) : Acting α :=
  onPart (fun s => some s.engines) (fun engines s => { s with engines }) x

/-- How a value refuses to be called by the name of an operation that it does not have: a setting of
that name is no operation. -/
def refusalOf (s : Session) (v : Value) (name : String) : Fault :=
  match s.settings.child s.view v name with
  | .ok _ => .wrongType
  | .error f => f

/-- The one who is told about the reading of settings. -/
def listenerOf (s : Session) (v : Value) : Listener :=
  let handler := match v with
    | .ref (.handler r) => (s.handlerAt? r).map fun h => Listener.handler h false
    | .ref (.model i) => s.models[i]?.map fun m => Listener.handler m.handler true
    | _ => none
  match v, handler with
  | .nothing, _ => .nobody
  | _, some l => l
  | _, none => .deaf (v.truthy s.view) (s.refusalOf v)

/-- An action on settings, of which the given listener is told. -/
def onSettings {α : Type} (listener : Value) (x : SettingsReader.Acting α) : Acting α := do
  let s ← get
  let reader : SettingsReader := { store := s.settings, listener := s.listenerOf listener }
  let (outcome, reader, w) := x.perform (reader, s.surroundings)
  set ({ s with settings := reader.store }.setSurroundings w)
  match listener, reader.listener with
  | .ref (.handler r), .handler h _ => onHandler r (modify fun (_, w) => (h, w))
  | .ref (.model i), .handler h _ => onHandler (.ofModel i) (modify fun (_, w) => (h, w))
  | _, _ => pure ()
  Action.ofExcept outcome

/-- The value of a setting on the way from a value. -/
def child (v : Value) (name : String) : Acting Value := do
  let s ← get
  Action.ofFault (s.settings.child s.view v name)

/-! ## New objects -/

def newHandler (level : Value) : Acting Value := do
  let s ← get
  set { s with handlers := s.handlers ++ [Handler.ofValue level] }
  return .ref (.handler (.free s.handlers.length))

/-- A new environment with the given settings. -/
def newEnvironment (settings : Nat) : Acting Nat := do
  let s ← get
  set { s with environments := s.environments ++ [Environment.mk settings] }
  return s.environments.length

/-- New settings as the files say, with further ones by quick names. -/
def newSettingsFromFiles (named : List (String × Value)) : Acting Nat := do
  let files := (named.lookup "file_list").getD .nothing
  let listener := (named.lookup "logger").getD .nothing
  let others := named.filter fun n => n.1 ≠ "file_list" ∧ n.1 ≠ "logger"
  onSettings listener
    (SettingsReader.createFromFiles (← get).searchPath files (others.map fun n => (.text n.1, n.2)))

/-- The name of a model: the given one, or one made up from a count. -/
def modelName (given : Value) : Acting Value := do
  match given with
  | .nothing =>
    let s ← get
    set { s with namedModels := s.namedModels + 1 }
    return .text s!"model_{s.namedModels + 1}"
  | _ => return given

/-- A new model with an engine from the environment at a place. -/
def modelIn (place : Nat) (env : Environment) (name : Value) : Acting Value := do
  let s ← get
  let (outcome, w) := (env.newModel s.settings place name).perform s.surroundings
  set (s.setSurroundings w)
  let m ← Action.ofExcept outcome
  modify fun s => { s with models := s.models ++ [m] }
  return .ref (.model s.models.length)

/-- A new model with an engine from a value that should be an environment. -/
def newModel (environment name : Value) : Acting Value := do
  let name ← modelName name
  let s ← get
  match environment with
  | .ref (.environment i) =>
    match s.environments[i]? with
    | none => throw (.fault .missingMember)
    | some env => modelIn i env name
  | _ =>
    let found := fun (member : String) => match environment with
      | .ref _ => s.settings.child s.view environment member
      | _ => .error .missingMember
    let _ ← Action.ofFault (found "output_level")
    let _ ← Action.ofFault (found "new_engine")
    throw (.fault .wrongType)

end Session

end Milp

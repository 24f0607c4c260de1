import Milp.Engine.Add
import Milp.Engine.Attribute
import Milp.Engine.Solve
import Milp.Settings.Read
set_option autoImplicit false

/-! # Environments

An environment hands out engines: its settings name the kind of engine and the parameters that each
new engine is given. -/

namespace Milp

/-! ## Kinds of engines -/

namespace Backend

/-- The keys by which engines can be asked for, in alphabetical order. -/
def keys : List String := ["fail", "highs", "local", "nosolve", "zero"]

/-- The backend of a key in lower case, apart from the native one. -/
def ofKey? : String → Option Backend
  | "local" | "nosolve" => some .store
  | "zero" => some .nearestToZero
  | "fail" => some (.faulty [])
  | _ => none

end Backend

/-- An action that can make engines. -/
abbrev EngineFactory (α : Type) := Action (List Engine × Surroundings) α

namespace EngineFactory

/-- Adds an engine to those that were made, and gives its place. -/
def keep (e : Engine) : EngineFactory Nat := do
  let (es, w) ← get
  set (es ++ [e], w)
  return es.length

/-- An action on one of the engines that were made. -/
def onEngine {α : Type} (i : Nat) (x : Engine.Acting α) : EngineFactory α :=
  Action.within (fun es => es.getD i { backend := .store }) (fun e es => es.set i e) x

/-- Makes a new engine with the native solver behind it. -/
def makeNative (modelName : Value) : EngineFactory Nat := do
  let (es, w) ← get
  let (outcome, w) := (Engine.createNative modelName).perform w
  set (es, w)
  keep (← Action.ofExcept outcome)

/-- Makes a new engine of the kind that a key names; without a key it is the native one. -/
def make (key modelName : Value) : EngineFactory Nat := do
  match key, key.text? with
  | .nothing, _ => makeNative modelName
  | _, some s =>
    let word := Text.lower s
    if word = "highs" then makeNative modelName
    else
      match Backend.ofKey? word with
      | some backend => keep { backend, modelName }
      | none => throw (.unknownEngine key Backend.keys)
  | .bytes _, none => throw (.unknownEngine key Backend.keys)
  | _, none => throw (.fault (Failure.noMember (← get).2.view key "lower"))

/-- Gives an engine its parameters. If it refuses one, it is released. -/
def configure (i : Nat) : List (String × Value) → EngineFactory Unit
  | [] => return ()
  | (name, value) :: rest => do
    let status ← onEngine i (Engine.setParameter (.text name) value)
    if ← onEngine i (Engine.isTrue status) then
      let _ ← onEngine i Engine.finish
      throw (.engine status (.text "set_parameter"))
    configure i rest

/-- The engine that is made, starting without any. -/
def product (x : EngineFactory Nat) : Action Surroundings Engine :=
  ExceptT.mk fun w =>
    let (outcome, engines, w) := x.perform ([], w)
    (outcome.map fun i => engines.getD i { backend := .store }, w)

end EngineFactory

/-! ## Environments -/

structure Environment where
  /-- The place of its settings. -/
  settings : Nat
deriving DecidableEq, Repr

namespace Environment

/-- A setting at the end of a way from the environment's settings. -/
def setting (view : View) (env : Environment) (s : SettingsStore) (names : List String) :
    Except Fault Value :=
  names.foldlM (s.child view) (.ref (.settings env.settings))

def solverAgent (view : View) (env : Environment) (s : SettingsStore) : Except Fault Value :=
  env.setting view s ["solver", "agent"]

def outputLevel (view : View) (env : Environment) (s : SettingsStore) : Except Fault Value :=
  env.setting view s ["output_level"]

/-- The parameters for engines in a node of settings. -/
def parametersOf (view : View) (s : SettingsStore) (v : Value) :
    Except Failure (List (String × Value)) := do
  match v with
  | .ref (.settings i) =>
    match s.node? i with
    | some { kind := .solver, .. } => engineParameters view (s.child view v)
    | some { kind := .general, .. } =>
      .error (.fault (.missingSetting SettingsKind.general.label "get_engine_parameters"))
    | _ => .error (.fault .missingMember)
  | _ => .error (.fault .missingMember)

/-- Makes a new engine with the parameters of the environment. -/
def newEngine (env : Environment) (s : SettingsStore) (modelName : Value) :
    EngineFactory Nat := do
  let (_, w) ← get
  let agent ← Action.ofFault (env.solverAgent w.view s)
  let i ← EngineFactory.make agent modelName
  let parameters ← Action.ofExcept do
    parametersOf w.view s (← Failure.lift (env.setting w.view s ["solver"]))
  EngineFactory.configure i parameters
  return i

/-- How an environment is quoted: by its agent, or by the native one. -/
def description (view : View) (env : Environment) (s : SettingsStore) : Except Fault String := do
  let agent ← env.solverAgent view s
  let shown := if ← agent.truthy view then agent else .text "highs"
  return s!"mipbuilder.environment.Environment(agent={shown.description view})"

end Environment

end Milp

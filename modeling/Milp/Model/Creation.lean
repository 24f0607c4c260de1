import Milp.Environment
import Milp.Model.Basic
set_option autoImplicit false

/-! # Creating models

A model gets its engine from an environment, and reports when it has been made. -/

namespace Milp.Environment

/-- A new model with a new engine of the environment that is kept at a place. -/
def newModel (env : Environment) (s : SettingsStore) (place : Nat) (name : Value) :
    Action Surroundings Model := do
  let w ← get
  let level ← Action.ofFault (env.outputLevel w.view s)
  let engine ← EngineFactory.product (env.newEngine s name)
  Model.create name place level engine

end Milp.Environment

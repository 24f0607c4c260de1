import Milp.Failure
set_option autoImplicit false

/-! # Actions

Calls change a state whether they succeed or fail: a call that is refused half-way keeps what it has
done so far. An action on `σ` is therefore a function from a state to an outcome and the state after
it. Main statement: an action on a part leaves the rest as it is (`Action.within_run`). -/

namespace Milp

/-- A call on a state of type `σ`. -/
abbrev Action (σ α : Type) := ExceptT Failure (StateM σ) α

namespace Action

variable {σ τ ω α : Type}

/-- The outcome of an action and the state after it. -/
def perform (x : Action σ α) (s : σ) : Except Failure α × σ := x.run.run s

def ofFault : Except Fault α → Action σ α
  | .ok a => pure a
  | .error f => throw (.fault f)

def ofExcept : Except Failure α → Action σ α
  | .ok a => pure a
  | .error f => throw f

/-- An action on a part of the state, beside a context that both share. -/
def within (part : σ → τ) (put : τ → σ → σ) (x : Action (τ × ω) α) : Action (σ × ω) α :=
  ExceptT.mk fun s =>
    let (outcome, t, w) := x.perform (part s.1, s.2)
    (outcome, put t s.1, w)

theorem within_run (part : σ → τ) (put : τ → σ → σ) (x : Action (τ × ω) α) (s : σ) (w : ω) :
    (within part put x).perform (s, w) =
      ((x.perform (part s, w)).1, put (x.perform (part s, w)).2.1 s,
        (x.perform (part s, w)).2.2) := rfl

end Action

end Milp

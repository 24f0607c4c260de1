import Milp.Model.Creation
import Milp.Model.Operation
set_option autoImplicit false

/-! # Histories of models

What may happen to a model from its creation on: its operations, orders to its engine to fail, and
anything that happens elsewhere. The phases of an update are moves of their own, so that the states
between two calls of the engine are among those that histories lead to. A history keeps the entities
that were admitted, in the order in which they were. -/

namespace Milp.Model

/-! ## Moves -/

/-- One thing that happens to a model. -/
inductive Move where
  /-- An operation of the model, which is kept at a place. -/
  | operate (place : Nat) (op : Operation)
  /-- An update up to the point where the variables are committed. -/
  | flushVars
  /-- An update from that point on, up to the point where the constraints are committed. -/
  | flushConstraints
  /-- An order to the engine to fail. -/
  | failOn (f : InjectedFailure)
  | clearFailures
  /-- The engine's log of calls is emptied. -/
  | clearCalls
  /-- Nobody can reach the model any more. -/
  | finalize
  /-- Something happens to what all models share. -/
  | elsewhere (change : Surroundings → Surroundings)

/-- What a move does. -/
def Move.run : Move → Acting Value
  | operate place op => op.run place
  | flushVars => void do
    checkAlive
    Model.flushVars
  | flushConstraints => void do
    checkAlive
    Model.flushConstraints
  | failOn f => void (onEngine (Engine.change (·.failOn f)))
  | clearFailures => void (onEngine (Engine.change (·.clearFailures)))
  | clearCalls => void (onEngine (Engine.change ({ · with calls := [] })))
  | finalize => void Model.finalize
  | elsewhere change => void (modify fun (m, w) => (m, change w))

/-- Whether an operation admits the entity that it answers. -/
def Operation.isAdmission : Operation → Bool
  | add _ | addVar _ | addConstraint _ | newVar .. | newConstraint .. => true
  | _ => false

/-- The entity that a move admits, if it succeeds. -/
def Move.admitted? (move : Move) (outcome : Except Failure Value) : Option Value :=
  match move, outcome with
  | operate _ op, .ok v => if op.isAdmission then some v else none
  | _, _ => none

/-! ## Histories -/

/-- A model in its surroundings, with the entities that it has admitted so far. -/
structure History where
  model : Model
  surroundings : Surroundings
  vars : List Var := []
  constraints : List Constraint := []

namespace History

/-- The model of a history in its surroundings. -/
abbrev state (h : History) : Model × Surroundings := (h.model, h.surroundings)

/-- One more entity that is admitted. -/
def receive (h : History) : Option Value → History
  | some (.var v) => { h with vars := h.vars ++ [v] }
  | some (.constraint c) => { h with constraints := h.constraints ++ [c] }
  | _ => h

/-- A history after one more move. -/
def next (h : History) (move : Move) : History :=
  let (outcome, m, w) := move.run.perform (h.model, h.surroundings)
  { h with model := m, surroundings := w }.receive (move.admitted? outcome)

/-- A history after some more moves. -/
def run (h : History) (moves : List Move) : History := moves.foldl next h

/-- What a history admits makes no difference to what a move does. -/
theorem next_state (h : History) (move : Move) :
    (h.next move).state = (move.run.perform h.state).2 := by
  have hreceive (k : History) (v : Option Value) : (k.receive v).state = k.state := by
    unfold receive
    split <;> rfl
  exact hreceive _ _

theorem run_append (h : History) (moves others : List Move) :
    h.run (moves ++ others) = (h.run moves).run others := List.foldl_append

end History

end Milp.Model

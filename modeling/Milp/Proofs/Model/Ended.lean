import Milp.Proofs.Model.Creation
set_option autoImplicit false

/-! # Ended models

Whatever else happens, a model that has ended stays ended. Nearly all operations look at that first
(`Operation.needsLife`), and then nothing at all has changed when they are refused
(`run_of_ended`). Asking for the constraints of an infeasible subsystem does not look at it by itself:
it is refused as soon as there is a constraint whose attribute has to be read, and answers that there
are none if nothing is committed (`iisConstraints_of_ended`). -/

namespace Milp.Model

open Milp.Action

variable {m : Model} {w : Surroundings}

/-! ## Refusals -/

theorem checkAlive_of_ended (h : m.ended = true) :
    checkAlive.perform (m, w) = (.error (.ended m.name), m, w) := by
  show (if m.ended then throw (.ended m.name) else pure () : Acting Unit).perform (m, w) = _
  rw [h]
  rfl

/-- What begins with looking whether the model has ended goes no further if it has. -/
theorem perform_checkAlive_bind {α : Type} (h : m.ended = true) (f : Unit → Acting α) :
    (checkAlive >>= f).perform (m, w) = (.error (.ended m.name), m, w) :=
  perform_bind_of_error (checkAlive_of_ended h)

theorem perform_void_of_error {x : Acting Unit} {f : Failure} {s t : Model × Surroundings}
    (h : x.perform s = (.error f, t)) : (void x).perform s = (.error f, t) :=
  perform_bind_of_error h

/-- The operations that are for models that have not ended, with an entity of the right kind where
one is queued. -/
def Operation.needsLife : Operation → Bool
  | add (.var _) | add (.constraint _) | addVar _ | addConstraint _ => true
  | update | optimize | setSense _ | getSense | status => true
  | computeIis | objectiveValue | value _ | varAttribute .. | constraintAttribute .. => true
  | write _ | getEngine => true
  | _ => false

theorem update_of_ended (h : m.ended = true) :
    update.perform (m, w) = (.error (.ended m.name), m, w) := perform_checkAlive_bind h _

/-- Such an operation on an ended model is refused, and nothing has changed. -/
theorem run_of_ended (h : m.ended = true) (place : Nat) {op : Operation}
    (hop : op.needsLife = true) :
    (op.run place).perform (m, w) = (.error (.ended m.name), m, w) := by
  cases op with
  | add entity =>
    cases entity with
    | var v => exact perform_checkAlive_bind h _
    | constraint c => exact perform_checkAlive_bind h _
    | _ => cases hop
  | addVar v => exact perform_checkAlive_bind h _
  | addConstraint c => exact perform_checkAlive_bind h _
  | update => exact perform_void_of_error (update_of_ended h)
  | optimize => exact perform_void_of_error (perform_bind_of_error (update_of_ended h))
  | computeIis => exact perform_void_of_error (perform_checkAlive_bind h _)
  | setSense sense => exact perform_void_of_error (perform_checkAlive_bind h _)
  | write file => exact perform_void_of_error (perform_checkAlive_bind h _)
  | status => exact perform_checkAlive_bind h _
  | getSense => exact perform_checkAlive_bind h _
  | objectiveValue => exact perform_checkAlive_bind h _
  | value v => exact perform_checkAlive_bind h _
  | varAttribute v attr => exact perform_checkAlive_bind h _
  | constraintAttribute c attr => exact perform_checkAlive_bind h _
  | getEngine => exact perform_checkAlive_bind h _
  | _ => cases hop

/-- Without committed constraints there is no attribute to be read, and nothing is refused. -/
theorem iisConstraints_of_ended (h : m.ended = true) :
    iisConstraints.perform (m, w) =
      (if m.constraints = [] then .ok (.list []) else .error (.ended m.name), m, w) := by
  rw [iisConstraints, perform_bind_of_ok perform_model]
  cases hconstraints : m.constraints with
  | nil => rfl
  | cons c rest =>
    have hfirst : (getConstraintAttribute (.constraint c) (.text ConstraintAttribute.inIis.label)).perform
        (m, w) = (.error (.ended m.name), m, w) := perform_checkAlive_bind h _
    have hall : (iisAmong (c :: rest)).perform (m, w) = (.error (.ended m.name), m, w) :=
      perform_bind_of_error hfirst
    rw [perform_bind_of_error hall, if_neg (List.cons_ne_nil c rest)]

/-! ## Ending -/

/-- A released model has ended, and its engine has been told to finish. -/
theorem perform_release (m : Model) (w : Surroundings) :
    release.perform (m, w) = (.ok (), afterCall { m with ended := true } w Engine.finish) := rfl

theorem perform_finalize (h : m.ended = false) :
    finalize.perform (m, w) = (.ok (), afterCall { m with ended := true } w Engine.finish) := by
  rw [finalize, perform_bind_of_ok perform_model, h]
  exact perform_release m w

/-- Ending a model tells so first. -/
theorem perform_finish (h : m.ended = false) :
    ∃ t, OnlyMessages (m, w) t ∧
      finish.perform (m, w) = (.ok (), afterCall { t.1 with ended := true } t.2 Engine.finish) := by
  obtain ⟨t, ht, hmessages⟩ := perform_log .trace (fun name => s!"Ending model {name}") (m, w)
  refine ⟨t, hmessages, ?_⟩
  rw [finish, perform_bind_of_ok perform_model, h]
  show ((log .trace fun name => s!"Ending model {name}") >>= fun _ => release : Acting Unit).perform
    (m, w) = _
  rw [perform_bind_of_ok ht]
  exact perform_release t.1 t.2

/-- A second time, neither way of ending does anything. -/
theorem perform_finalize_of_ended (h : m.ended = true) :
    finalize.perform (m, w) = (.ok (), m, w) := by
  rw [finalize, perform_bind_of_ok perform_model, h]
  rfl

theorem perform_finish_of_ended (h : m.ended = true) : finish.perform (m, w) = (.ok (), m, w) := by
  rw [finish, perform_bind_of_ok perform_model, h]
  rfl

theorem finalize_ended (s : Model × Surroundings) : (finalize.perform s).2.1.ended = true := by
  cases h : s.1.ended with
  | false =>
    have hs : finalize.perform s =
      (.ok (), afterCall { s.1 with ended := true } s.2 Engine.finish) := perform_finalize h
    rw [hs]
    rfl
  | true =>
    have hs : finalize.perform s = (.ok (), s) := perform_finalize_of_ended h
    rwa [hs]

theorem finish_ended (s : Model × Surroundings) : (finish.perform s).2.1.ended = true := by
  cases h : s.1.ended with
  | false =>
    obtain ⟨t, -, ht⟩ : ∃ t, OnlyMessages s t ∧
      finish.perform s = (.ok (), afterCall { t.1 with ended := true } t.2 Engine.finish) :=
        perform_finish h
    rw [ht]
    rfl
  | true =>
    have hs : finish.perform s = (.ok (), s) := perform_finish_of_ended h
    rwa [hs]

/-! ## Histories -/

namespace History

/-- No step brings a model back. -/
theorem ended_step {Elsewhere : Surroundings → Surroundings → Prop} {h k : History}
    (hk : Step Elsewhere h k) (hh : h.model.ended = true) : k.model.ended = true := by
  cases hk with
  | change hc =>
    obtain ⟨m, w, _, _⟩ := h
    cases hc with
    | ending => rfl
    | commitVars => exact (congrArg Prod.fst (commitVars_ending _)).trans hh
    | commitConstraints => exact (congrArg Prod.fst (commitConstraints_ending _)).trans hh
    | _ => exact hh
  | solve => exact hh
  | queueVar => exact hh
  | queueConstraint => exact hh

theorem ended_run {h : History} (hh : h.model.ended = true) (moves : List Move) :
    (h.run moves).model.ended = true :=
  (steps_run h fun move _ => move.spares_any).maintains ended_step hh

/-- A model that was told to end, or that nobody could reach any more, has ended. -/
theorem ended_of_ending (h : History) (before : List Move) {move : Move} (after : List Move)
    (hmove : move.isEnding = true) : (h.run (before ++ move :: after)).model.ended = true := by
  rw [run_append]
  refine ended_run (h := (h.run before).next move) ?_ after
  show ((h.run before).next move).state.1.ended = true
  rw [next_state]
  cases move with
  | finalize =>
    rw [show Move.finalize.run = void finalize from rfl, perform_void]
    exact finalize_ended _
  | operate place op =>
    cases op with
    | finish =>
      rw [show (Move.operate place .finish).run = void finish from rfl, perform_void]
      exact finish_ended _
    | _ => cases hmove
  | _ => cases hmove

/-- Once a model of any history has been told to end, each operation that is for living models is
refused and changes nothing, and so is asking for the constraints of an infeasible subsystem, unless
none is committed. -/
theorem run_ended_refuses (h : History) (before after : List Move) (place : Nat) :
    let s := (h.run (before ++ .operate place .finish :: after)).state
    (∀ op : Operation, op.needsLife = true →
      (op.run place).perform s = (.error (.ended s.1.name), s)) ∧
    iisConstraints.perform s =
      (if s.1.constraints = [] then .ok (.list []) else .error (.ended s.1.name), s) := by
  intro s
  have hs : s.1.ended = true := h.ended_of_ending before after rfl
  exact ⟨fun op hop => run_of_ended hs place hop, iisConstraints_of_ended hs⟩

/-- A variable that is queued when its model ends cannot be committed any more. -/
theorem run_ended_refuses_update : ∃ m w, Environment.firstModel = (.ok m, w) ∧
    let s := (run { model := m, surroundings := w }
      ([.operate 0 (.newVar 0 {})] ++ .operate 0 .finish :: [])).state
    s.1.pendingVars.length = 1 ∧
      (Operation.update.run 0).perform s = (.error (.ended s.1.name), s) := by
  obtain ⟨m, w, h, hp⟩ := Environment.exists_firstModel (p := fun m w => decide
    ((run { model := m, surroundings := w }
      ([.operate 0 (.newVar 0 {})] ++ .operate 0 .finish :: [])).state.1.pendingVars.length = 1))
    (by decide +kernel)
  have hrefused := run_ended_refuses { model := m, surroundings := w } [.operate 0 (.newVar 0 {})] [] 0
  exact ⟨m, w, h, of_decide_eq_true hp, hrefused.1 .update rfl⟩

/-- A model that ends with nothing in it still answers that no constraint is infeasible. -/
theorem iisConstraints_answers_ended : ∃ m w, Environment.firstModelOn "zero" = (.ok m, w) ∧
    let s := (run { model := m, surroundings := w } [.operate 0 .finish]).state
    s.1.ended = true ∧ (Operation.iisConstraints.run 0).perform s = (.ok (.list []), s) := by
  obtain ⟨m, w, h, hp⟩ := Environment.exists_of_made (r := Environment.firstModelOn "zero")
    (p := fun m w =>
      (run { model := m, surroundings := w } [.operate 0 .finish]).model.constraints.isEmpty)
    (by decide +kernel)
  let start : History := { model := m, surroundings := w }
  have hended : (start.run [.operate 0 .finish]).model.ended = true := start.ended_of_ending [] [] rfl
  refine ⟨m, w, h, hended, ?_⟩
  have hanswer : iisConstraints.perform (start.run [.operate 0 .finish]).state =
    (if (start.run [.operate 0 .finish]).model.constraints = [] then .ok (.list [])
      else .error (.ended (start.run [.operate 0 .finish]).model.name),
      (start.run [.operate 0 .finish]).state) := iisConstraints_of_ended hended
  rwa [if_pos (List.isEmpty_iff.1 hp)] at hanswer

end History

end Milp.Model

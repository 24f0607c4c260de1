import Milp.Engine.Attribute
import Milp.Model.Operation
import Milp.Proofs.Engine.Addition
import Milp.Proofs.Handler
set_option autoImplicit false

/-! # Calls of a model to its engine

A call that the engine accepts changes nothing else of the model. One that is refused or broken off
ends in a failure, before which a message may be logged (`callEngine_ends`). A queue is committed by
one such call, after which nothing can fail, so there are five ways in which committing a queue ends
(`Commitment.Ends`). -/

namespace Milp.Model

open Milp.Action

variable {m : Model} {w : Surroundings} {s t : Model × Surroundings}

/-! ## Messages -/

/-- Nothing has changed but what the handler has counted, and the log. -/
structure OnlyMessages (s t : Model × Surroundings) : Prop where
  model : t.1 = { s.1 with handler := t.1.handler }
  surroundings : t.2 = { s.2 with log := t.2.log }

theorem OnlyMessages.engine (h : OnlyMessages s t) : t.1.engine = s.1.engine := by
  rw [h.model]

theorem perform_model : model.perform (m, w) = (.ok m, m, w) := rfl

/-- A message of the model itself can always be made. -/
theorem perform_log (severity : Severity) (text : String → String) (s : Model × Surroundings) :
    ∃ t, (log severity text).perform s = (.ok (), t) ∧ OnlyMessages s t := by
  obtain ⟨m, w⟩ := s
  obtain ⟨records, hreport⟩ := Handler.perform_report severity
    (fun view => text (m.name.display view)) m.handler w
  refine ⟨({ m with handler := m.handler.count severity }, w.addLog records), ?_, rfl, rfl⟩
  rw [log, perform_bind_of_ok perform_model, onHandler, within_run, hreport]

/-- An action without a result of its own leads where it leads anyway. -/
theorem perform_void (x : Acting Unit) (s : Model × Surroundings) :
    ((void x).perform s).2 = (x.perform s).2 := by
  rw [void, perform_bind]
  rcases x.perform s with ⟨outcome, t⟩
  cases outcome <;> rfl

/-! ## Calls -/

theorem perform_checkAlive (h : m.ended = false) : checkAlive.perform (m, w) = (.ok (), m, w) := by
  show (if m.ended then throw (.ended m.name) else pure () : Acting Unit).perform (m, w) = _
  rw [h]
  rfl

theorem perform_isTrue (v : Value) (s : Model × Surroundings) :
    (onEngine (Engine.isTrue v)).perform s = (ofFault (v.truthy s.2.view)).perform s := by
  obtain ⟨m, w⟩ := s
  have htrue : (Engine.isTrue v).perform (m.engine, w) =
      (ofFault (v.truthy w.view)).perform (m.engine, w) := rfl
  rw [onEngine, within_run, htrue]
  cases v.truthy w.view <;> rfl

/-- A status that counts as false is let pass. -/
theorem perform_checkStatus {status : Value} (h : status.truthy s.2.view = .ok false)
    (operation : String) : (checkStatus status operation).perform s = (.ok (), s) := by
  rw [checkStatus, perform_bind, perform_isTrue, h]
  rfl

/-- A status that counts as true is raised as a code, after a message. -/
theorem perform_checkStatus_code {status : Value} {code : Int}
    (h : status.truthy s.2.view = .ok true) (hcode : status.toInt = .ok code) (operation : String) :
    ∃ t, (checkStatus status operation).perform s =
      (.error (.engine (.int code) (.text operation)), t) ∧ OnlyMessages s t := by
  obtain ⟨t, ht, hmessages⟩ := perform_log .error
    (fun name => s!"Engine call {operation} failed with status {code} in model {name}") s
  refine ⟨t, ?_, hmessages⟩
  rw [checkStatus, perform_bind, perform_isTrue, h]
  show (ofFault status.toInt >>= _ : Acting Unit).perform s = _
  rw [hcode, perform_bind_of_ok (perform_ofFault_ok code s), perform_bind_of_ok ht]
  rfl

theorem checkStatus_error {status : Value} (h : status.truthy s.2.view ≠ .ok false)
    (operation : String) :
    ∃ f t, (checkStatus status operation).perform s = (.error f, t) ∧ OnlyMessages s t := by
  cases htrue : status.truthy s.2.view with
  | error f =>
    refine ⟨.fault f, s, ?_, rfl, rfl⟩
    rw [checkStatus, perform_bind, perform_isTrue, htrue]
    rfl
  | ok b =>
    cases b with
    | false => exact absurd htrue h
    | true =>
      cases hcode : status.toInt with
      | ok code =>
        obtain ⟨t, ht⟩ := perform_checkStatus_code htrue hcode operation
        exact ⟨_, t, ht⟩
      | error f =>
        refine ⟨.fault f, s, ?_, rfl, rfl⟩
        rw [checkStatus, perform_bind, perform_isTrue, htrue]
        show (ofFault status.toInt >>= _ : Acting Unit).perform s = _
        rw [hcode]
        rfl

/-- A model and its surroundings after a call of the engine. -/
def afterCall (m : Model) (w : Surroundings) (x : Engine.Acting Value) : Model × Surroundings :=
  ({ m with engine := (x.perform (m.engine, w)).2.1 }, (x.perform (m.engine, w)).2.2)

theorem perform_onEngine (x : Engine.Acting Value) :
    (onEngine x).perform (m, w) = ((x.perform (m.engine, w)).1, afterCall m w x) := rfl

/-- A call that is accepted succeeds. -/
theorem perform_callEngine {x : Engine.Acting Value} (h : Engine.Accepted (x.perform (m.engine, w)))
    (operation : String) : (callEngine operation x).perform (m, w) = (.ok (), afterCall m w x) := by
  obtain ⟨status, hstatus, hfalse⟩ := h
  have hx : (onEngine x).perform (m, w) = (.ok status, afterCall m w x) := by
    rw [perform_onEngine, hstatus]
  rw [callEngine, perform_bind_of_ok hx]
  exact perform_checkStatus hfalse operation

/-- A call that is not accepted fails, and at most a message is logged. -/
theorem callEngine_error {x : Engine.Acting Value} (h : ¬Engine.Accepted (x.perform (m.engine, w)))
    (operation : String) :
    ∃ f t, (callEngine operation x).perform (m, w) = (.error f, t) ∧
      OnlyMessages (afterCall m w x) t := by
  cases hstatus : (x.perform (m.engine, w)).1 with
  | error f =>
    have hx : (onEngine x).perform (m, w) = (.error f, afterCall m w x) := by
      rw [perform_onEngine, hstatus]
    exact ⟨f, _, perform_bind_of_error hx, rfl, rfl⟩
  | ok status =>
    have hx : (onEngine x).perform (m, w) = (.ok status, afterCall m w x) := by
      rw [perform_onEngine, hstatus]
    rw [callEngine, perform_bind_of_ok hx]
    exact checkStatus_error (fun hfalse => h ⟨status, hstatus, hfalse⟩) operation

/-- What an operation of the engine leads to is what a call of it leads to, as long as the log does
not matter. -/
theorem callEngine_leads {I J : Engine × Surroundings → Prop} {x : Engine.Acting Value}
    (hx : Leads I x (Engine.Answered I J) I)
    (hlog : ∀ e v log, I (e, v) → I (e, { v with log })) (h : I (m.engine, w))
    (operation : String) :
    Leads (· = (m, w)) (callEngine operation x) (fun _ t => J (t.1.engine, t.2))
      fun t => I (t.1.engine, t.2) := by
  rintro _ rfl
  by_cases hr : Engine.Accepted (x.perform (m.engine, w))
  · rw [perform_callEngine hr]
    exact Engine.Answered.of_accepted hx h hr
  · obtain ⟨f, t, ht, hmessages⟩ := callEngine_error hr operation
    rw [ht]
    show I (t.1.engine, t.2)
    rw [hmessages.engine, hmessages.surroundings]
    exact hlog _ _ _ (Engine.Answered.of_not_accepted hx h hr)

/-- An answer that the engine has found is passed on. -/
theorem perform_askEngine {operation : String} {x : Engine.Acting Engine.Answer} {v : Value}
    (h : x.perform (m.engine, w) = (.ok (Engine.found v), m.engine, w)) :
    (askEngine operation x).perform (m, w) = (.ok v, m, w) := by
  have hx : (onEngine x).perform (m, w) = (.ok (Engine.found v), m, w) := by
    rw [onEngine, within_run, h]
  have hstatus : (checkStatus Engine.accepted operation).perform (m, w) = (.ok (), m, w) :=
    perform_checkStatus (Value.truthy_accepted _) operation
  rw [askEngine, perform_bind_of_ok hx]
  show ((checkStatus Engine.accepted operation) >>= fun _ => pure v).perform (m, w) = _
  rw [perform_bind_of_ok hstatus]
  rfl

/-! ## Committing -/

theorem commitVarsFrom_engine (m : Model) (index : Nat) (vs : List Var) :
    (m.commitVarsFrom index vs).engine = m.engine := by
  induction vs generalizing m index with
  | nil => rfl
  | cons v rest ih => exact ih (m.commitVar index v) (index + 1)

theorem commitVars_engine (m : Model) : m.commitVars.engine = m.engine :=
  commitVarsFrom_engine m m.varCount m.pendingVars

theorem commitConstraintsFrom_engine (m : Model) (index : Nat) (cs : List Constraint) :
    (m.commitConstraintsFrom index cs).engine = m.engine := by
  induction cs generalizing m index with
  | nil => rfl
  | cons c rest ih => exact ih (m.commitConstraint index c) (index + 1)

theorem commitConstraints_engine (m : Model) : m.commitConstraints.engine = m.engine :=
  commitConstraintsFrom_engine m m.constraints.length m.pendingConstraints

/-- How a queue is committed: what is checked, the call that hands the queue over, and what becomes
of the model. -/
structure Commitment where
  isEmpty : Bool
  check : Except Failure Unit
  operation : String
  call : Except Fault (Engine.Acting Value)
  commit : Model → Model

def varsCommitment (m : Model) : Commitment where
  isEmpty := m.pendingVars.isEmpty
  check := m.checkVars
  operation := if m.pendingVars.length = 1 then "add_var" else "add_vars"
  call := varsCall m.pendingVars
  commit := commitVars

def constraintsCommitment (m : Model) : Commitment where
  isEmpty := m.pendingConstraints.isEmpty
  check := m.checkConstraints
  operation := if m.pendingConstraints.length = 1 then "add_constr" else "add_constrs"
  call := m.constraintsCall m.pendingConstraints
  commit := commitConstraints

namespace Commitment

variable {c : Commitment}

/-- How committing a queue ends: there is nothing to do, the queue does not pass the check, it cannot
be encoded, the engine does not accept it, or it is committed. -/
inductive Ends (c : Commitment) (m : Model) (w : Surroundings) :
    Except Failure Unit × Model × Surroundings → Prop
  | idle (h : c.isEmpty = true) : Ends c m w (.ok (), m, w)
  | rejected {f : Failure} (h : c.isEmpty = false) (hcheck : c.check = .error f) :
      Ends c m w (.error f, m, w)
  | unencodable {f : Fault} (h : c.isEmpty = false) (hcheck : c.check = .ok ())
      (hcall : c.call = .error f) : Ends c m w (.error (.fault f), m, w)
  | refused {x : Engine.Acting Value} {f : Failure} {t : Model × Surroundings}
      (h : c.isEmpty = false) (hcheck : c.check = .ok ()) (hcall : c.call = .ok x)
      (hx : ¬Engine.Accepted (x.perform (m.engine, w)))
      (hf : (callEngine c.operation x).perform (m, w) = (.error f, t))
      (ht : OnlyMessages (afterCall m w x) t) : Ends c m w (.error f, t)
  | committed {x : Engine.Acting Value} {t : Model × Surroundings} (h : c.isEmpty = false)
      (hcheck : c.check = .ok ()) (hcall : c.call = .ok x)
      (hx : Engine.Accepted (x.perform (m.engine, w)))
      (ht : OnlyMessages (c.commit (afterCall m w x).1, (afterCall m w x).2) t) :
      Ends c m w (.ok (), t)

def send (c : Commitment) : Acting Unit := do
  let call ← Action.ofFault c.call
  callEngine c.operation call

/-- Commits a queue and tells so. -/
def run (c : Commitment) (text : String → String) : Acting Unit := do
  if !c.isEmpty then
    Action.ofExcept c.check
    c.send
    change c.commit
    log .trace text

theorem run_ends (c : Commitment) (text : String → String) (m : Model) (w : Surroundings) :
    c.Ends m w ((c.run text).perform (m, w)) := by
  unfold run send
  cases hempty : c.isEmpty with
  | true => exact .idle hempty
  | false =>
    cases hcheck : c.check with
    | error f => exact .rejected hempty hcheck
    | ok _ =>
      cases hcall : c.call with
      | error f => exact .unencodable hempty hcheck hcall
      | ok x =>
        show c.Ends m w ((do
          callEngine c.operation x
          change c.commit
          log .trace text : Acting Unit).perform (m, w))
        by_cases hx : Engine.Accepted (x.perform (m.engine, w))
        · obtain ⟨t, ht, hmessages⟩ :=
            perform_log .trace text (c.commit (afterCall m w x).1, (afterCall m w x).2)
          rw [perform_bind_of_ok (perform_callEngine hx _)]
          show c.Ends m w ((log .trace text).perform
            (c.commit (afterCall m w x).1, (afterCall m w x).2))
          rw [ht]
          exact .committed hempty hcheck hcall hx hmessages
        · obtain ⟨f, t, ht, hmessages⟩ := callEngine_error hx c.operation
          rw [perform_bind_of_error ht]
          exact .refused hempty hcheck hcall hx ht hmessages

end Commitment

theorem flushVars_ends (m : Model) (w : Surroundings) :
    m.varsCommitment.Ends m w (flushVars.perform (m, w)) :=
  m.varsCommitment.run_ends
    (fun name => s!"Committed {m.pendingVars.length} variable(s) to model {name}") m w

theorem flushConstraints_ends (m : Model) (w : Surroundings) :
    m.constraintsCommitment.Ends m w (flushConstraints.perform (m, w)) := by
  let text (name : String) : String :=
    s!"Committed {m.pendingConstraints.length} constraint(s) to model {name}"
  have hrun : flushConstraints.perform (m, w) = (m.constraintsCommitment.run text).perform (m, w) := by
    rw [flushConstraints, perform_bind_of_ok perform_model, Commitment.run, constraintsCommitment]
    -- the model is looked up again after the check, which has not changed it
    cases m.pendingConstraints.isEmpty <;> cases m.checkConstraints <;> rfl
  rw [hrun]
  exact m.constraintsCommitment.run_ends text m w

end Milp.Model

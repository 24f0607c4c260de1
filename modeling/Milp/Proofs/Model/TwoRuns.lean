import Milp.Proofs.Engine.Mute
import Milp.Proofs.Handler
import Milp.Proofs.Model.Call
import Milp.Proofs.Model.History
set_option autoImplicit false

/-! # A model at two output levels

The output level of a model says which messages are printed, and nothing else. Two runs of a model
at different levels are therefore compared with a relation that tells them apart by their levels and
their logs alone (`TwoRuns`). Whatever a model does leads from states in that relation to such
states, with the same outcome (`move_lockstep`), unless it has to do with the level itself or is a
message of a caller's own that is printed at some levels only. -/

namespace Milp

open Milp.Action

variable {Quieter : Prop} {before : List LogRecord} {α : Type}

/-! ## Handlers -/

namespace Handler

/-- A handler and its surroundings in two runs, which differ in the level and in what they have
logged after what was there before. If the first run has been the quieter one all the time, it has
logged no more than a part of what the second one has. -/
structure TwoRuns (Quieter : Prop) (before : List LogRecord) (s t : Handler × Surroundings) :
    Prop where
  handler : t.1 = { s.1 with level := t.1.level }
  surroundings : t.2 = { s.2 with log := t.2.log }
  log : ∃ r r', s.2.log = before ++ r ∧ t.2.log = before ++ r' ∧ (Quieter → r.Sublist r')
  level : Quieter → t.1.level.rank ≤ s.1.level.rank

variable {s t : Handler × Surroundings}

theorem TwoRuns.view (h : TwoRuns Quieter before s t) : t.2.view = s.2.view := by
  rw [h.surroundings]

theorem TwoRuns.count (h : TwoRuns Quieter before s t) (severity : Severity) :
    TwoRuns Quieter before (s.1.count severity, s.2) (t.1.count severity, t.2) where
  handler := by
    show t.1.count severity = { s.1.count severity with level := (t.1.count severity).level }
    rw [count_level, ← counters_count, ← h.handler]
  surroundings := h.surroundings
  log := h.log
  level hquieter := by
    show (t.1.count severity).level.rank ≤ (s.1.count severity).level.rank
    rw [count_level, count_level]
    exact h.level hquieter

theorem TwoRuns.addLog (h : TwoRuns Quieter before s t) {records records' : List LogRecord}
    (hrecords : Quieter → records.Sublist records') :
    TwoRuns Quieter before (s.1, s.2.addLog records) (t.1, t.2.addLog records') where
  handler := h.handler
  surroundings := congrArg (Surroundings.addLog · records') h.surroundings
  log := by
    obtain ⟨r, r', hr, hr', hsublist⟩ := h.log
    refine ⟨r ++ records, r' ++ records', ?_, ?_, fun hq => (hsublist hq).append (hrecords hq)⟩
    · rw [← List.append_assoc, ← hr]
      rfl
    · rw [← List.append_assoc, ← hr']
      rfl
  level := h.level

/-- A handler with a lower level prints whatever one with a higher level prints. -/
theorem printed_sublist {h h' : Handler} (hlevel : h'.level.rank ≤ h.level.rank)
    (severity : Severity) (text : String) :
    (h.printed severity text).Sublist (h'.printed severity text) := by
  unfold printed
  cases hprints : h.prints severity with
  | false => exact List.nil_sublist _
  | true =>
    have hprints' : h'.prints severity = true :=
      decide_eq_true (Nat.le_trans hlevel (of_decide_eq_true hprints))
    rw [hprints']

theorem report_lockstep (severity : Severity) (text : View → String) :
    Lockstep (TwoRuns Quieter before) (report severity fun view => .ok (text view)) := by
  intro s t h
  have hcount := h.count severity
  rw [perform_report_printed, perform_report_printed, h.view]
  exact ⟨rfl, hcount.addLog fun hq => printed_sublist (hcount.level hq) severity _⟩

/-- A fatal message is logged at any level. -/
theorem raise_lockstep (message : View → Except Failure Value) :
    Lockstep (TwoRuns Quieter before) (raise message : Acting α) := by
  refine Agree.bind (Agree.modify fun _ _ h => h.count .fatal) fun _ => Agree.get_bind ?_
  rintro ⟨handler, w⟩ ⟨handler', w'⟩ h
  dsimp only
  rw [show w'.view = w.view from h.view]
  refine Agree.bind (Agree.ofExcept _) (fun m => Agree.bind (Agree.modify fun s t h => ?_) fun _ =>
    (Agree.ofFault _).bind fun _ => Agree.throw _) _ _ h
  rw [h.view]
  exact h.addLog fun _ => List.Sublist.refl _

theorem tell_fatal_lockstep (message args : Value) :
    Lockstep (TwoRuns Quieter before) (tell .fatal message args) :=
  raise_lockstep fun view => fill view message args

theorem raiseFailure_lockstep (f : Failure) :
    Lockstep (TwoRuns Quieter before) (raiseFailure f : Acting α) := by
  refine Agree.bind (Agree.modify fun _ _ h => h.count .fatal) fun _ => Agree.get_bind ?_
  rintro ⟨handler, w⟩ ⟨handler', w'⟩ h
  dsimp only
  rw [show w'.view = w.view from h.view]
  exact Agree.bind (Agree.modify fun _ _ h => h.addLog fun _ => List.Sublist.refl _)
    (fun _ => Agree.throw f) _ _ h

end Handler

/-! ## Models -/

namespace Model

/-- The same model with another handler. -/
def withHandler (m : Model) (handler : Handler) : Model := { m with handler }

/-- A model in two runs, which differ in the level of its handler and in their logs. -/
structure TwoRuns (Quieter : Prop) (before : List LogRecord) (s t : Model × Surroundings) :
    Prop where
  model : t.1 = s.1.withHandler t.1.handler
  messages : Handler.TwoRuns Quieter before (s.1.handler, s.2) (t.1.handler, t.2)

variable {s t : Model × Surroundings}

theorem onHandler_lockstep {x : Handler.Acting α}
    (hx : Lockstep (Handler.TwoRuns Quieter before) x) :
    Lockstep (TwoRuns Quieter before) (onHandler x) := by
  rintro ⟨m, w⟩ ⟨m', w'⟩ h
  obtain ⟨handler, rfl⟩ : ∃ handler, m' = m.withHandler handler := ⟨_, h.model⟩
  obtain ⟨houtcome, hmessages⟩ := hx _ _ h.messages
  exact ⟨houtcome, rfl, hmessages⟩

theorem onEngine_lockstep {x : Engine.Acting α} (hx : Mute x) :
    Lockstep (TwoRuns Quieter before) (onEngine x) := by
  rintro ⟨m, w⟩ ⟨m', w'⟩ h
  obtain ⟨handler, rfl⟩ : ∃ handler, m' = m.withHandler handler := ⟨_, h.model⟩
  obtain ⟨log, rfl⟩ : ∃ log, w' = { w with log } := ⟨_, h.messages.surroundings⟩
  obtain ⟨houtcome, hlog, hstate⟩ := hx w.log log (m.engine, w) _ ⟨rfl, rfl⟩
  have hrun : x.perform ((m.withHandler handler).engine, { w with log }) =
      ((x.perform (m.engine, w)).1, withLog (x.perform (m.engine, w)).2 log) :=
    Prod.ext houtcome.symm hstate
  rw [onEngine, within_run, within_run, hrun]
  refine ⟨rfl, rfl, h.messages.handler, rfl, ?_, h.messages.level⟩
  dsimp only
  rw [hlog]
  exact h.messages.log

/-- What follows looking at the model makes no use of its handler. -/
theorem model_bind {f : Model → Acting α} (hf : ∀ m handler, f (withHandler m handler) = f m)
    (h : ∀ m, Lockstep (TwoRuns Quieter before) (f m)) :
    Lockstep (TwoRuns Quieter before) (model >>= f) := by
  rintro ⟨m, w⟩ ⟨m', w'⟩ hst
  obtain ⟨handler, rfl⟩ : ∃ handler, m' = m.withHandler handler := ⟨_, hst.model⟩
  rw [perform_bind_of_ok perform_model, perform_bind_of_ok perform_model, hf]
  exact h m _ _ hst

theorem change_lockstep {f : Model → Model}
    (hf : ∀ m handler, f (withHandler m handler) = (f m).withHandler handler) :
    Lockstep (TwoRuns Quieter before) (change f) := by
  refine Agree.modify ?_
  rintro ⟨m, w⟩ ⟨m', w'⟩ h
  have hhandler (m : Model) : (f m).handler = m.handler := by
    have hsame : f m = (f m).withHandler m.handler := hf m m.handler
    rw [hsame]
    rfl
  refine ⟨?_, ?_⟩
  · show f m' = (f m).withHandler (f m').handler
    rw [hhandler, ← hf, ← h.model]
  · show Handler.TwoRuns Quieter before ((f m).handler, w) ((f m').handler, w')
    rw [hhandler, hhandler]
    exact h.messages

theorem void_lockstep {x : Acting Unit} (hx : Lockstep (TwoRuns Quieter before) x) :
    Lockstep (TwoRuns Quieter before) (void x) := hx.bind fun _ => Agree.pure _

/-! ### Calls of the engine -/

theorem log_lockstep (severity : Severity) (text : String → String) :
    Lockstep (TwoRuns Quieter before) (log severity text) :=
  model_bind (fun _ _ => rfl) fun m =>
    onHandler_lockstep (Handler.report_lockstep severity fun view => text (m.name.display view))

theorem checkAlive_lockstep : Lockstep (TwoRuns Quieter before) checkAlive :=
  model_bind (fun _ _ => rfl) fun _ => Agree.ite (Agree.throw _) (Agree.pure _)

theorem checkStatus_lockstep (status : Value) (operation : String) :
    Lockstep (TwoRuns Quieter before) (checkStatus status operation) :=
  (onEngine_lockstep (Engine.isTrue_mute _)).bind fun _ => Agree.ite
    ((Agree.ofFault _).bind fun _ => (log_lockstep _ _).bind fun _ => Agree.throw _) (Agree.pure _)

theorem callEngine_lockstep (operation : String) {x : Engine.Acting Value} (hx : Mute x) :
    Lockstep (TwoRuns Quieter before) (callEngine operation x) :=
  (onEngine_lockstep hx).bind fun _ => checkStatus_lockstep _ _

theorem askEngine_lockstep (operation : String) {x : Engine.Acting Engine.Answer} (hx : Mute x) :
    Lockstep (TwoRuns Quieter before) (askEngine operation x) :=
  (onEngine_lockstep hx).bind fun _ => (checkStatus_lockstep _ _).bind fun _ => Agree.pure _

/-! ### Beginning and end -/

theorem release_lockstep : Lockstep (TwoRuns Quieter before) release :=
  (change_lockstep fun _ _ => rfl).bind fun _ =>
    (onEngine_lockstep Engine.finish_mute).bind fun _ => Agree.pure _

theorem finish_lockstep : Lockstep (TwoRuns Quieter before) finish :=
  model_bind (fun _ _ => rfl) fun _ => Agree.ite
    ((log_lockstep _ _).bind fun _ => release_lockstep) (Agree.pure _)

theorem finalize_lockstep : Lockstep (TwoRuns Quieter before) finalize :=
  model_bind (fun _ _ => rfl) fun _ => Agree.ite release_lockstep (Agree.pure _)

/-! ### Queueing -/

theorem addVar_lockstep (v : Value) : Lockstep (TwoRuns Quieter before) (addVar v) := by
  refine checkAlive_lockstep.bind fun _ => ?_
  split
  · exact (change_lockstep fun _ _ => rfl).bind fun _ => Agree.pure _
  · exact Agree.throw _

theorem addConstraint_lockstep (c : Value) :
    Lockstep (TwoRuns Quieter before) (addConstraint c) := by
  refine checkAlive_lockstep.bind fun _ => ?_
  split
  · exact (change_lockstep fun _ _ => rfl).bind fun _ => Agree.pure _
  · exact Agree.throw _

theorem add_lockstep (entity : Value) : Lockstep (TwoRuns Quieter before) (add entity) := by
  unfold add
  split
  · exact addVar_lockstep _
  · exact addConstraint_lockstep _
  · exact Agree.throw _

/-! ### Committing -/

theorem addOneVar_mute (v : Var) : Mute (addOneVar v) := Engine.addVar_mute _ _ _ _ _

theorem varsCall_mute {vs : List Var} {x : Engine.Acting Value} (h : varsCall vs = .ok x) :
    Mute x := by
  unfold varsCall at h
  split at h
  · cases h
    exact addOneVar_mute _
  · obtain ⟨_, -, h⟩ := bind_eq_ok_iff.1 h
    obtain ⟨_, -, h⟩ := bind_eq_ok_iff.1 h
    cases h
    exact Engine.addVars_mute _ _ _ _ _ _

theorem constraintsCall_mute {m : Model} {cs : List Constraint} {x : Engine.Acting Value}
    (h : m.constraintsCall cs = .ok x) : Mute x := by
  unfold constraintsCall at h
  split at h
  · obtain ⟨_, -, h⟩ := bind_eq_ok_iff.1 h
    cases h
    exact Engine.addConstraint_mute _ _ _ _ _ _
  · obtain ⟨_, -, h⟩ := bind_eq_ok_iff.1 h
    cases h
    exact Engine.addConstraints_mute _ _ _ _ _ _ _ _

/-- Calls that are made out of a queue are made, if they can be made. -/
theorem callMade_lockstep {r : Except Fault (Engine.Acting Value)} (hr : ∀ x, r = .ok x → Mute x)
    (operation : String) : Lockstep (TwoRuns Quieter before) (do
      let call ← Action.ofFault r
      callEngine operation call) := by
  cases r with
  | error f => exact Agree.throw _
  | ok x => exact callEngine_lockstep operation (hr x rfl)

theorem sendVars_lockstep (vs : List Var) : Lockstep (TwoRuns Quieter before) (sendVars vs) :=
  callMade_lockstep (fun _ => varsCall_mute) _

theorem encodeRowsFrom_handler (m : Model) (handler : Handler) (position : Nat)
    (cs : List Constraint) :
    (m.withHandler handler).encodeRowsFrom position cs = m.encodeRowsFrom position cs := by
  induction cs generalizing position with
  | nil => rfl
  | cons c rest ih =>
    simp only [encodeRowsFrom, ih]
    rfl

theorem constraintsCall_handler (m : Model) (handler : Handler) (cs : List Constraint) :
    (m.withHandler handler).constraintsCall cs = m.constraintsCall cs := by
  have hmany : (m.withHandler handler).addManyConstraints cs = m.addManyConstraints cs := by
    unfold addManyConstraints encodeRows
    rw [encodeRowsFrom_handler]
  unfold constraintsCall
  split
  · rfl
  · exact hmany

theorem sendConstraints_lockstep (cs : List Constraint) :
    Lockstep (TwoRuns Quieter before) (sendConstraints cs) :=
  model_bind (fun m handler => by rw [constraintsCall_handler]) fun _ =>
    callMade_lockstep (fun _ => constraintsCall_mute) _

theorem commitVarsFrom_handler (m : Model) (handler : Handler) (index : Nat) (vs : List Var) :
    (m.withHandler handler).commitVarsFrom index vs =
      (m.commitVarsFrom index vs).withHandler handler := by
  induction vs generalizing m index with
  | nil => rfl
  | cons v rest ih => exact ih (m.commitVar index v) (index + 1)

theorem commitVars_handler (m : Model) (handler : Handler) :
    (m.withHandler handler).commitVars = m.commitVars.withHandler handler :=
  congrArg (fun n : Model => { n with
    varCount := m.varCount + m.pendingVars.length
    pendingVars := [] }) (commitVarsFrom_handler m handler m.varCount m.pendingVars)

theorem commitConstraintsFrom_handler (m : Model) (handler : Handler) (index : Nat)
    (cs : List Constraint) :
    (m.withHandler handler).commitConstraintsFrom index cs =
      (m.commitConstraintsFrom index cs).withHandler handler := by
  induction cs generalizing m index with
  | nil => rfl
  | cons c rest ih => exact ih (m.commitConstraint index c) (index + 1)

theorem commitConstraints_handler (m : Model) (handler : Handler) :
    (m.withHandler handler).commitConstraints = m.commitConstraints.withHandler handler :=
  congrArg (fun n : Model => { n with pendingConstraints := [] })
    (commitConstraintsFrom_handler m handler m.constraints.length m.pendingConstraints)

theorem checkConstraintsFrom_handler (m : Model) (handler : Handler) (seen : List Nat)
    (cs : List Constraint) :
    (m.withHandler handler).checkConstraintsFrom seen cs = m.checkConstraintsFrom seen cs := by
  induction cs generalizing seen with
  | nil => rfl
  | cons c rest ih =>
    simp only [checkConstraintsFrom, ih]
    rfl

theorem flushVars_lockstep : Lockstep (TwoRuns Quieter before) flushVars :=
  model_bind (fun _ _ => rfl) fun _ => Agree.ite
    ((Agree.ofExcept _).bind fun _ => (sendVars_lockstep _).bind fun _ =>
      (change_lockstep commitVars_handler).bind fun _ => log_lockstep _ _)
    (Agree.pure _)

theorem flushConstraints_lockstep : Lockstep (TwoRuns Quieter before) flushConstraints := by
  refine model_bind (fun m handler => ?_) fun _ => Agree.ite
    ((Agree.ofExcept _).bind fun _ => (sendConstraints_lockstep _).bind fun _ =>
      (change_lockstep commitConstraints_handler).bind fun _ => log_lockstep _ _)
    (Agree.pure _)
  have hcheck : (m.withHandler handler).checkConstraints = m.checkConstraints :=
    checkConstraintsFrom_handler m handler [] m.pendingConstraints
  rw [hcheck]
  rfl

theorem update_lockstep : Lockstep (TwoRuns Quieter before) update :=
  checkAlive_lockstep.bind fun _ => flushVars_lockstep.bind fun _ =>
    flushConstraints_lockstep.bind fun _ => callEngine_lockstep _ Engine.updateModel_mute

/-! ### Solving and asking for results -/

theorem setSense_lockstep (sense : Value) : Lockstep (TwoRuns Quieter before) (setSense sense) := by
  refine checkAlive_lockstep.bind fun _ => ?_
  split
  · exact callEngine_lockstep _ (Engine.setModelAttribute_mute _ _)
  · exact Agree.throw _
  · exact onHandler_lockstep (Handler.raiseFailure_lockstep _)

theorem getSense_lockstep : Lockstep (TwoRuns Quieter before) getSense :=
  checkAlive_lockstep.bind fun _ =>
    (askEngine_lockstep _ (Engine.getModelAttribute_mute _)).bind fun _ => Agree.ofFault _

theorem optimize_lockstep : Lockstep (TwoRuns Quieter before) optimize :=
  update_lockstep.bind fun _ => model_bind (fun _ _ => rfl) fun _ =>
    (log_lockstep _ _).bind fun _ => callEngine_lockstep _ Engine.optimize_mute

/-- The index of an entity, which must be committed. -/
theorem committed_lockstep (indexOf? : Model → Except Fault (Option Nat))
    (hindex : ∀ m handler, indexOf? (withHandler m handler) = indexOf? m)
    (failure : Value → Failure) :
    Lockstep (TwoRuns Quieter before) (do
      let m ← model
      match ← Action.ofFault (indexOf? m) with
      | some i => return i
      | none => onHandler (Handler.raiseFailure (failure m.name)) : Acting Nat) := by
  refine model_bind (fun m handler => ?_) fun m => (Agree.ofFault _).bind fun i => ?_
  · rw [hindex]
    rfl
  cases i with
  | some i => exact Agree.pure _
  | none => exact onHandler_lockstep (Handler.raiseFailure_lockstep _)

theorem getVarAttribute_lockstep (v attr : Value) :
    Lockstep (TwoRuns Quieter before) (getVarAttribute v attr) :=
  checkAlive_lockstep.bind fun _ =>
    (committed_lockstep (·.varIndexOf? v) (fun _ _ => rfl) (.uncommittedVar v)).bind
      fun _ => askEngine_lockstep _ (Engine.getVarAttribute_mute _ _)

theorem getConstraintAttribute_lockstep (c attr : Value) :
    Lockstep (TwoRuns Quieter before) (getConstraintAttribute c attr) :=
  checkAlive_lockstep.bind fun _ =>
    (committed_lockstep (·.constraintIndexOf? c) (fun _ _ => rfl) (.uncommittedConstraint c)).bind
      fun _ => askEngine_lockstep _ (Engine.getConstraintAttribute_mute _ _)

theorem iisAmong_lockstep (cs : List Constraint) :
    Lockstep (TwoRuns Quieter before) (iisAmong cs) := by
  induction cs with
  | nil => exact Agree.pure _
  | cons c rest ih =>
    exact (getConstraintAttribute_lockstep _ _).bind fun _ => ih.bind fun _ => Agree.pure _

/-! ## Operations -/

/-- Whether an operation has nothing to do with the level: it neither asks for it nor sets it, and
it is no message of a caller's own that is printed at some levels only. -/
def Operation.isLevelFree : Operation → Bool
  | query .outputLevel | setOutputLevel _ => false
  | tell s _ _ => s = .fatal
  | _ => true

theorem answer_handler (place : Nat) (m : Model) (handler : Handler) {q : Query}
    (hq : (Operation.query q).isLevelFree = true) :
    q.answer place (m.withHandler handler) = q.answer place m := by
  cases q with
  | outputLevel => cases hq
  | _ => rfl

theorem query_lockstep (place : Nat) {q : Query} (hq : (Operation.query q).isLevelFree = true) :
    Lockstep (TwoRuns Quieter before) ((Operation.query q).run place) :=
  model_bind (fun m handler => by rw [answer_handler place m handler hq]) fun _ => Agree.ofFault _

theorem operation_lockstep (place : Nat) {op : Operation} (h : op.isLevelFree = true) :
    Lockstep (TwoRuns Quieter before) (op.run place) := by
  cases op with
  | query q => exact query_lockstep place h
  | add entity => exact add_lockstep entity
  | addVar v => exact addVar_lockstep v
  | addConstraint c => exact addConstraint_lockstep c
  | newVar id request => exact (Agree.ofExcept _).bind fun _ => addVar_lockstep _
  | newConstraint id expr sense bound name =>
    exact (Agree.ofExcept _).bind fun _ => addConstraint_lockstep _
  | update => exact void_lockstep update_lockstep
  | optimize => exact void_lockstep optimize_lockstep
  | computeIis =>
    exact void_lockstep (checkAlive_lockstep.bind fun _ =>
      callEngine_lockstep _ Engine.computeIis_mute)
  | finish => exact void_lockstep finish_lockstep
  | status =>
    exact checkAlive_lockstep.bind fun _ => askEngine_lockstep _ (Engine.getModelAttribute_mute _)
  | getSense => exact getSense_lockstep
  | objectiveValue =>
    exact checkAlive_lockstep.bind fun _ => askEngine_lockstep _ (Engine.getObjective_mute _)
  | iisConstraints =>
    exact model_bind (fun _ _ => rfl) fun _ => (iisAmong_lockstep _).bind fun _ => Agree.pure _
  | setSense sense => exact void_lockstep (setSense_lockstep sense)
  | write file =>
    exact void_lockstep (checkAlive_lockstep.bind fun _ =>
      callEngine_lockstep _ (Engine.write_mute _))
  | value v => exact getVarAttribute_lockstep v _
  | varAttribute v attr => exact getVarAttribute_lockstep v attr
  | constraintAttribute c attr => exact getConstraintAttribute_lockstep c attr
  | getEngine => exact checkAlive_lockstep.bind fun _ => Agree.pure _
  | setOutputLevel level => cases h
  | tell severity message args =>
    obtain rfl : severity = .fatal := of_decide_eq_true h
    exact onHandler_lockstep (Handler.tell_fatal_lockstep message args)

/-! ## Moves -/

/-- A change of the surroundings that is no matter of the log, to which it may add. -/
def AddsToLog (change : Surroundings → Surroundings) : Prop :=
  ∀ w, ∃ r, ∀ l, change { w with log := l } = { change w with log := l ++ r }

theorem AddsToLog.lockstep {change : Surroundings → Surroundings} (h : AddsToLog change) :
    Lockstep (TwoRuns Quieter before) (modify fun (m, w) => (m, change w)) := by
  refine Agree.modify ?_
  rintro ⟨m, w⟩ ⟨m', w'⟩ hst
  obtain ⟨log, rfl⟩ : ∃ log, w' = { w with log } := ⟨_, hst.messages.surroundings⟩
  obtain ⟨records, hrecords⟩ := h w
  obtain ⟨r, r', hr, hr', hsublist⟩ := hst.messages.log
  have hlog : (change w).log = w.log ++ records := congrArg Surroundings.log (hrecords w.log)
  have hlog' : (change { w with log }).log = log ++ records :=
    congrArg Surroundings.log (hrecords log)
  refine ⟨hst.model, hst.messages.handler, ?_, ⟨r ++ records, r' ++ records, ?_, ?_, ?_⟩,
    hst.messages.level⟩
  · rw [hlog']
    exact hrecords log
  · rw [hlog, hr, List.append_assoc]
  · rw [hlog', ← List.append_assoc, ← hr']
  · exact fun hq => (hsublist hq).append (List.Sublist.refl _)

/-- Whether a move has nothing to do with the level. -/
def Move.IsLevelFree : Move → Prop
  | operate _ op => op.isLevelFree = true
  | elsewhere change => AddsToLog change
  | _ => True

theorem move_lockstep {move : Move} (h : move.IsLevelFree) :
    Lockstep (TwoRuns Quieter before) move.run := by
  cases move with
  | operate place op => exact operation_lockstep place h
  | flushVars => exact void_lockstep (checkAlive_lockstep.bind fun _ => flushVars_lockstep)
  | flushConstraints =>
    exact void_lockstep (checkAlive_lockstep.bind fun _ => flushConstraints_lockstep)
  | failOn f => exact void_lockstep (onEngine_lockstep (Engine.change_mute _))
  | clearFailures => exact void_lockstep (onEngine_lockstep (Engine.change_mute _))
  | clearCalls => exact void_lockstep (onEngine_lockstep (Engine.change_mute _))
  | finalize => exact void_lockstep finalize_lockstep
  | elsewhere change => exact void_lockstep (AddsToLog.lockstep h)

end Model

end Milp

import Mathlib.Logic.Relation
import Milp.Proofs.Model.Call
import Milp.Proofs.Model.History
import Milp.Proofs.Model.Image
set_option autoImplicit false

/-! # What can change in a model

Whatever happens to a model comes down to a few kinds of changes (`Change`), of which none stores a
solution. What they maintain is maintained by every operation but the solving, whether it succeeds or
fails half-way (`run_maintains`); as long as the model is not ended, that holds of what only those
changes maintain that end neither the model nor its engine (`Abiding`). A history is therefore a sequence of changes, of solutions and of
entities that are queued (`History.steps_run`), and an invariant has to be checked for these alone. -/

namespace Milp.Model

open Milp.Action

/-! ## Changes -/

/-- A change of a model that queues nothing. `Elsewhere` tells what may happen to the
surroundings. -/
inductive Change (Elsewhere : Surroundings → Surroundings → Prop) :
    Model × Surroundings → Model × Surroundings → Prop
  | aside {m : Model} {w w' : Surroundings} {e : Engine}
      (h : Engine.Aside (m.engine, w) (e, w')) : Change Elsewhere (m, w) ({ m with engine := e }, w')
  | message (m : Model) (w : Surroundings) (handler : Handler) (log : List LogRecord) :
      Change Elsewhere (m, w) ({ m with handler }, { w with log })
  | ending (m : Model) (w : Surroundings) : Change Elsewhere (m, w) ({ m with ended := true }, w)
  | direction (m : Model) (w : Surroundings) (d : Direction) :
      Change Elsewhere (m, w) (afterCall m w (Engine.setDirection (.int d.number)))
  | refuseVars {m : Model} {w : Surroundings} {x : Engine.Acting Value}
      (hx : varsCall m.pendingVars = .ok x) (h : ¬Engine.Accepted (x.perform (m.engine, w))) :
      Change Elsewhere (m, w) (afterCall m w x)
  | commitVars {m : Model} {w : Surroundings} {x : Engine.Acting Value}
      (hm : m.checkVars = .ok ()) (hx : varsCall m.pendingVars = .ok x)
      (h : Engine.Accepted (x.perform (m.engine, w))) :
      Change Elsewhere (m, w) ((afterCall m w x).1.commitVars, (afterCall m w x).2)
  | refuseConstraints {m : Model} {w : Surroundings} {x : Engine.Acting Value}
      (hx : m.constraintsCall m.pendingConstraints = .ok x)
      (h : ¬Engine.Accepted (x.perform (m.engine, w))) : Change Elsewhere (m, w) (afterCall m w x)
  | commitConstraints {m : Model} {w : Surroundings} {x : Engine.Acting Value}
      (hm : m.checkConstraints = .ok ()) (hx : m.constraintsCall m.pendingConstraints = .ok x)
      (h : Engine.Accepted (x.perform (m.engine, w))) :
      Change Elsewhere (m, w) ((afterCall m w x).1.commitConstraints, (afterCall m w x).2)
  | elsewhere (m : Model) {w w' : Surroundings} (h : Elsewhere w w') :
      Change Elsewhere (m, w) (m, w')

/-- What changes maintain. -/
def Steady (Elsewhere : Surroundings → Surroundings → Prop)
    (P : Model × Surroundings → Prop) : Prop :=
  ∀ {s t : Model × Surroundings}, Change Elsewhere s t → P s → P t

/-- Whether the model has ended, and what shows whether its engine has. -/
def ending (m : Model) : Bool × Engine.Ending := (m.ended, m.engine.ending)

/-- What those changes maintain that end neither the model nor its engine. -/
def Abiding (Elsewhere : Surroundings → Surroundings → Prop)
    (P : Model × Surroundings → Prop) : Prop :=
  ∀ {s t : Model × Surroundings}, Change Elsewhere s t → t.1.ending = s.1.ending → P s → P t

/-- What the engine knows about a solution makes no difference to a property. -/
def Solvable (P : Model × Surroundings → Prop) : Prop :=
  ∀ {m : Model} {w : Surroundings} {s : Solution}, s.Complete → P (m, w) →
    P ({ m with engine := { m.engine with solution := s } }, w)

/-- A model and its surroundings change any number of times. -/
abbrev Changes (Elsewhere : Surroundings → Surroundings → Prop) :
    Model × Surroundings → Model × Surroundings → Prop :=
  Relation.ReflTransGen (Change Elsewhere)

variable {Elsewhere : Surroundings → Surroundings → Prop} {P : Model × Surroundings → Prop}

theorem Changes.maintains {s t : Model × Surroundings} (h : Changes Elsewhere s t)
    (hP : Steady Elsewhere P) (hs : P s) : P t := by
  induction h with
  | refl => exact hs
  | tail _ hc ih => exact hP hc ih

/-! ## Actions of the parts -/

theorem model_maintains : Maintains P model := Maintains.get_bind fun _ h => h

theorem Steady.abiding (hP : Steady Elsewhere P) : Abiding Elsewhere P := fun hc _ => hP hc

theorem Steady.indifferent (hP : Steady Elsewhere P) (m : Model) :
    Engine.Indifferent fun s => P ({ m with engine := s.1 }, s.2) := by
  intro s t ha hs
  have hc : Change Elsewhere ({ m with engine := s.1 }, s.2) ({ m with engine := t.1 }, t.2) :=
    .aside ha
  exact hP hc hs

theorem Abiding.patient (hP : Abiding Elsewhere P) (m : Model) :
    Engine.Patient fun s => P ({ m with engine := s.1 }, s.2) := by
  intro s t ha hending hs
  have hc : Change Elsewhere ({ m with engine := s.1 }, s.2) ({ m with engine := t.1 }, t.2) :=
    .aside ha
  exact hP hc (congrArg (Prod.mk m.ended) hending) hs

theorem onEngine_maintains_of {α : Type} {x : Engine.Acting α}
    (hx : ∀ m : Model, Maintains (fun s => P ({ m with engine := s.1 }, s.2)) x) :
    Maintains P (onEngine x) :=
  Maintains.within fun m w h => hx m (m.engine, w) h

theorem onEngine_maintains {α : Type} (hP : Abiding Elsewhere P) {x : Engine.Acting α}
    (hx : ∀ I, Engine.Patient I → Maintains I x) : Maintains P (onEngine x) :=
  onEngine_maintains_of fun m => hx _ (hP.patient m)

/-- Properties to which neither the handler nor the log matters. -/
def Unspoken (J : Handler × Surroundings → Prop) : Prop :=
  ∀ {h : Handler} {w : Surroundings} (h' : Handler) (log : List LogRecord),
    J (h, w) → J (h', { w with log })

theorem onHandler_maintains {α : Type} (hP : Abiding Elsewhere P) {x : Handler.Acting α}
    (hx : ∀ J, Unspoken J → Maintains J x) : Maintains P (onHandler x) := by
  refine Maintains.within fun m w h => ?_
  have hJ : Unspoken fun s => P ({ m with handler := s.1 }, s.2) :=
    fun {h v} h' log hs => hP (.message { m with handler := h } v h' log) rfl hs
  exact hx (fun s => P ({ m with handler := s.1 }, s.2)) hJ (m.handler, w) h

section Handlers

variable {J : Handler × Surroundings → Prop}

theorem count_maintains (hJ : Unspoken J) (s : Severity) :
    Maintains J (modify fun (h, w) => (h.count s, w) : Handler.Acting PUnit) :=
  Maintains.modify fun t ht => hJ (t.1.count s) t.2.log ht

theorem addLog_maintains (hJ : Unspoken J) (records : Surroundings → List LogRecord) :
    Maintains J (modify fun (h, w) => (h, w.addLog (records w)) : Handler.Acting PUnit) :=
  Maintains.modify fun t ht => hJ t.1 (t.2.log ++ records t.2) ht

theorem report_maintains (hJ : Unspoken J) (s : Severity) (text : View → Except Failure String) :
    Maintains J (Handler.report s text) :=
  (count_maintains hJ s).bind fun _ => Maintains.get_bind fun t ht =>
    ((Maintains.ofExcept _).bind fun records => addLog_maintains hJ fun _ => records) t ht

theorem raise_maintains {α : Type} (hJ : Unspoken J) (message : View → Except Failure Value) :
    Maintains J (Handler.raise message : Handler.Acting α) := by
  refine (count_maintains hJ .fatal).bind fun _ => Maintains.get_bind fun ⟨h, w⟩ hs => ?_
  refine (Maintains.ofExcept (message w.view)).bind (fun m => ?_) (h, w) hs
  refine (addLog_maintains hJ fun w => [⟨.fatal, m.display w.view⟩]).bind fun _ => ?_
  exact (Maintains.ofFault (Handler.failureOf w.view m)).bind fun _ => Maintains.throw _

theorem raiseFailure_maintains {α : Type} (hJ : Unspoken J) (f : Failure) :
    Maintains J (Handler.raiseFailure f : Handler.Acting α) := by
  refine (count_maintains hJ .fatal).bind fun _ => Maintains.get_bind fun ⟨h, w⟩ hs => ?_
  have hlog := addLog_maintains hJ fun _ => [⟨.fatal, (f.message? w.view).getD ""⟩]
  exact hlog.bind (fun _ => Maintains.throw f) (h, w) hs

theorem tell_maintains (hJ : Unspoken J) (s : Severity) (message args : Value) :
    Maintains J (Handler.tell s message args) := by
  unfold Handler.tell
  split
  · exact raise_maintains hJ _
  · exact (report_maintains hJ _ _).bind fun _ => Maintains.pure _

theorem changeLevel_maintains (hJ : Unspoken J) (level : Value) :
    Maintains J (Handler.changeLevel level) := by
  refine Maintains.bind (Maintains.modify fun t ht => ?_) fun _ => Maintains.pure _
  exact hJ (t.1.setLevel level) t.2.log ht

end Handlers

/-! ## Calls of the engine -/

theorem log_maintains (hP : Abiding Elsewhere P) (s : Severity) (text : String → String) :
    Maintains P (log s text) :=
  model_maintains.bind fun _ => onHandler_maintains hP fun _ hJ => report_maintains hJ _ _

theorem checkAlive_maintains : Maintains P checkAlive := by
  refine model_maintains.bind fun m => ?_
  exact Maintains.ite (Maintains.throw _) (Maintains.pure _)

theorem checkStatus_maintains (hP : Abiding Elsewhere P) (status : Value) (operation : String) :
    Maintains P (checkStatus status operation) := by
  refine (onEngine_maintains hP fun _ _ => Engine.isTrue_maintains _).bind fun b => ?_
  refine Maintains.ite ((Maintains.ofFault _).bind fun code => ?_) (Maintains.pure _)
  exact (log_maintains hP _ _).bind fun _ => Maintains.throw _

theorem callEngine_maintains_of (hP : Abiding Elsewhere P) (operation : String)
    {x : Engine.Acting Value}
    (hx : ∀ m : Model, Maintains (fun s => P ({ m with engine := s.1 }, s.2)) x) :
    Maintains P (callEngine operation x) :=
  (onEngine_maintains_of hx).bind fun _ => checkStatus_maintains hP _ _

theorem callEngine_maintains (hP : Abiding Elsewhere P) (operation : String)
    {x : Engine.Acting Value} (hx : ∀ I, Engine.Patient I → Maintains I x) :
    Maintains P (callEngine operation x) :=
  callEngine_maintains_of hP _ fun m => hx _ (hP.patient m)

theorem askEngine_maintains (hP : Abiding Elsewhere P) (operation : String)
    {x : Engine.Acting Engine.Answer} (hx : ∀ I, Engine.Patient I → Maintains I x) :
    Maintains P (askEngine operation x) :=
  (onEngine_maintains hP hx).bind fun _ =>
    (checkStatus_maintains hP _ _).bind fun _ => Maintains.pure _

/-! ## Committing -/

theorem Abiding.messages (hP : Abiding Elsewhere P) {s t : Model × Surroundings}
    (h : OnlyMessages s t) (hs : P s) : P t := by
  have ht := hP (.message s.1 s.2 t.1.handler t.2.log) rfl hs
  rwa [← h.model, ← h.surroundings] at ht

theorem commitVarsFrom_ending (m : Model) (index : Nat) (vs : List Var) :
    (m.commitVarsFrom index vs).ending = m.ending := by
  induction vs generalizing m index with
  | nil => rfl
  | cons v rest ih => exact ih (m.commitVar index v) (index + 1)

theorem commitVars_ending (m : Model) : m.commitVars.ending = m.ending :=
  commitVarsFrom_ending m m.varCount m.pendingVars

theorem commitConstraintsFrom_ending (m : Model) (index : Nat) (cs : List Constraint) :
    (m.commitConstraintsFrom index cs).ending = m.ending := by
  induction cs generalizing m index with
  | nil => rfl
  | cons c rest ih => exact ih (m.commitConstraint index c) (index + 1)

theorem commitConstraints_ending (m : Model) : m.commitConstraints.ending = m.ending :=
  commitConstraintsFrom_ending m m.constraints.length m.pendingConstraints

/-- A call that does not tell the engine to finish ends nothing. -/
theorem afterCall_ending (m : Model) (w : Surroundings) {x : Engine.Acting Value}
    (hx : ∀ v, Maintains (fun s => s.1.ending = v) x) : (afterCall m w x).1.ending = m.ending :=
  congrArg (Prod.mk m.ended) (hx m.engine.ending (m.engine, w) rfl)

theorem varsCall_ending {vs : List Var} {x : Engine.Acting Value} (h : varsCall vs = .ok x)
    (m : Model) (w : Surroundings) : (afterCall m w x).1.ending = m.ending :=
  afterCall_ending m w fun v => varsCall_maintains (Engine.patient_ending v) (fun _ _ _ h => h)
    (fun _ _ _ h => h) h

theorem constraintsCall_ending {cs : List Constraint} {x : Engine.Acting Value} {m' : Model}
    (h : m'.constraintsCall cs = .ok x) (m : Model) (w : Surroundings) :
    (afterCall m w x).1.ending = m.ending :=
  afterCall_ending m w fun v => constraintsCall_maintains (Engine.patient_ending v)
    (fun _ _ _ h => h) (fun _ _ _ h => h) h

theorem setDirection_ending (m : Model) (w : Surroundings) (value : Value) :
    (afterCall m w (Engine.setDirection value)).1.ending = m.ending :=
  afterCall_ending m w fun v => Engine.setDirection_maintains (Engine.patient_ending v)
    (fun _ _ _ h => h) (fun _ _ _ h => h) value

variable {Q : Model × Surroundings → Prop}

/-- Where a queue is committed, or there is none, something else may be reached. -/
theorem Commitment.leads {c : Commitment} {m : Model} {w : Surroundings} {x : Acting Unit}
    (hends : c.Ends m w (x.perform (m, w))) (hP : Abiding Elsewhere P) (hQ : Abiding Elsewhere Q)
    (hs : P (m, w)) (hidle : c.isEmpty = true → Q (m, w))
    (hrefused : ∀ y, c.call = .ok y → ¬Engine.Accepted (y.perform (m.engine, w)) →
      P (afterCall m w y))
    (hcommitted : ∀ y, c.check = .ok () → c.call = .ok y →
      Engine.Accepted (y.perform (m.engine, w)) →
        Q (c.commit (afterCall m w y).1, (afterCall m w y).2)) :
    Leads (· = (m, w)) x (fun _ => Q) P := by
  rintro _ rfl
  generalize x.perform (m, w) = r at hends ⊢
  cases hends with
  | idle hempty => exact hidle hempty
  | rejected => exact hs
  | unencodable => exact hs
  | refused _ _ hcall hx _ ht => exact hP.messages ht (hrefused _ hcall hx)
  | committed _ hcheck hcall hx ht => exact hQ.messages ht (hcommitted _ hcheck hcall hx)

theorem flushVars_leads (hP : Abiding Elsewhere P) (hQ : Abiding Elsewhere Q)
    (hempty : ∀ s, P s → s.1.pendingVars = [] → Q s)
    (hcommit : ∀ m w x, P (m, w) → m.checkVars = .ok () → varsCall m.pendingVars = .ok x →
      Engine.Accepted (x.perform (m.engine, w)) →
        Q ((afterCall m w x).1.commitVars, (afterCall m w x).2)) :
    Leads P flushVars (fun _ => Q) P := by
  rintro ⟨m, w⟩ h
  refine Commitment.leads (flushVars_ends m w) hP hQ h ?_ ?_ (fun x => hcommit m w x h) _ rfl
  · exact fun hpending => hempty (m, w) h (List.isEmpty_iff.1 hpending)
  · exact fun x hcall hx => hP (.refuseVars hcall hx) (varsCall_ending hcall m w) h

theorem flushConstraints_leads (hP : Abiding Elsewhere P) (hQ : Abiding Elsewhere Q)
    (hempty : ∀ s, P s → s.1.pendingConstraints = [] → Q s)
    (hcommit : ∀ m w x, P (m, w) → m.checkConstraints = .ok () →
      m.constraintsCall m.pendingConstraints = .ok x →
      Engine.Accepted (x.perform (m.engine, w)) →
        Q ((afterCall m w x).1.commitConstraints, (afterCall m w x).2)) :
    Leads P flushConstraints (fun _ => Q) P := by
  rintro ⟨m, w⟩ h
  refine Commitment.leads (flushConstraints_ends m w) hP hQ h ?_ ?_ (fun x => hcommit m w x h) _ rfl
  · exact fun hpending => hempty (m, w) h (List.isEmpty_iff.1 hpending)
  · exact fun x hcall hx => hP (.refuseConstraints hcall hx) (constraintsCall_ending hcall m w) h

theorem flushVars_maintains (hP : Abiding Elsewhere P) : Maintains P flushVars :=
  (flushVars_leads hP hP (fun _ h _ => h) fun m w _ h hm hx hr =>
    hP (.commitVars hm hx hr) ((commitVars_ending _).trans (varsCall_ending hx m w)) h).maintains

theorem flushConstraints_maintains (hP : Abiding Elsewhere P) : Maintains P flushConstraints :=
  (flushConstraints_leads hP hP (fun _ h _ => h) fun m w _ h hm hx hr =>
    hP (.commitConstraints hm hx hr)
      ((commitConstraints_ending _).trans (constraintsCall_ending hx m w)) h).maintains

theorem update_maintains (hP : Abiding Elsewhere P) : Maintains P update :=
  checkAlive_maintains.bind fun _ => (flushVars_maintains hP).bind fun _ =>
    (flushConstraints_maintains hP).bind fun _ =>
      callEngine_maintains hP _ fun _ hI => Engine.updateModel_maintains hI

/-! ## Operations -/

theorem void_maintains {x : Acting Unit} (hx : Maintains P x) : Maintains P (void x) :=
  hx.bind fun _ => Maintains.pure _

theorem setSense_maintains (hP : Abiding Elsewhere P) (sense : Value) :
    Maintains P (setSense sense) := by
  refine checkAlive_maintains.bind fun _ => ?_
  split
  · rename_i d _
    refine callEngine_maintains_of hP _ fun m => ?_
    refine Engine.setModelAttribute_maintains (hP.patient m) _ ?_
    exact fun s hs => hP (.direction { m with engine := s.1 } s.2 d)
      (setDirection_ending { m with engine := s.1 } s.2 (.int d.number)) hs
  · exact Maintains.throw _
  · exact onHandler_maintains hP fun _ hJ => raiseFailure_maintains hJ _

theorem getSense_maintains (hP : Abiding Elsewhere P) : Maintains P getSense :=
  checkAlive_maintains.bind fun _ => (askEngine_maintains hP _ fun _ hI =>
    (Engine.getModelAttribute_reads _).maintains hI).bind fun _ => Maintains.ofFault _

theorem optimize_maintains (hP : Abiding Elsewhere P) (hS : Solvable P) : Maintains P optimize :=
  (update_maintains hP).bind fun _ => model_maintains.bind fun _ =>
    (log_maintains hP _ _).bind fun _ => callEngine_maintains_of hP _ fun m =>
      Engine.optimize_maintains (hP.patient m) fun hs h => hS hs h

theorem committedVar_maintains (hP : Abiding Elsewhere P) (v : Value) :
    Maintains P (committedVar v) := by
  refine model_maintains.bind fun m => (Maintains.ofFault _).bind fun i => ?_
  cases i with
  | some i => exact Maintains.pure _
  | none => exact onHandler_maintains hP fun _ hJ => raiseFailure_maintains hJ _

theorem committedConstraint_maintains (hP : Abiding Elsewhere P) (c : Value) :
    Maintains P (committedConstraint c) := by
  refine model_maintains.bind fun m => (Maintains.ofFault _).bind fun i => ?_
  cases i with
  | some i => exact Maintains.pure _
  | none => exact onHandler_maintains hP fun _ hJ => raiseFailure_maintains hJ _

theorem getVarAttribute_maintains (hP : Abiding Elsewhere P) (v attr : Value) :
    Maintains P (getVarAttribute v attr) :=
  checkAlive_maintains.bind fun _ => (committedVar_maintains hP v).bind fun _ =>
    askEngine_maintains hP _ fun _ hI => (Engine.getVarAttribute_reads _ _).maintains hI

theorem getConstraintAttribute_maintains (hP : Abiding Elsewhere P) (c attr : Value) :
    Maintains P (getConstraintAttribute c attr) :=
  checkAlive_maintains.bind fun _ => (committedConstraint_maintains hP c).bind fun _ =>
    askEngine_maintains hP _ fun _ hI => (Engine.getConstraintAttribute_reads _ _).maintains hI

theorem iisAmong_maintains (hP : Abiding Elsewhere P) (cs : List Constraint) :
    Maintains P (iisAmong cs) := by
  induction cs with
  | nil => exact Maintains.pure _
  | cons c rest ih =>
    exact (getConstraintAttribute_maintains hP _ _).bind fun _ =>
      ih.bind fun _ => Maintains.pure _

theorem release_maintains (hP : Steady Elsewhere P) : Maintains P release :=
  (Maintains.modify fun s hs => hP (.ending s.1 s.2) hs).bind fun _ =>
    (onEngine_maintains_of fun m => Engine.finish_maintains (hP.indifferent m)).bind fun _ =>
      Maintains.pure _

theorem finish_maintains (hP : Steady Elsewhere P) : Maintains P finish :=
  model_maintains.bind fun _ => Maintains.ite
    ((log_maintains hP.abiding _ _).bind fun _ => release_maintains hP) (Maintains.pure _)

theorem finalize_maintains (hP : Steady Elsewhere P) : Maintains P finalize :=
  model_maintains.bind fun _ => Maintains.ite (release_maintains hP) (Maintains.pure _)

/-- Operations that neither admit anything nor end the model lead through changes only that do not
end it, however far they get, unless they solve. -/
theorem run_maintains (hP : Abiding Elsewhere P) (place : Nat) {op : Operation}
    (hop : op.isAdmission = false) (hfinish : op ≠ .finish) (hS : op = .optimize → Solvable P) :
    Maintains P (op.run place) := by
  cases op with
  | add _ | addVar _ | addConstraint _ | newVar _ _ | newConstraint _ _ _ _ _ => cases hop
  | query q => exact model_maintains.bind fun _ => Maintains.ofFault _
  | update => exact void_maintains (update_maintains hP)
  | optimize => exact void_maintains (optimize_maintains hP (hS rfl))
  | computeIis =>
    exact void_maintains (checkAlive_maintains.bind fun _ => callEngine_maintains hP _ fun _ hI =>
      Engine.computeIis_maintains hI)
  | finish => exact absurd rfl hfinish
  | status =>
    exact checkAlive_maintains.bind fun _ => askEngine_maintains hP _ fun _ hI =>
      (Engine.getModelAttribute_reads _).maintains hI
  | getSense => exact getSense_maintains hP
  | objectiveValue =>
    exact checkAlive_maintains.bind fun _ => askEngine_maintains hP _ fun _ hI =>
      (Engine.getObjective_reads _).maintains hI
  | iisConstraints =>
    exact model_maintains.bind fun _ => (iisAmong_maintains hP _).bind fun _ => Maintains.pure _
  | setSense sense => exact void_maintains (setSense_maintains hP sense)
  | write file =>
    exact void_maintains (checkAlive_maintains.bind fun _ => callEngine_maintains hP _ fun _ hI =>
      Engine.write_maintains hI _)
  | value v => exact getVarAttribute_maintains hP v _
  | varAttribute v attr => exact getVarAttribute_maintains hP v attr
  | constraintAttribute c attr => exact getConstraintAttribute_maintains hP c attr
  | getEngine => exact checkAlive_maintains.bind fun _ => Maintains.pure _
  | setOutputLevel level =>
    exact onHandler_maintains hP fun _ hJ => changeLevel_maintains hJ level
  | tell s message args =>
    exact onHandler_maintains hP fun _ hJ => tell_maintains hJ s message args

/-! ## Admissions -/

def queueVar (m : Model) (v : Var) : Model := { m with pendingVars := m.pendingVars ++ [v] }

def queueConstraint (m : Model) (c : Constraint) : Model :=
  { m with pendingConstraints := m.pendingConstraints ++ [c] }

/-- What an admission comes to: it fails and changes nothing, or queues the entity that it
answers. -/
inductive Admission (s : Model × Surroundings) :
    Except Failure Value × Model × Surroundings → Prop
  | failed (f : Failure) : Admission s (.error f, s)
  | var (v : Var) : Admission s (.ok (.var v), s.1.queueVar v, s.2)
  | constraint (c : Constraint) : Admission s (.ok (.constraint c), s.1.queueConstraint c, s.2)

theorem checkAlive_cases (s : Model × Surroundings) :
    (checkAlive.perform s = (.ok (), s)) ∨ ∃ f, checkAlive.perform s = (.error f, s) := by
  have hs : checkAlive.perform s =
      (if s.1.ended then throw (.ended s.1.name) else pure () : Acting Unit).perform s := rfl
  rw [hs]
  split
  · exact Or.inr ⟨_, rfl⟩
  · exact Or.inl rfl

theorem addVar_admission (v : Value) (s : Model × Surroundings) :
    Admission s ((addVar v).perform s) := by
  unfold addVar
  rcases checkAlive_cases s with hs | ⟨f, hs⟩
  · rw [perform_bind_of_ok hs]
    split
    · exact .var _
    · exact .failed _
  · rw [perform_bind_of_error hs]
    exact .failed f

theorem addConstraint_admission (c : Value) (s : Model × Surroundings) :
    Admission s ((addConstraint c).perform s) := by
  unfold addConstraint
  rcases checkAlive_cases s with hs | ⟨f, hs⟩
  · rw [perform_bind_of_ok hs]
    split
    · exact .constraint _
    · exact .failed _
  · rw [perform_bind_of_error hs]
    exact .failed f

theorem run_admission (place : Nat) {op : Operation} (hop : op.isAdmission = true)
    (s : Model × Surroundings) : Admission s ((op.run place).perform s) := by
  cases op with
  | addVar v => exact addVar_admission v s
  | addConstraint c => exact addConstraint_admission c s
  | add entity =>
    show Admission s ((Model.add entity).perform s)
    unfold Model.add
    split
    · exact addVar_admission _ s
    · exact addConstraint_admission _ s
    · exact .failed _
  | newVar id request =>
    show Admission s ((Model.newVar id request).perform s)
    unfold Model.newVar
    cases Var.ofValues id request with
    | error f => exact .failed f
    | ok v => exact addVar_admission (.var v) s
  | newConstraint id expr sense bound name =>
    show Admission s ((Model.newConstraint id expr sense bound name).perform s)
    unfold Model.newConstraint
    cases Constraint.ofValues id expr sense bound name with
    | error f => exact .failed f
    | ok c => exact addConstraint_admission (.constraint c) s
  | _ => cases hop

/-! ## Histories -/

/-- What happens elsewhere during a move is what may happen there. -/
def Move.Spares (Elsewhere : Surroundings → Surroundings → Prop) : Move → Prop
  | .elsewhere change => ∀ w, Elsewhere w (change w)
  | _ => True

theorem Move.spares_any (move : Move) : move.Spares fun _ _ => True := by
  cases move with
  | elsewhere change => exact fun _ => trivial
  | _ => trivial

/-- The moves after which a model has ended. -/
def Move.isEnding : Move → Bool
  | operate _ .finish | finalize => true
  | _ => false

/-- A move is an operation that may admit something, or it is none. -/
theorem Move.admission_cases (move : Move) :
    (∃ place op, move = .operate place op ∧ op.isAdmission = true) ∨
      ∀ place op, move = .operate place op → op.isAdmission = false := by
  by_cases h : ∃ place op, move = .operate place op ∧ op.isAdmission = true
  · exact .inl h
  · refine .inr fun place op hmove => ?_
    rw [← Bool.not_eq_true]
    exact fun hop => h ⟨place, op, hmove, hop⟩

theorem Move.run_maintains_of_abiding (hP : Abiding Elsewhere P) {move : Move}
    (hm : move.Spares Elsewhere) (hending : move.isEnding = false) (hcalls : move ≠ .clearCalls)
    (hop : ∀ place op, move = .operate place op → op.isAdmission = false)
    (hS : ∀ place, move = .operate place .optimize → Solvable P) : Maintains P move.run := by
  cases move with
  | operate place op =>
    refine Model.run_maintains hP place (hop place op rfl) ?_ ?_
    · rintro rfl
      cases hending
    · rintro rfl
      exact hS place rfl
  | flushVars =>
    exact void_maintains (checkAlive_maintains.bind fun _ => flushVars_maintains hP)
  | flushConstraints =>
    exact void_maintains (checkAlive_maintains.bind fun _ => flushConstraints_maintains hP)
  | failOn f =>
    exact void_maintains (onEngine_maintains hP fun _ hI =>
      Engine.change_maintains fun _ _ => hI.failOn f)
  | clearFailures =>
    exact void_maintains (onEngine_maintains hP fun _ hI =>
      Engine.change_maintains fun _ _ => hI.clearFailures)
  | clearCalls => exact absurd rfl hcalls
  | finalize => cases hending
  | elsewhere change =>
    exact void_maintains (Maintains.modify fun s hs => hP (.elsewhere s.1 (hm s.2)) rfl hs)

theorem Move.run_maintains (hP : Steady Elsewhere P) {move : Move} (hm : move.Spares Elsewhere)
    (hop : ∀ place op, move = .operate place op → op.isAdmission = false)
    (hS : ∀ place, move = .operate place .optimize → Solvable P) : Maintains P move.run := by
  cases hending : move.isEnding with
  | true =>
    cases move with
    | finalize => exact void_maintains (finalize_maintains hP)
    | operate place op =>
      cases op with
      | finish => exact void_maintains (finish_maintains hP)
      | _ => cases hending
    | _ => cases hending
  | false =>
    by_cases hcalls : move = .clearCalls
    · subst hcalls
      exact void_maintains (onEngine_maintains_of fun m => Engine.change_maintains fun e w =>
        hP.indifferent m (.calls e w []))
    · exact run_maintains_of_abiding hP.abiding hm hending hcalls hop hS

namespace History

/-- A step of a history is a change, a solution that is found, or an entity that is queued. -/
inductive Step (Elsewhere : Surroundings → Surroundings → Prop) : History → History → Prop
  | change {h : History} {t : Model × Surroundings}
      (hc : Change Elsewhere (h.model, h.surroundings) t) :
      Step Elsewhere h { h with model := t.1, surroundings := t.2 }
  | solve (h : History) {s : Solution} (hs : s.Complete) :
      Step Elsewhere h
        { h with model := { h.model with engine := { h.model.engine with solution := s } } }
  | queueVar (h : History) (v : Var) :
      Step Elsewhere h { h with model := h.model.queueVar v, vars := h.vars ++ [v] }
  | queueConstraint (h : History) (c : Constraint) :
      Step Elsewhere h
        { h with model := h.model.queueConstraint c, constraints := h.constraints ++ [c] }

/-- A history leads to another one by steps. -/
abbrev Steps (Elsewhere : Surroundings → Surroundings → Prop) : History → History → Prop :=
  Relation.ReflTransGen (Step Elsewhere)

theorem steady_steps (h : History) : Steady Elsewhere fun s =>
    Steps Elsewhere h { h with model := s.1, surroundings := s.2 } :=
  fun hc hs => hs.tail (.change hc)

theorem steps_of_changes (h : History) {t : Model × Surroundings}
    (ht : Changes Elsewhere (h.model, h.surroundings) t) :
    Steps Elsewhere h { h with model := t.1, surroundings := t.2 } :=
  ht.maintains (steady_steps h) .refl

theorem solvable_steps (h : History) : Solvable fun s =>
    Steps Elsewhere h { h with model := s.1, surroundings := s.2 } :=
  fun hs h => h.tail (.solve _ hs)

theorem steps_next (h : History) {move : Move} (hm : move.Spares Elsewhere) :
    Steps Elsewhere h (h.next move) := by
  -- an admission also records what it queues; every other move comes to changes alone
  rcases move.admission_cases with ⟨place, op, rfl, hop⟩ | hop
  · have hrun := run_admission place hop (h.model, h.surroundings)
    show Steps Elsewhere h (receive { h with
      model := ((op.run place).perform (h.model, h.surroundings)).2.1
      surroundings := ((op.run place).perform (h.model, h.surroundings)).2.2 }
      (Move.admitted? (.operate place op) ((op.run place).perform (h.model, h.surroundings)).1))
    generalize (op.run place).perform (h.model, h.surroundings) = r at hrun
    cases hrun with
    | failed f => exact .refl
    | var v =>
      rw [Move.admitted?, if_pos hop]
      exact .single (.queueVar h v)
    | constraint c =>
      rw [Move.admitted?, if_pos hop]
      exact .single (.queueConstraint h c)
  · have hnone : ∀ outcome, move.admitted? outcome = none := by
      intro outcome
      unfold Move.admitted?
      split
      · rw [if_neg (by rw [hop _ _ rfl]; exact Bool.false_ne_true)]
      · rfl
    have hrun := Move.run_maintains (steady_steps h) hm hop (fun _ _ => solvable_steps h)
      (h.model, h.surroundings) .refl
    show Steps Elsewhere h (receive _ (move.admitted? _))
    rw [hnone]
    exact hrun

/-- A history comes to the steps of its moves. -/
theorem steps_run (h : History) {moves : List Move} (hm : ∀ move ∈ moves, move.Spares Elsewhere) :
    Steps Elsewhere h (h.run moves) := by
  induction moves generalizing h with
  | nil => exact .refl
  | cons move rest ih =>
    have hnext := steps_next h (hm move List.mem_cons_self)
    exact hnext.trans (ih _ fun m hmem => hm m (List.mem_cons_of_mem _ hmem))

/-- What every step maintains holds of whatever a history leads to. -/
theorem Steps.maintains {I : History → Prop} (hI : ∀ {h k}, Step Elsewhere h k → I h → I k)
    {h k : History} (hk : Steps Elsewhere h k) (hh : I h) : I k := by
  induction hk with
  | refl => exact hh
  | tail _ hstep ih => exact hI hstep ih

end History

end Milp.Model

import Milp.Proofs.Model.Outcome
set_option autoImplicit false

/-! # How an update ends

An update of a model whose engine is in memory ends in one way, which its queues and the orders to
fail decide beforehand (`UpdateCase.Applies`): at the first duplicate or unknown variable, at the first
call that is made to fail, or with both queues committed. What has been committed by then stays
committed, and nothing else has changed (`UpdateCase.Ends`). -/

namespace Milp.Model

open Milp.Action Engine

variable {m : Model} {s t u : Model × Surroundings} {cs : List Column} {rs : List Row}

/-! ## Ways to end -/

/-- The ways in which an update can end. -/
inductive UpdateCase where
  | duplicateVar (v : Var)
  | varsFail (code : Int)
  | duplicateConstraint (c : Constraint)
  | unknownVar (v : Var) (c : Constraint)
  /-- There are rows for which 32 bits are not enough. -/
  | tooLong
  | constraintsFail (code : Int)
  | updateFails (code : Int)
  | done

/-- The queued variables can be committed. -/
def VarsPass (s : Model × Surroundings) : Prop :=
  Passes (Repeats Var.id s.1.vars) s.1.pendingVars ∧ ∀ code, ¬s.1.varsCommitment.FailsWith s code

/-- The queued constraints can be committed, after the variables. -/
def ConstraintsPass (s : Model × Surroundings) : Prop :=
  Passes s.1.withVars.Rejects s.1.pendingConstraints ∧
    Passes s.1.withVars.Overflows s.1.pendingConstraints ∧
    ∀ code, ¬s.1.constraintsCommitment.FailsWith s code

namespace UpdateCase

/-- Whether an update is to end in this way. -/
def Applies (s : Model × Surroundings) : UpdateCase → Prop
  | duplicateVar v => ∃ before, StopsAt (Repeats Var.id s.1.vars) s.1.pendingVars before v
  | varsFail code =>
    Passes (Repeats Var.id s.1.vars) s.1.pendingVars ∧ s.1.varsCommitment.FailsWith s code
  | duplicateConstraint c =>
    VarsPass s ∧ ∃ before, StopsAt s.1.withVars.Rejects s.1.pendingConstraints before c ∧
      Repeats Constraint.id s.1.constraints before c
  | unknownVar v c =>
    VarsPass s ∧ ∃ before, StopsAt s.1.withVars.Rejects s.1.pendingConstraints before c ∧
      ¬Repeats Constraint.id s.1.constraints before c ∧
      ∃ known, StopsAt (fun _ => s.1.withVars.Unknown) c.expr.vars known v
  | tooLong =>
    VarsPass s ∧ Passes s.1.withVars.Rejects s.1.pendingConstraints ∧
      ¬Passes s.1.withVars.Overflows s.1.pendingConstraints
  | constraintsFail code =>
    VarsPass s ∧ Passes s.1.withVars.Rejects s.1.pendingConstraints ∧
      Passes s.1.withVars.Overflows s.1.pendingConstraints ∧
      s.1.constraintsCommitment.FailsWith s code
  | updateFails code =>
    VarsPass s ∧ ConstraintsPass s ∧ FailsOn s.2.view s.1.engine "update_model" code
  | done =>
    VarsPass s ∧ ConstraintsPass s ∧ ∀ code, ¬FailsOn s.2.view s.1.engine "update_model" code

/-- The queue of variables has been committed, and then some more operations have been called. -/
def VarsCommitted (s : Model × Surroundings) (later : List String) (t : Model × Surroundings) :
    Prop :=
  ∃ cs, s.1.pendingVars.mapM Var.column = .ok cs ∧
    After s s.1.withVars (s.1.varsCommitment.calls ++ later) cs [] t

/-- Both queues have been committed, and the engine has been told that this was an update. -/
def AllCommitted (s t : Model × Surroundings) : Prop :=
  ∃ cs rs, s.1.pendingVars.mapM Var.column = .ok cs ∧
    s.1.pendingConstraints.mapM s.1.withVars.row = .ok rs ∧
    After s s.1.withVars.withConstraints
      (s.1.varsCommitment.calls ++ s.1.constraintsCommitment.calls ++ ["update_model"]) cs rs t

/-- What an update answers that ends in this way, and what becomes of the model. -/
def Ends (s : Model × Surroundings) (r : Except Failure Unit × Model × Surroundings) :
    UpdateCase → Prop
  | duplicateVar v => r = (.error (.duplicate (.text "Variable") (.var v)), s)
  | varsFail code =>
    r.1 = .error (.engine (.int code) (.text s.1.varsCommitment.operation)) ∧
      After s s.1 [s.1.varsCommitment.operation] [] [] r.2
  | duplicateConstraint c =>
    r.1 = .error (.duplicate (.text "Constraint") (.constraint c)) ∧ VarsCommitted s [] r.2
  | unknownVar v c =>
    r.1 = .error (.unknownVariable (.var v) (.constraint c)) ∧ VarsCommitted s [] r.2
  | tooLong => r.1 = .error (.fault .overflow) ∧ VarsCommitted s [] r.2
  | constraintsFail code =>
    r.1 = .error (.engine (.int code) (.text s.1.constraintsCommitment.operation)) ∧
      VarsCommitted s [s.1.constraintsCommitment.operation] r.2
  | updateFails code =>
    r.1 = .error (.engine (.int code) (.text "update_model")) ∧ AllCommitted s r.2
  | done => r.1 = .ok () ∧ AllCommitted s r.2

/-- The conditions exclude each other: a scan passes a queue or stops at one place of it, and a call
that fails does so with one code. -/
theorem unique {a b : UpdateCase} (ha : a.Applies s) (hb : b.Applies s) : a = b := by
  cases a <;> cases b <;>
    simp only [Applies, VarsPass, ConstraintsPass, Commitment.FailsWith] at ha hb <;>
    grind [StopsAt.unique, StopsAt.not_passes, FailsOn.unique]

end UpdateCase

/-! ## From phase to phase -/

theorem Commitment.eq_of_mem_calls {c : Commitment} {operation : String}
    (h : operation ∈ c.calls) : operation = c.operation := by
  unfold calls at h
  split at h
  · cases h
  · exact List.mem_singleton.1 h

theorem varsOperation_cases (m : Model) :
    m.varsCommitment.operation = "add_var" ∨ m.varsCommitment.operation = "add_vars" :=
  ite_eq_or_eq _ _ _

theorem constraintsOperation_cases (m : Model) :
    m.constraintsCommitment.operation = "add_constr" ∨
      m.constraintsCommitment.operation = "add_constrs" :=
  ite_eq_or_eq _ _ _

/-- What decides on the queued constraints is in one state as it is in another one whose variables
have been committed. -/
structure DecidesAlike (s t : Model × Surroundings) : Prop where
  pending : t.1.pendingConstraints = s.1.pendingConstraints
  constraints : t.1.constraints = s.1.constraints
  rejects : t.1.Rejects = s.1.withVars.Rejects
  unknown : t.1.Unknown = s.1.withVars.Unknown
  overflows : t.1.Overflows = s.1.withVars.Overflows
  row : t.1.row = s.1.withVars.row
  operation : t.1.constraintsCommitment.operation = s.1.constraintsCommitment.operation
  calls : t.1.constraintsCommitment.calls = s.1.constraintsCommitment.calls
  failsWith (code : Int) :
    t.1.constraintsCommitment.FailsWith t code ↔ s.1.constraintsCommitment.FailsWith s code
  proper : ∀ operation ∈ ["add_constr", "add_constrs"],
    (ProperOrder t.2.view t.1.engine operation ↔ ProperOrder s.2.view s.1.engine operation)

/-- Committing the variables leaves the constraints and the orders to fail for them alone. -/
theorem After.decidesAlike (h : After s s.1.withVars s.1.varsCommitment.calls cs [] t) :
    DecidesAlike s t := by
  have hother : ∀ operation ∈ ["add_constr", "add_constrs"],
      operation ∉ s.1.varsCommitment.calls := by
    intro operation hoperation hmem
    rw [Commitment.eq_of_mem_calls hmem] at hoperation
    rcases varsOperation_cases s.1 with hvars | hvars <;> rw [hvars] at hoperation <;>
      exact absurd hoperation (by decide)
  have hconstraints : s.1.constraintsCommitment.operation ∈ ["add_constr", "add_constrs"] := by
    rcases constraintsOperation_cases s.1 with hc | hc <;> rw [hc] <;> decide
  have hempty : t.1.constraintsCommitment.isEmpty = s.1.constraintsCommitment.isEmpty :=
    h.part (·.constraintsCommitment.isEmpty) fun _ _ => rfl
  have hname : t.1.constraintsCommitment.operation = s.1.constraintsCommitment.operation :=
    h.part (·.constraintsCommitment.operation) fun _ _ => rfl
  exact {
    pending := h.part pendingConstraints fun _ _ => rfl
    constraints := h.part constraints fun _ _ => rfl
    rejects := h.part Rejects fun _ _ => rfl
    unknown := h.part Unknown fun _ _ => rfl
    overflows := h.part Overflows fun _ _ => rfl
    row := h.part row fun _ _ => rfl
    operation := hname
    calls := h.part (·.constraintsCommitment.calls) fun _ _ => rfl
    failsWith := fun code => by
      unfold Commitment.FailsWith
      rw [hempty, hname, h.view, h.engine.failsOn (hother _ hconstraints)]
    proper := fun operation hoperation => by
      rw [h.view, h.engine.properOrder (hother operation hoperation)] }

/-- What an update needs to know of a model that is in use, with an engine in memory. -/
structure Ready (s : Model × Surroundings) : Prop where
  indexed : s.1.Indexed
  stored : s.1.Stored
  alive : s.1.ended = false
  inMemory : s.1.engine.isNative = false
  proper : ∀ operation, ProperOrder s.2.view s.1.engine operation
  lower : ∀ v ∈ s.1.pendingVars, ∃ x, v.lower.toDouble = .ok x
  upper : ∀ v ∈ s.1.pendingVars, ∃ x, v.upper.toDouble = .ok x

theorem flushVars_keeps (hi : s.1.Indexed) (hstored : s.1.Stored) :
    (flushVars.perform s).2.1.Indexed ∧ (flushVars.perform s).2.1.Stored := by
  have hsteady : Steady (fun _ _ => True) fun s : Model × Surroundings =>
      s.1.Indexed ∧ s.1.Stored :=
    fun hc hs => ⟨hc.indexed hs.1, hc.stored hs.1 hs.2⟩
  exact flushVars_maintains hsteady.abiding s ⟨hi, hstored⟩

/-- Once both queues are committed, only the last call can fail. -/
theorem updateModel_outcome (hs : Ready s) (hvars : VarsPass s) (hconstraints : ConstraintsPass s)
    (hcs : s.1.pendingVars.mapM Var.column = .ok cs)
    (hrs : s.1.pendingConstraints.mapM s.1.withVars.row = .ok rs)
    (hu : After s s.1.withVars.withConstraints
      (s.1.varsCommitment.calls ++ s.1.constraintsCommitment.calls) cs rs u) :
    ∃ c : UpdateCase, c.Applies s ∧
      c.Ends s ((callEngine "update_model" Engine.updateModel).perform u) := by
  -- orders for this call have not been used up by the calls before
  have hother : "update_model" ∉ s.1.varsCommitment.calls ++ s.1.constraintsCommitment.calls := by
    intro hmem
    rcases List.mem_append.1 hmem with hmem | hmem
    · have hname := varsOperation_cases s.1
      rw [← Commitment.eq_of_mem_calls hmem] at hname
      exact absurd hname (by decide)
    · have hname := constraintsOperation_cases s.1
      rw [← Commitment.eq_of_mem_calls hmem] at hname
      exact absurd hname (by decide)
  have hnative : u.1.engine.isNative = false := hu.engine.isNative.trans hs.inMemory
  have hproper : ProperOrder u.2.view u.1.engine "update_model" := by
    rw [hu.view, hu.engine.properOrder hother]
    exact hs.proper _
  have hfails (code : Int) : FailsOn u.2.view u.1.engine "update_model" code ↔
      FailsOn s.2.view s.1.engine "update_model" code := by
    rw [hu.view, hu.engine.failsOn hother]
  have hall {t : Model × Surroundings} (ht : After u u.1 ["update_model"] [] [] t) :
      UpdateCase.AllCommitted s t := by
    have hmodel : t.1 = { s.1.withVars.withConstraints with
        handler := t.1.handler, engine := t.1.engine } := by
      rw [ht.model, hu.model]
    have hst := hu.trans ht hmodel
    rw [List.append_nil, List.append_nil] at hst
    exact ⟨cs, rs, hcs, hrs, hst⟩
  cases callOutcome (updateModel_ends hnative hproper) with
  | @failed code t hcode _ hcall ht =>
    rw [hcall]
    exact ⟨.updateFails code, ⟨hvars, hconstraints, (hfails code).1 hcode⟩, rfl, hall ht⟩
  | stored hnone haccepted hafter hran =>
    rw [perform_callEngine haccepted, hafter]
    have hpass (code : Int) : ¬FailsOn s.2.view s.1.engine "update_model" code :=
      mt (hfails code).2 (hnone code)
    exact ⟨.done, ⟨hvars, hconstraints, hpass⟩, rfl, hall (.of_messages hran ⟨rfl, rfl⟩)⟩

/-- With the variables committed, an update ends as the constraints decide. -/
theorem flushConstraints_then (hs : Ready s) (hi : t.1.Indexed) (hstored : t.1.Stored)
    (hvars : VarsPass s) (hcs : s.1.pendingVars.mapM Var.column = .ok cs)
    (ht : After s s.1.withVars s.1.varsCommitment.calls cs [] t) :
    ∃ c : UpdateCase, c.Applies s ∧ c.Ends s ((do
      flushConstraints
      callEngine "update_model" Engine.updateModel : Acting Unit).perform t) := by
  have hsame := ht.decidesAlike
  have hnative : t.1.engine.isNative = false := ht.engine.isNative.trans hs.inMemory
  have hproper : ∀ operation ∈ ["add_constr", "add_constrs"],
      ProperOrder t.2.view t.1.engine operation :=
    fun operation hoperation => (hsame.proper operation hoperation).2 (hs.proper operation)
  have hcommitted : UpdateCase.VarsCommitted s [] t := ⟨cs, hcs, by rwa [List.append_nil]⟩
  have houtcome := flushConstraints_outcome hi hstored hnative hproper
  generalize hr : flushConstraints.perform t = r at houtcome
  cases houtcome with
  | @duplicate before c hstops hc =>
    rw [perform_bind_of_error hr]
    rw [hsame.rejects, hsame.pending] at hstops
    rw [hsame.constraints] at hc
    exact ⟨.duplicateConstraint c, ⟨hvars, before, hstops, hc⟩, rfl, hcommitted⟩
  | @unknown before c known v hstops hc hv =>
    rw [perform_bind_of_error hr]
    rw [hsame.rejects, hsame.pending] at hstops
    rw [hsame.constraints] at hc
    rw [hsame.unknown] at hv
    exact ⟨.unknownVar v c, ⟨hvars, before, hstops, hc, known, hv⟩, rfl, hcommitted⟩
  | tooLong hpasses hlong =>
    rw [perform_bind_of_error hr]
    rw [hsame.rejects, hsame.pending] at hpasses
    rw [hsame.overflows, hsame.pending] at hlong
    exact ⟨.tooLong, ⟨hvars, hpasses, hlong⟩, rfl, hcommitted⟩
  | @failed code u hpasses hfits hfails hu =>
    rw [perform_bind_of_error hr]
    rw [hsame.rejects, hsame.pending] at hpasses
    rw [hsame.overflows, hsame.pending] at hfits
    have hmodel : u.1 = { s.1.withVars with handler := u.1.handler, engine := u.1.engine } := by
      rw [hu.model, ht.model]
    have hsu := ht.trans hu hmodel
    rw [hsame.operation, List.append_nil] at hsu
    refine ⟨.constraintsFail code, ⟨hvars, hpasses, hfits, (hsame.failsWith code).1 hfails⟩, ?_, ?_⟩
    · rw [hsame.operation]
    · exact ⟨cs, hcs, hsu⟩
  | @committed rs u hpasses hfits hnone hrs hu =>
    rw [perform_bind_of_ok hr]
    rw [hsame.rejects, hsame.pending] at hpasses
    rw [hsame.overflows, hsame.pending] at hfits
    rw [hsame.row, hsame.pending] at hrs
    have hmodel : u.1 = { s.1.withVars.withConstraints with
        handler := u.1.handler, engine := u.1.engine } := by
      rw [hu.model, ht.model]
      rfl
    have hsu := ht.trans hu hmodel
    rw [hsame.calls, List.append_nil, List.nil_append] at hsu
    have hpass : ConstraintsPass s :=
      ⟨hpasses, hfits, fun code hcode => hnone code ((hsame.failsWith code).2 hcode)⟩
    exact updateModel_outcome hs hvars hpass hcs hrs hsu

/-- An update ends as its queues and the orders to fail decide. -/
theorem update_ends (hs : Ready s) :
    ∃ c : UpdateCase, c.Applies s ∧ c.Ends s (update.perform s) := by
  have hkept := flushVars_keeps hs.indexed hs.stored
  have houtcome := flushVars_outcome hs.indexed hs.inMemory hs.proper hs.lower hs.upper
  rw [update, perform_bind_of_ok (perform_checkAlive hs.alive)]
  generalize hr : flushVars.perform s = r at houtcome hkept
  cases houtcome with
  | @duplicate before v hstops =>
    rw [perform_bind_of_error hr]
    exact ⟨.duplicateVar v, ⟨before, hstops⟩, rfl⟩
  | @failed code t hpasses hfails ht =>
    rw [perform_bind_of_error hr]
    exact ⟨.varsFail code, ⟨hpasses, hfails⟩, rfl, ht⟩
  | committed hpasses hnone hcs ht =>
    rw [perform_bind_of_ok hr]
    exact flushConstraints_then hs hkept.1 hkept.2 ⟨hpasses, hnone⟩ hcs ht

namespace History

/-- In every state that a history of a new model leads to, an update ends in exactly one way as long
as the model is in use, its engine is in memory, and doubles can hold the bounds of the variables that
are queued. The way depends on the queues and the orders to fail: the first entity that is a duplicate
or has an unknown variable, or the first call that is made to fail, ends the update, and the queue it
was about stays as it was. -/
theorem run_update_ends {env : Environment} {settings : SettingsStore} {place : Nat}
    {name : Value} {w w' : Surroundings} {m : Model}
    (h : (env.newModel settings place name).perform w = (.ok m, w')) (moves : List Move) :
    let s := (run { model := m, surroundings := w' } moves).state
    s.1.ended = false → s.1.engine.isNative = false →
      (∀ operation, ProperOrder s.2.view s.1.engine operation) →
      (∀ v ∈ s.1.pendingVars, ∃ x, v.lower.toDouble = .ok x) →
      (∀ v ∈ s.1.pendingVars, ∃ x, v.upper.toDouble = .ok x) →
        ∃ c : UpdateCase, c.Applies s ∧ c.Ends s (update.perform s) ∧
          ∀ other : UpdateCase, other.Applies s → other = c := by
  intro s hs hnative hproper hlower hupper
  have hstored := storedInOrder_run h moves
  obtain ⟨c, hc, hends⟩ :=
    update_ends ⟨hstored.inOrder.indexed, hstored.stored, hs, hnative, hproper, hlower, hupper⟩
  exact ⟨c, hc, hends, fun other hother => UpdateCase.unique hother hc⟩

/-- A variable is queued whose addition to the engine is made to fail. -/
def failingMoves : List Move :=
  [.failOn { operation := .text "add_var", code := .int 7, times := .nothing },
    .operate 0 (.newVar 0 {})]

/-- Whether an engine has one order to fail, for as long as it lasts, with a number as its code. -/
def failsWithNumber : Backend → Bool
  | .faulty [⟨_, .number (.int _), .nothing⟩] => true
  | _ => false

theorem orders_of_failsWithNumber {b : Backend} (h : failsWithNumber b = true) :
    ∃ operation code, b = .faulty [⟨operation, .number (.int code), .nothing⟩] := by
  unfold failsWithNumber at h
  split at h
  · exact ⟨_, _, rfl⟩
  · cases h

/-- An update of a model with a queued variable whose addition is made to fail. -/
theorem run_update_ends_failing : ∃ m w, Environment.firstModelOn "fail" = (.ok m, w) ∧
    let s := (run { model := m, surroundings := w } failingMoves).state
    s.1.pendingVars.length = 1 ∧ ∃ c : UpdateCase, c.Applies s ∧ c.Ends s (update.perform s) ∧
      ∀ other : UpdateCase, other.Applies s → other = c := by
  let check (s : Model × Surroundings) : Bool := !s.1.ended && failsWithNumber s.1.engine.backend &&
    s.1.pendingVars.all (fun v => v.lower.toDouble.isOk && v.upper.toDouble.isOk) &&
    s.1.pendingVars.length == 1
  have hof {x : Except Fault Double} (hx : x.isOk = true) : ∃ d, x = .ok d := by
    cases x with
    | error f => cases hx
    | ok d => exact ⟨d, rfl⟩
  have hcheck {s : Model × Surroundings} (hs : check s = true) : s.1.ended = false ∧
      s.1.engine.isNative = false ∧ (∀ operation, ProperOrder s.2.view s.1.engine operation) ∧
      (∀ v ∈ s.1.pendingVars, ∃ x, v.lower.toDouble = .ok x) ∧
      (∀ v ∈ s.1.pendingVars, ∃ x, v.upper.toDouble = .ok x) ∧ s.1.pendingVars.length = 1 := by
    simp only [check, Bool.and_eq_true, Bool.not_eq_true', beq_iff_eq, List.all_eq_true] at hs
    obtain ⟨⟨⟨hended, hbackend⟩, hbounds⟩, hlength⟩ := hs
    have hlower (v : Var) (hv : v ∈ s.1.pendingVars) := hof (hbounds v hv).1
    have hupper (v : Var) (hv : v ∈ s.1.pendingVars) := hof (hbounds v hv).2
    obtain ⟨operation, code, horders⟩ := orders_of_failsWithNumber hbackend
    refine ⟨hended, ?_, ?_, hlower, hupper, hlength⟩
    · rw [Engine.isNative, horders]
    · intro other order horder
      rw [injected?, horders] at horder
      rw [List.mem_singleton.1 (List.mem_of_find?_eq_some horder)]
      exact InjectedFailure.proper _ (.inl ⟨code, rfl⟩) (.inl rfl)
  obtain ⟨m, w, h, hp⟩ := Environment.exists_of_made (r := Environment.firstModelOn "fail")
    (p := fun m w => check (run { model := m, surroundings := w } failingMoves).state)
    (by decide +kernel)
  have hends := run_update_ends h failingMoves
  refine ⟨m, w, h, ?_⟩
  -- the history is not to be evaluated again
  generalize (run { model := m, surroundings := w } failingMoves).state = s at hp hends ⊢
  obtain ⟨hended, hnative, hproper, hlower, hupper, hlength⟩ := hcheck hp
  exact ⟨hlength, hends hended hnative hproper hlower hupper⟩

end History

end Milp.Model

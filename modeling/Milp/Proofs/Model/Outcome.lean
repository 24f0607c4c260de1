import Milp.Proofs.Engine.Memory
import Milp.Proofs.Model.Store
set_option autoImplicit false

/-! # How committing a queue ends

Committing a queue of a model whose engine is in memory ends in one way, which the queue and the orders
to fail decide beforehand: at the first entity that is rejected, when the call that hands the queue
over is made to fail, or with the whole queue committed (`flushVars_outcome`,
`flushConstraints_outcome`). Nothing else has changed by then (`After`). -/

namespace Milp.Model

open Milp.Action Engine

variable {m n : Model} {w : Surroundings} {s t u : Model × Surroundings} {os : List String}
  {cs : List Column} {rs : List Row}

/-! ## Calls -/

/-- A model has become another one after calls of its engine, which have stored some columns and rows.
Besides there is only what the handler has counted, and the log. -/
structure After (s : Model × Surroundings) (n : Model) (os : List String) (cs : List Column)
    (rs : List Row) (t : Model × Surroundings) : Prop where
  model : t.1 = { n with handler := t.1.handler, engine := t.1.engine }
  surroundings : t.2 = { s.2 with log := t.2.log }
  engine : Ran os cs rs s.1.engine t.1.engine

theorem After.refl (s : Model × Surroundings)
    (h : s.1 = { n with handler := s.1.handler, engine := s.1.engine }) : After s n [] [] [] s :=
  ⟨h, rfl, .refl _⟩

theorem After.of_messages {f : Engine} (h : Ran os cs rs m.engine f)
    (ht : OnlyMessages ({ n with engine := f }, w) t) : After (m, w) n os cs rs t := by
  have hengine : t.1.engine = f := ht.engine
  refine ⟨?_, ht.surroundings, ?_⟩
  · rw [hengine]
    exact ht.model
  · rw [hengine]
    exact h

theorem After.trans {os' : List String} {cs' : List Column} {rs' : List Row} {n' : Model}
    (h : After s n os cs rs t) (h' : After t n' os' cs' rs' u)
    {o : Model} (hmodel : u.1 = { o with handler := u.1.handler, engine := u.1.engine }) :
    After s o (os ++ os') (cs ++ cs') (rs ++ rs') u where
  model := hmodel
  surroundings := by rw [h'.surroundings, h.surroundings]
  engine := h.engine.trans h'.engine

/-- Whatever depends neither on the handler nor on the engine is as in the model that has been
reached. -/
theorem After.part {β : Type} (h : After s n os cs rs t) (F : Model → β)
    (hF : ∀ handler engine, F { n with handler, engine } = F n) : F t.1 = F n :=
  (congrArg F h.model).trans (hF _ _)

theorem After.view (h : After s n os cs rs t) : t.2.view = s.2.view := by
  rw [h.surroundings]

/-- How a call ends that a model makes, seen from the model. -/
inductive CallOutcome (m : Model) (w : Surroundings) (operation : String) (cs : List Column)
    (rs : List Row) (x : Engine.Acting Value) : Prop
  | failed {code : Int} {t : Model × Surroundings} (h : FailsOn w.view m.engine operation code)
      (hx : ¬Accepted (x.perform (m.engine, w)))
      (hcall : (callEngine operation x).perform (m, w) =
        (.error (.engine (.int code) (.text operation)), t))
      (ht : After (m, w) m [operation] [] [] t)
  | stored {f : Engine} (h : ∀ code, ¬FailsOn w.view m.engine operation code)
      (hx : Accepted (x.perform (m.engine, w)))
      (hcall : afterCall m w x = ({ m with engine := f }, w))
      (hran : Ran [operation] cs rs m.engine f)

theorem callOutcome {operation : String} {x : Engine.Acting Value}
    (h : CallEnds operation cs rs m.engine w (x.perform (m.engine, w))) :
    CallOutcome m w operation cs rs x := by
  generalize hr : x.perform (m.engine, w) = r at h
  cases h with
  | @failed status code f hfails htrue hcode hran =>
    obtain ⟨t, ht, hmessages⟩ :=
      perform_checkStatus_code (s := ({ m with engine := f }, w)) htrue hcode operation
    refine .failed hfails ?_ ?_ (.of_messages hran hmessages)
    · rintro ⟨status', hstatus, hfalse⟩
      rw [hr] at hstatus hfalse
      cases hstatus
      cases htrue.symm.trans hfalse
    · have hon : (onEngine x).perform (m, w) = (.ok status, { m with engine := f }, w) := by
        rw [onEngine, within_run, hr]
      rw [callEngine, perform_bind_of_ok hon, ht]
  | @stored status f hnone hfalse hran =>
    refine .stored hnone ?_ ?_ hran
    · rw [hr]
      exact ⟨status, rfl, hfalse⟩
    · rw [afterCall, hr]

/-! ## Committing a queue -/

namespace Commitment

variable {c : Commitment}

/-- The calls with which a queue is committed. -/
def calls (c : Commitment) : List String := if c.isEmpty then [] else [c.operation]

/-- There is a queue to be committed, and an order makes the call for it fail with a code. -/
def FailsWith (c : Commitment) (s : Model × Surroundings) (code : Int) : Prop :=
  c.isEmpty = false ∧ FailsOn s.2.view s.1.engine c.operation code

theorem calls_of_not_isEmpty (h : c.isEmpty = false) : c.calls = [c.operation] := by
  rw [calls, h]
  rfl

/-- How committing a queue ends on an engine in memory. If it succeeds, the model becomes `n`, and the
engine has stored columns and rows such as `Adds` says. -/
inductive Outcome (c : Commitment) (s : Model × Surroundings) (n : Model)
    (Adds : List Column → List Row → Prop) : Except Failure Unit × Model × Surroundings → Prop
  | idle (h : c.isEmpty = true) : Outcome c s n Adds (.ok (), s)
  | rejected {f : Failure} (h : c.isEmpty = false) (hcheck : c.check = .error f) :
      Outcome c s n Adds (.error f, s)
  | unencodable {f : Fault} (h : c.isEmpty = false) (hcheck : c.check = .ok ())
      (hcall : c.call = .error f) : Outcome c s n Adds (.error (.fault f), s)
  | failed {code : Int} {t : Model × Surroundings} (hcheck : c.check = .ok ())
      (hcall : c.call.isOk = true) (hfails : c.FailsWith s code)
      (ht : After s s.1 [c.operation] [] [] t) :
      Outcome c s n Adds (.error (.engine (.int code) (.text c.operation)), t)
  | committed {cs : List Column} {rs : List Row} {t : Model × Surroundings}
      (h : c.isEmpty = false) (hcheck : c.check = .ok ()) (hcall : c.call.isOk = true)
      (hnone : ∀ code, ¬c.FailsWith s code) (hnew : Adds cs rs)
      (ht : After s n c.calls cs rs t) : Outcome c s n Adds (.ok (), t)

theorem Ends.outcome {Adds : List Column → List Row → Prop}
    {r : Except Failure Unit × Model × Surroundings} (h : c.Ends m w r)
    (hcalls : ∀ x, c.isEmpty = false → c.check = .ok () → c.call = .ok x → ∃ cs rs, Adds cs rs ∧
      CallEnds c.operation cs rs m.engine w (x.perform (m.engine, w)))
    (hcommit : c.check = .ok () → ∀ e, c.commit { m with engine := e } = { n with engine := e }) :
    c.Outcome (m, w) n Adds r := by
  -- the engine accepts a call if and only if no order makes it fail, which rules out half of the cases
  cases h with
  | idle h => exact .idle h
  | rejected h hcheck => exact .rejected h hcheck
  | unencodable h hcheck hcall => exact .unencodable h hcheck hcall
  | @refused x f t h hcheck hcall hx hf _ =>
    obtain ⟨cs, rs, -, hends⟩ := hcalls x h hcheck hcall
    cases callOutcome hends with
    | stored _ haccepted => exact absurd haccepted hx
    | failed hfails _ hcode ht =>
      cases hf.symm.trans hcode
      exact .failed hcheck (by rw [hcall]; rfl) ⟨h, hfails⟩ ht
  | @committed x t h hcheck hcall hx ht =>
    obtain ⟨cs, rs, hnew, hends⟩ := hcalls x h hcheck hcall
    cases callOutcome hends with
    | failed _ hrefused => exact absurd hx hrefused
    | @stored e hnone _ hafter hran =>
      rw [hafter, hcommit hcheck] at ht
      refine .committed h hcheck (by rw [hcall]; rfl) (fun code hcode => hnone code hcode.2) hnew ?_
      rw [calls_of_not_isEmpty h]
      exact .of_messages hran ht

end Commitment

/-! ## Variables -/

/-- A model after its queue of variables has been committed. -/
def withVars (m : Model) : Model :=
  { m with
    vars := m.vars ++ m.pendingVars
    varIndices := .positions ((m.vars ++ m.pendingVars).map Var.id)
    varsByName := .firstOf (m.vars ++ m.pendingVars)
    varCount := (m.vars ++ m.pendingVars).length
    pendingVars := [] }

theorem Indexed.withVars_of_nil (h : m.Indexed) (hm : m.pendingVars = []) : m.withVars = m := by
  rw [withVars, hm, List.append_nil, ← h.varIndices, ← h.varsByName, ← h.varCount, ← hm]

theorem exists_column {v : Var} (hlower : ∃ x, v.lower.toDouble = .ok x)
    (hupper : ∃ x, v.upper.toDouble = .ok x) : ∃ c, v.column = .ok c := by
  obtain ⟨lower, hlower⟩ := hlower
  obtain ⟨upper, hupper⟩ := hupper
  rw [Var.column, hlower, hupper]
  exact ⟨_, rfl⟩

/-- Variables whose bounds doubles can hold can be handed over. -/
theorem exists_varsCall {vs : List Var} (hlower : ∀ v ∈ vs, ∃ x, v.lower.toDouble = .ok x)
    (hupper : ∀ v ∈ vs, ∃ x, v.upper.toDouble = .ok x) : ∃ x, varsCall vs = .ok x := by
  unfold varsCall
  split
  · exact ⟨_, rfl⟩
  · obtain ⟨lowers, hlowers⟩ := exists_mapM_eq_ok hlower
    obtain ⟨uppers, huppers⟩ := exists_mapM_eq_ok hupper
    rw [addManyVars, hlowers, huppers]
    exact ⟨_, rfl⟩

theorem varsCall_ends {e : Engine} {vs : List Var} {x : Engine.Acting Value}
    (hx : varsCall vs = .ok x) (hvs : vs ≠ []) (hcs : vs.mapM Var.column = .ok cs)
    (h : e.isNative = false)
    (horder : ∀ operation, ProperOrder w.view e operation) :
    CallEnds (if vs.length = 1 then "add_var" else "add_vars") cs [] e w (x.perform (e, w)) := by
  unfold varsCall at hx
  split at hx
  · rename_i v
    cases hx
    obtain ⟨c, rest, hc, hrest, rfl⟩ := List.forall₂_cons_left_iff.1 (mapM_eq_ok_iff.1 hcs)
    cases hrest
    exact addVar_ends_of_column h (horder _) ((columnOf_var v).trans hc)
  · rename_i hone
    obtain ⟨cs', hcs', rfl⟩ := addManyVars_eq_ok hx
    cases hcs.symm.trans hcs'
    have hlength : vs.length ≠ 1 := by
      intro hlength
      obtain ⟨v, hv⟩ := List.length_eq_one_iff.1 hlength
      exact hone v hv
    rw [if_neg hlength]
    refine addColumns_ends h (horder _) ?_
    rintro rfl
    cases vs with
    | nil => exact hvs rfl
    | cons v vs => cases (mapM_eq_ok_iff.1 hcs).length_eq

/-- How committing the variables ends. -/
inductive VarsOutcome (s : Model × Surroundings) :
    Except Failure Unit × Model × Surroundings → Prop
  | duplicate {before : List Var} {v : Var}
      (h : StopsAt (Repeats Var.id s.1.vars) s.1.pendingVars before v) :
      VarsOutcome s (.error (.duplicate (.text "Variable") (.var v)), s)
  | failed {code : Int} {t : Model × Surroundings}
      (h : Passes (Repeats Var.id s.1.vars) s.1.pendingVars)
      (hfails : s.1.varsCommitment.FailsWith s code)
      (ht : After s s.1 [s.1.varsCommitment.operation] [] [] t) :
      VarsOutcome s (.error (.engine (.int code) (.text s.1.varsCommitment.operation)), t)
  | committed {cs : List Column} {t : Model × Surroundings}
      (h : Passes (Repeats Var.id s.1.vars) s.1.pendingVars)
      (hnone : ∀ code, ¬s.1.varsCommitment.FailsWith s code)
      (hcs : s.1.pendingVars.mapM Var.column = .ok cs)
      (ht : After s s.1.withVars s.1.varsCommitment.calls cs [] t) : VarsOutcome s (.ok (), t)

theorem flushVars_outcome (hi : s.1.Indexed) (h : s.1.engine.isNative = false)
    (horder : ∀ operation, ProperOrder s.2.view s.1.engine operation)
    (hlower : ∀ v ∈ s.1.pendingVars, ∃ x, v.lower.toDouble = .ok x)
    (hupper : ∀ v ∈ s.1.pendingVars, ∃ x, v.upper.toDouble = .ok x) :
    VarsOutcome s (flushVars.perform s) := by
  obtain ⟨x, hx⟩ := exists_varsCall hlower hupper
  obtain ⟨cs, hcs⟩ := exists_mapM_eq_ok fun v hv => exists_column (hlower v hv) (hupper v hv)
  have houtcome : s.1.varsCommitment.Outcome s s.1.withVars (fun new rows => new = cs ∧ rows = [])
      (flushVars.perform s) := by
    refine (flushVars_ends s.1 s.2).outcome (fun y hpending _ hy => ?_) fun hcheck e => ?_
    · have hnonempty := List.isEmpty_eq_false_iff.1 hpending
      exact ⟨cs, [], ⟨rfl, rfl⟩, varsCall_ends hy hnonempty hcs h horder⟩
    · exact (hi.of_engine e).commitVars_eq hcheck
  have hcheck := hi.checkVars
  generalize flushVars.perform s = r at houtcome ⊢
  cases houtcome with
  | idle hidle =>
    have hpending : s.1.pendingVars = [] := List.isEmpty_iff.1 hidle
    rw [hpending] at hcs
    cases hcs
    refine .committed ?_ ?_ (by rw [hpending]; rfl) ?_
    · rw [hpending]
      exact passes_nil
    · rintro code ⟨hsome, -⟩
      cases hidle.symm.trans hsome
    · rw [hi.withVars_of_nil hpending, Commitment.calls, hidle]
      exact .refl s rfl
  | rejected _ hrejected =>
    rw [show s.1.checkVars = _ from hrejected] at hcheck
    cases hcheck with
    | duplicate hstops => exact .duplicate hstops
  | unencodable _ _ hcall => cases hx.symm.trans hcall
  | failed hok _ hfails ht => exact .failed (hi.passes_of_checkVars hok) hfails ht
  | committed _ hok _ hnone hnew ht =>
    obtain ⟨rfl, rfl⟩ := hnew
    exact .committed (hi.passes_of_checkVars hok) hnone hcs ht

/-! ## Constraints -/

/-- A model after its queue of constraints has been committed. -/
def withConstraints (m : Model) : Model :=
  { m with
    constraints := m.constraints ++ m.pendingConstraints
    constraintIndices := .positions ((m.constraints ++ m.pendingConstraints).map Constraint.id)
    pendingConstraints := [] }

theorem Indexed.withConstraints_of_nil (h : m.Indexed) (hm : m.pendingConstraints = []) :
    m.withConstraints = m := by
  rw [withConstraints, hm, List.append_nil, ← h.constraintIndices, ← hm]

/-- In a queue that passes the check all variables are committed. -/
theorem Indexed.covers (h : m.Indexed) {ds : List Constraint} (hpasses : Passes m.Rejects ds)
    {d : Constraint} (hd : d ∈ ds) : m.Covers d.expr := by
  intro v hv
  obtain ⟨before, after, hds⟩ := List.append_of_mem hd
  have hknown : ¬m.Unknown v := fun hunknown => hpasses before d after hds (.inr ⟨v, hv, hunknown⟩)
  obtain ⟨i, hi⟩ := List.mem_iff_getElem?.1 (not_not.1 hknown)
  rw [List.getElem?_map, Option.map_eq_some_iff] at hi
  exact ⟨i, (h.varIndex_iff v i).2 hi⟩

theorem Indexed.constraintsCall_of_check (h : m.Indexed) (hm : m.checkConstraints = .ok ()) :
    (Passes m.Overflows m.pendingConstraints ∧
        ∃ x, m.constraintsCall m.pendingConstraints = .ok x) ∨
      (¬Passes m.Overflows m.pendingConstraints ∧
        m.constraintsCall m.pendingConstraints = .error .overflow) :=
  constraintsCall_cases fun _ hc => h.covers (h.passes_of_checkConstraints hm) hc

theorem Indexed.fits_of_call (h : m.Indexed) (hm : m.checkConstraints = .ok ())
    (hcall : (m.constraintsCall m.pendingConstraints).isOk = true) :
    Passes m.Overflows m.pendingConstraints := by
  rcases h.constraintsCall_of_check hm with ⟨hfits, -⟩ | ⟨-, herror⟩
  · exact hfits
  · rw [herror] at hcall
    cases hcall

/-- Rows that constraints stand for are rows of columns that are there. -/
theorem Stored.inRange (h : m.Stored) (hi : m.Indexed) {ds : List Constraint} {rows : List TermRow}
    (hrows : ds.mapM m.termRow = .ok rows) :
    TermRow.InRange m.engine.columns.length (TermRow.allTerms rows) := by
  intro u hu
  obtain ⟨r, hr, hu⟩ := List.mem_flatMap.1 hu
  obtain ⟨d, -, hd⟩ := exists_of_mapM hrows hr
  obtain ⟨t, -, ht⟩ := exists_of_mapM (termRow_eq_ok hd).1 hu
  have hindex : m.varIndex? t.1 = some u.1 := by
    unfold place at ht
    cases hindex : m.varIndex? t.1 with
    | none =>
      rw [hindex] at ht
      cases ht
    | some i =>
      rw [hindex] at ht
      cases ht
      rfl
  obtain ⟨v, hv, -⟩ := (hi.varIndex_iff t.1 u.1).1 hindex
  rw [← (mapM_eq_ok_iff.1 h.columns).length_eq]
  exact (List.getElem?_eq_some_iff.1 hv).1

theorem addOneConstraint_ends {e : Engine} {d : Constraint} {x : Engine.Acting Value}
    (hx : m.addOneConstraint d = .ok x) (h : e.isNative = false)
    (horder : ProperOrder w.view e "add_constr")
    (hrange : ∀ r, m.termRow d = .ok r → TermRow.InRange e.columns.length r.terms) :
    ∃ r, m.row d = .ok r ∧ CallEnds "add_constr" [] [r] e w (x.perform (e, w)) := by
  obtain ⟨r, hr, rfl⟩ := addOneConstraint_eq_ok hx
  refine ⟨r.row, ?_, addRow_ends h horder (hrange r hr)⟩
  rw [row, hr]
  rfl

theorem addManyConstraints_ends {e : Engine} {ds : List Constraint} {x : Engine.Acting Value}
    (hx : m.addManyConstraints ds = .ok x) (hds : ds ≠ []) (h : e.isNative = false)
    (horder : ProperOrder w.view e "add_constrs")
    (hrange : ∀ rows, ds.mapM m.termRow = .ok rows →
      TermRow.InRange e.columns.length (TermRow.allTerms rows)) :
    ∃ rs, ds.mapM m.row = .ok rs ∧ CallEnds "add_constrs" [] rs e w (x.perform (e, w)) := by
  obtain ⟨rows, hrows, rfl⟩ := addManyConstraints_eq_ok hx
  refine ⟨rows.map TermRow.row, mapM_row_of_termRow hrows,
    addRows_ends h horder ?_ (hrange rows hrows)⟩
  rintro rfl
  cases ds with
  | nil => exact hds rfl
  | cons d ds => cases (mapM_eq_ok_iff.1 hrows).length_eq

theorem constraintsCall_ends {e : Engine} {ds : List Constraint} {x : Engine.Acting Value}
    (hx : m.constraintsCall ds = .ok x) (hds : ds ≠ []) (h : e.isNative = false)
    (horder : ∀ operation ∈ ["add_constr", "add_constrs"], ProperOrder w.view e operation)
    (hrange : ∀ rows, ds.mapM m.termRow = .ok rows →
      TermRow.InRange e.columns.length (TermRow.allTerms rows)) :
    ∃ rs, ds.mapM m.row = .ok rs ∧
      CallEnds (if ds.length = 1 then "add_constr" else "add_constrs") [] rs e w
        (x.perform (e, w)) := by
  unfold constraintsCall at hx
  split at hx
  · rename_i d
    have hterms (r : TermRow) (hr : m.termRow d = .ok r) :
        TermRow.InRange e.columns.length r.terms := by
      have hall := hrange [r] (mapM_eq_ok_iff.2 (.cons hr .nil))
      rwa [TermRow.allTerms, List.flatMap_singleton] at hall
    obtain ⟨r, hr, hends⟩ := addOneConstraint_ends hx h (horder _ (by simp)) hterms
    exact ⟨[r], mapM_eq_ok_iff.2 (.cons hr .nil), hends⟩
  · rename_i hone
    have hlength : ds.length ≠ 1 := by
      intro hlength
      obtain ⟨d, hd⟩ := List.length_eq_one_iff.1 hlength
      exact hone d hd
    rw [if_neg hlength]
    exact addManyConstraints_ends hx hds h (horder _ (by simp)) hrange

/-- How committing the constraints ends. -/
inductive ConstraintsOutcome (s : Model × Surroundings) :
    Except Failure Unit × Model × Surroundings → Prop
  | duplicate {before : List Constraint} {c : Constraint}
      (h : StopsAt s.1.Rejects s.1.pendingConstraints before c)
      (hc : Repeats Constraint.id s.1.constraints before c) :
      ConstraintsOutcome s (.error (.duplicate (.text "Constraint") (.constraint c)), s)
  | unknown {before : List Constraint} {c : Constraint} {known : List Var} {v : Var}
      (h : StopsAt s.1.Rejects s.1.pendingConstraints before c)
      (hc : ¬Repeats Constraint.id s.1.constraints before c)
      (hv : StopsAt (fun _ => s.1.Unknown) c.expr.vars known v) :
      ConstraintsOutcome s (.error (.unknownVariable (.var v) (.constraint c)), s)
  | tooLong (h : Passes s.1.Rejects s.1.pendingConstraints)
      (hlong : ¬Passes s.1.Overflows s.1.pendingConstraints) :
      ConstraintsOutcome s (.error (.fault .overflow), s)
  | failed {code : Int} {t : Model × Surroundings}
      (h : Passes s.1.Rejects s.1.pendingConstraints)
      (hfits : Passes s.1.Overflows s.1.pendingConstraints)
      (hfails : s.1.constraintsCommitment.FailsWith s code)
      (ht : After s s.1 [s.1.constraintsCommitment.operation] [] [] t) :
      ConstraintsOutcome s
        (.error (.engine (.int code) (.text s.1.constraintsCommitment.operation)), t)
  | committed {rs : List Row} {t : Model × Surroundings}
      (h : Passes s.1.Rejects s.1.pendingConstraints)
      (hfits : Passes s.1.Overflows s.1.pendingConstraints)
      (hnone : ∀ code, ¬s.1.constraintsCommitment.FailsWith s code)
      (hrs : s.1.pendingConstraints.mapM s.1.row = .ok rs)
      (ht : After s s.1.withConstraints s.1.constraintsCommitment.calls [] rs t) :
      ConstraintsOutcome s (.ok (), t)

theorem flushConstraints_outcome (hi : s.1.Indexed) (hstored : s.1.Stored)
    (h : s.1.engine.isNative = false)
    (horder : ∀ operation ∈ ["add_constr", "add_constrs"],
      ProperOrder s.2.view s.1.engine operation) :
    ConstraintsOutcome s (flushConstraints.perform s) := by
  -- the rows depend on the check, since only then all their variables are committed
  have houtcome : s.1.constraintsCommitment.Outcome s s.1.withConstraints
      (fun new rows => new = [] ∧ s.1.pendingConstraints.mapM s.1.row = .ok rows)
      (flushConstraints.perform s) := by
    refine (flushConstraints_ends s.1 s.2).outcome (fun y hpending _ hy => ?_) fun hcheck e => ?_
    · obtain ⟨rs, hrs, hends⟩ := constraintsCall_ends hy (List.isEmpty_eq_false_iff.1 hpending) h
        horder fun rows hrows => hstored.inRange hi hrows
      exact ⟨[], rs, ⟨rfl, hrs⟩, hends⟩
    · exact (hi.of_engine e).commitConstraints_eq ((checkConstraints_engine s.1 e).trans hcheck)
  have hcheck := hi.checkConstraints
  generalize flushConstraints.perform s = r at houtcome ⊢
  cases houtcome with
  | idle hidle =>
    have hpending : s.1.pendingConstraints = [] := List.isEmpty_iff.1 hidle
    have hrs : s.1.pendingConstraints.mapM s.1.row = .ok [] := by
      rw [hpending]
      rfl
    refine .committed ?_ ?_ ?_ hrs ?_
    · rw [hpending]
      exact passes_nil
    · rw [hpending]
      exact passes_nil
    · rintro code ⟨hsome, -⟩
      cases hidle.symm.trans hsome
    · rw [hi.withConstraints_of_nil hpending, Commitment.calls, hidle]
      exact .refl s rfl
  | rejected _ hrejected =>
    rw [show s.1.checkConstraints = _ from hrejected] at hcheck
    cases hcheck with
    | duplicate hstops hc => exact .duplicate hstops hc
    | unknown hstops hc hv => exact .unknown hstops hc hv
  | unencodable _ hok hlong =>
    rcases hi.constraintsCall_of_check hok with ⟨-, y, hy⟩ | ⟨hnot, herror⟩
    · cases hy.symm.trans hlong
    · cases herror.symm.trans hlong
      exact .tooLong (hi.passes_of_checkConstraints hok) hnot
  | failed hok hcalled hfails ht =>
    exact .failed (hi.passes_of_checkConstraints hok) (hi.fits_of_call hok hcalled) hfails ht
  | committed _ hok hcalled hnone hnew ht =>
    obtain ⟨rfl, hrs⟩ := hnew
    have hfits := hi.fits_of_call hok hcalled
    exact .committed (hi.passes_of_checkConstraints hok) hfits hnone hrs ht

end Milp.Model

import Milp.Proofs.Engine.Attribute
import Milp.Proofs.Model.Order
set_option autoImplicit false

/-! # What the engine of a model stores

The columns of a model's engine are those of the committed variables, and its rows those of the
committed constraints, in the order of their indices (`Stored`). Additions keep this up whether they
are accepted or refused, one at a time or in batches, and rows stay what they are because indices
never change. Reading an attribute of a committed entity therefore gives its own data. -/

namespace Milp

open Milp.Action Engine

/-! ## Additions -/

namespace Engine

/-- The columns and rows that an engine stores. -/
def Holds (columns : List Column) (rows : List Row) (s : Engine × Surroundings) : Prop :=
  s.1.columns = columns ∧ s.1.rows = rows

variable {columns : List Column} {rows : List Row}

theorem Aside.columns_rows {s t : Engine × Surroundings} (h : Aside s t) :
    t.1.columns = s.1.columns ∧ t.1.rows = s.1.rows := by
  cases h <;> exact ⟨rfl, rfl⟩

theorem holds_indifferent : Indifferent (Holds columns rows) := by
  intro s t h hs
  obtain ⟨hcolumns, hrows⟩ := h.columns_rows
  exact ⟨hcolumns.trans hs.1, hrows.trans hs.2⟩

theorem holds_elsewhere (e : Engine) (v w : Surroundings) (h : Holds columns rows (e, v)) :
    Holds columns rows (e, w) := h

end Engine

/-- What is told of a column under the names of its attributes. -/
def Column.attributes (c : Column) : List (String × Value) :=
  let letter := match c.kind with
    | .continuous => "C"
    | .integer => "I"
    | .binary => "B"
  [("Obj", .float c.objective), ("LB", .float c.lower), ("UB", .float c.upper),
    ("VType", .text letter), ("VarName", c.name)]

/-- What is told of a row under the names of its attributes. -/
def Row.attributes (r : Row) : List (String × Value) :=
  let letter := match r.sense with
    | .atMost => "L"
    | .equal => "E"
    | .atLeast => "G"
  [("RHS", .float r.bound), ("Sense", .text letter), ("ConstrName", r.name)]

theorem Column.exists_of_mem_attributes {c : Column} {a : String × Value} (h : a ∈ c.attributes) :
    ∃ b ≠ VarAttribute.value, a = (b.label, columnAttribute c b) := by
  have htable : c.attributes = [VarAttribute.objective, .lower, .upper, .kind, .name].map
      fun b => (b.label, columnAttribute c b) := by
    obtain ⟨_, _, _, kind, _⟩ := c
    cases kind <;> rfl
  rw [htable] at h
  obtain ⟨b, hb, rfl⟩ := List.mem_map.1 h
  exact ⟨b, fun he => absurd (he ▸ hb) (by decide), rfl⟩

theorem Row.exists_of_mem_attributes {r : Row} {a : String × Value} (h : a ∈ r.attributes) :
    ∃ b ≠ ConstraintAttribute.inIis, a = (b.label, rowAttribute r b) := by
  have htable : r.attributes = [ConstraintAttribute.bound, .sense, .name].map
      fun b => (b.label, rowAttribute r b) := by
    obtain ⟨_, _, sense, _, _⟩ := r
    cases sense <;> rfl
  rw [htable] at h
  obtain ⟨b, hb, rfl⟩ := List.mem_map.1 h
  exact ⟨b, fun he => absurd (he ▸ hb) (by decide), rfl⟩

namespace Model

theorem varsCall_holds {vs : List Var} {x : Engine.Acting Value} (h : varsCall vs = .ok x)
    (columns : List Column) (rows : List Row) :
    Leads (Holds columns rows) x
      (Answered (Holds columns rows) fun s =>
        ∃ new, vs.mapM Var.column = .ok new ∧ Holds (columns ++ new) rows s)
      (Holds columns rows) := by
  have hJ : Indifferent fun s => ∃ new, vs.mapM Var.column = .ok new ∧
      Holds (columns ++ new) rows s :=
    fun ha ⟨new, hnew, hs⟩ => ⟨new, hnew, holds_indifferent ha hs⟩
  refine varsCall_answered holds_indifferent.heedless hJ.forgets h
    (fun v _ => ifNative_leads (fun e => addNativeColumn_keeps _ _ _ _ _) holds_elsewhere)
    (fun new _ => ifNative_leads (fun e => addNativeColumns_keeps _ _ _ _ _) holds_elsewhere)
    ?_ fun _ _ _ hs => hs
  rintro new e w hnew ⟨rfl, rfl⟩
  exact ⟨new, hnew, rfl, rfl⟩

theorem mapM_row_of_termRow {m : Model} {cs : List Constraint} {rs : List TermRow}
    (h : cs.mapM m.termRow = .ok rs) : cs.mapM m.row = .ok (rs.map TermRow.row) := by
  rw [mapM_eq_ok_iff] at h ⊢
  induction h with
  | nil => exact .nil
  | cons hr _ ih => exact .cons (by rw [row, hr]; rfl) ih

theorem constraintsCall_holds {m : Model} {cs : List Constraint} {x : Engine.Acting Value}
    (h : m.constraintsCall cs = .ok x) (columns : List Column) (rows : List Row) :
    Leads (Holds columns rows) x
      (Answered (Holds columns rows) fun s =>
        ∃ new, cs.mapM m.row = .ok new ∧ Holds columns (rows ++ new) s)
      (Holds columns rows) := by
  have hJ : Indifferent fun s => ∃ new, cs.mapM m.row = .ok new ∧
      Holds columns (rows ++ new) s :=
    fun ha ⟨new, hnew, hs⟩ => ⟨new, hnew, holds_indifferent ha hs⟩
  refine constraintsCall_answered holds_indifferent.heedless hJ.forgets h
    (fun r _ => (ifNative_leads (fun e => addNativeRow_keeps _ _ _ _ _) holds_elsewhere).mono
      (fun _ h => h.2) (fun _ _ h => h) fun _ h => h)
    (fun rs _ => (ifNative_leads (fun e => addNativeRows_keeps _ _ _ _ _ _) holds_elsewhere).mono
      (fun _ h => h.2) (fun _ _ h => h) fun _ h => h) ?_
  rintro new e w hnew ⟨rfl, rfl⟩
  exact ⟨new.map TermRow.row, mapM_row_of_termRow hnew, rfl, rfl⟩

/-! ## Changes -/

/-- The columns and rows of the engine are those of the committed entities. -/
structure Stored (m : Model) : Prop where
  columns : m.vars.mapM Var.column = .ok m.engine.columns
  rows : m.constraints.mapM m.row = .ok m.engine.rows

/-- A row stays what it is while no index changes. -/
theorem mapM_row_of_indices {m n : Model}
    (h : ∀ v i, m.varIndex? v = some i → n.varIndex? v = some i) {cs : List Constraint}
    {rs : List Row} (hrs : cs.mapM m.row = .ok rs) : cs.mapM n.row = .ok rs := by
  have hplace (t : Term) (u : Nat × Double) (hu : m.place t = .ok u) : n.place t = .ok u := by
    unfold place at hu ⊢
    cases hi : m.varIndex? t.1 with
    | none =>
      rw [hi] at hu
      cases hu
    | some i =>
      rw [hi] at hu
      rw [h _ _ hi]
      exact hu
  rw [mapM_eq_ok_iff] at hrs ⊢
  refine hrs.imp fun c r hr => ?_
  unfold row termRow at hr ⊢
  cases hts : c.expr.terms.mapM m.place with
  | error f =>
    rw [hts] at hr
    cases hr
  | ok ts =>
    rw [hts] at hr
    rw [mapM_eq_ok_iff.2 ((mapM_eq_ok_iff.1 hts).imp hplace)]
    exact hr

namespace Stored

variable {m : Model}

/-- Nothing but the columns and rows of the engine matters. -/
theorem of_engine (h : m.Stored) {e : Engine} {w : Surroundings}
    (he : Holds m.engine.columns m.engine.rows (e, w)) : { m with engine := e }.Stored where
  columns := h.columns.trans (congrArg Except.ok he.1.symm)
  rows := h.rows.trans (congrArg Except.ok he.2.symm)

theorem commitVars (h : m.Stored) (hi : m.Indexed) {e : Engine} {w : Surroundings}
    (hm : m.checkVars = .ok ()) {new : List Column}
    (hnew : m.pendingVars.mapM Var.column = .ok new)
    (he : Holds (m.engine.columns ++ new) m.engine.rows (e, w)) :
    { m with engine := e }.commitVars.Stored := by
  have hi' := hi.of_engine e
  have hcommit := hi'.commitVars_eq hm
  -- rows are made with indices, which a commitment of variables does not change
  have hindices : ∀ v i, m.varIndex? v = some i →
      { m with engine := e }.commitVars.varIndex? v = some i := by
    intro v i hv
    refine (hi.varIndex_of_prefix (hi'.commitVars hm) ?_ hv).1
    rw [hcommit]
    exact List.prefix_append _ _
  have hrows := mapM_row_of_indices hindices h.rows
  rw [hcommit] at hrows ⊢
  refine ⟨?_, hrows.trans (congrArg Except.ok he.2.symm)⟩
  exact (mapM_append_eq_ok h.columns hnew).trans (congrArg Except.ok he.1.symm)

theorem commitConstraints (h : m.Stored) (hi : m.Indexed) {e : Engine} {w : Surroundings}
    (hm : m.checkConstraints = .ok ()) {new : List Row}
    (hnew : m.pendingConstraints.mapM m.row = .ok new)
    (he : Holds m.engine.columns (m.engine.rows ++ new) (e, w)) :
    { m with engine := e }.commitConstraints.Stored := by
  rw [(hi.of_engine e).commitConstraints_eq ((checkConstraints_engine m e).trans hm)]
  refine ⟨h.columns.trans (congrArg Except.ok he.1.symm), ?_⟩
  exact (mapM_append_eq_ok h.rows hnew).trans (congrArg Except.ok he.2.symm)

end Stored

variable {Elsewhere : Surroundings → Surroundings → Prop}

/-- Accepted additions add the columns and rows of what is committed, and refused ones nothing. -/
theorem Change.stored {s t : Model × Surroundings} (hc : Change Elsewhere s t)
    (hi : s.1.Indexed) (h : s.1.Stored) : t.1.Stored := by
  cases hc with
  | aside ha => exact h.of_engine (holds_indifferent ha ⟨rfl, rfl⟩)
  | message => exact ⟨h.columns, h.rows⟩
  | ending => exact ⟨h.columns, h.rows⟩
  | elsewhere => exact h
  | direction m w d =>
    have hmaintains : Maintains (Holds m.engine.columns m.engine.rows)
        (setDirection (.int d.number)) :=
      setDirection_maintains (Indifferent.patient holds_indifferent) holds_elsewhere (fun _ _ _ h => h) _
    exact h.of_engine (hmaintains (m.engine, w) ⟨rfl, rfl⟩)
  | @refuseVars m w x hx hr =>
    have hx' := varsCall_holds hx m.engine.columns m.engine.rows
    exact h.of_engine (Answered.of_not_accepted hx' ⟨rfl, rfl⟩ hr)
  | @commitVars m w x hm hx hr =>
    have hx' := varsCall_holds hx m.engine.columns m.engine.rows
    obtain ⟨new, hnew, he⟩ := Answered.of_accepted hx' ⟨rfl, rfl⟩ hr
    exact h.commitVars hi hm hnew he
  | @refuseConstraints m w x hx hr =>
    have hx' := constraintsCall_holds hx m.engine.columns m.engine.rows
    exact h.of_engine (Answered.of_not_accepted hx' ⟨rfl, rfl⟩ hr)
  | @commitConstraints m w x hm hx hr =>
    have hx' := constraintsCall_holds hx m.engine.columns m.engine.rows
    obtain ⟨new, hnew, he⟩ := Answered.of_accepted hx' ⟨rfl, rfl⟩ hr
    exact h.commitConstraints hi hm hnew he

/-! ## Attributes -/

section Attributes

variable {m : Model} {w : Surroundings}

theorem perform_committedVar {v : Var} {i : Nat} (hi : m.varIndex? v = some i) :
    (committedVar (.var v)).perform (m, w) = (.ok i, m, w) := by
  have hindex : m.varIndexOf? (.var v) = .ok (some i) := congrArg Except.ok hi
  rw [committedVar, perform_bind_of_ok perform_model, hindex]
  rfl

theorem perform_committedConstraint {c : Constraint} {i : Nat}
    (hi : m.constraintIndex? c = some i) :
    (committedConstraint (.constraint c)).perform (m, w) = (.ok i, m, w) := by
  have hindex : m.constraintIndexOf? (.constraint c) = .ok (some i) := congrArg Except.ok hi
  rw [committedConstraint, perform_bind_of_ok perform_model, hindex]
  rfl

theorem perform_getVarAttribute {v : Var} {a : VarAttribute} {i : Nat} {c : Column}
    (ha : a ≠ .value) (hm : m.ended = false) (h : m.engine.injected? "get_var_attr" = none)
    (hi : m.varIndex? v = some i) (hc : m.engine.columns[i]? = some c) :
    (getVarAttribute (.var v) (.text a.label)).perform (m, w) =
      (.ok (columnAttribute c a), m, w) := by
  rw [getVarAttribute, perform_bind_of_ok (perform_checkAlive hm),
    perform_bind_of_ok (perform_committedVar hi)]
  exact perform_askEngine (Engine.perform_getVarAttribute ha h hc)

theorem perform_getConstraintAttribute {c : Constraint} {a : ConstraintAttribute} {i : Nat}
    {r : Row} (ha : a ≠ .inIis) (hm : m.ended = false)
    (h : m.engine.injected? "get_constr_attr" = none) (hi : m.constraintIndex? c = some i)
    (hr : m.engine.rows[i]? = some r) :
    (getConstraintAttribute (.constraint c) (.text a.label)).perform (m, w) =
      (.ok (rowAttribute r a), m, w) := by
  rw [getConstraintAttribute, perform_bind_of_ok (perform_checkAlive hm),
    perform_bind_of_ok (perform_committedConstraint hi)]
  exact perform_askEngine (Engine.perform_getConstraintAttribute ha h hr)

/-- The attributes of a committed variable are those of the column that it stands for. -/
theorem Stored.getVarAttribute (h : m.Stored) (hi : m.Indexed) {v : Var} (hv : v ∈ m.vars)
    (hm : m.ended = false) (hinjected : m.engine.injected? "get_var_attr" = none) :
    ∃ c, v.column = .ok c ∧ ∀ a ∈ c.attributes, ∀ w,
      (getVarAttribute (.var v) (.text a.1)).perform (m, w) = (.ok a.2, m, w) := by
  obtain ⟨i, hi'⟩ := List.mem_iff_getElem?.1 hv
  obtain ⟨c, hc, hcolumn⟩ := getElem?_of_mapM h.columns hi'
  refine ⟨c, hc, fun a ha w => ?_⟩
  obtain ⟨b, hb, rfl⟩ := Column.exists_of_mem_attributes ha
  exact perform_getVarAttribute hb hm hinjected ((hi.varIndex_iff v i).2 ⟨v, hi', rfl⟩) hcolumn

/-- The attributes of a committed constraint are those of the row that it stands for. -/
theorem Stored.getConstraintAttribute (h : m.Stored) (hi : m.Indexed) {c : Constraint}
    (hc : c ∈ m.constraints) (hm : m.ended = false)
    (hinjected : m.engine.injected? "get_constr_attr" = none) :
    ∃ r, m.row c = .ok r ∧ ∀ a ∈ r.attributes, ∀ w,
      (getConstraintAttribute (.constraint c) (.text a.1)).perform (m, w) = (.ok a.2, m, w) := by
  obtain ⟨i, hi'⟩ := List.mem_iff_getElem?.1 hc
  obtain ⟨r, hr, hrow⟩ := getElem?_of_mapM h.rows hi'
  refine ⟨r, hr, fun a ha w => ?_⟩
  obtain ⟨b, hb, rfl⟩ := Row.exists_of_mem_attributes ha
  exact perform_getConstraintAttribute hb hm hinjected
    ((hi.constraintIndex_iff c i).2 ⟨c, hi', rfl⟩) hrow

end Attributes

/-! ## Histories -/

namespace History

theorem stored_blank {b : History} {w : Surroundings} (hb : b.Blank w) : b.model.Stored := by
  cases hb with
  | of name environment handler hs =>
    cases hs with
    | plain backend modelName h => exact ⟨rfl, rfl⟩
    | native modelName => exact ⟨rfl, rfl⟩

/-- A history in which entities are in order, and the engine stores what they stand for. -/
structure StoredInOrder (h : History) : Prop where
  inOrder : h.InOrder
  stored : h.model.Stored

theorem storedInOrder_step {h k : History} (hstep : Step Elsewhere h k) (hh : h.StoredInOrder) :
    k.StoredInOrder := by
  refine ⟨inOrder_step hstep hh.inOrder, ?_⟩
  cases hstep with
  | change hc => exact hc.stored hh.inOrder.indexed hh.stored
  | solve _ => exact ⟨hh.stored.columns, hh.stored.rows⟩
  | queueVar v => exact ⟨hh.stored.columns, hh.stored.rows⟩
  | queueConstraint c => exact ⟨hh.stored.columns, hh.stored.rows⟩

theorem storedInOrder_run {env : Environment} {settings : SettingsStore} {place : Nat}
    {name : Value} {w w' : Surroundings} {m : Model}
    (h : (env.newModel settings place name).perform w = (.ok m, w')) (moves : List Move) :
    (run { model := m, surroundings := w' } moves).StoredInOrder := by
  obtain ⟨b, hb, hsteps⟩ := Environment.newModel_steps h fun move _ => move.spares_any
  exact hsteps.maintains storedInOrder_step ⟨inOrder_blank hb, stored_blank hb⟩

/-- In every state that a history of a new model leads to, the engine stores the columns of the
committed variables and the rows of the committed constraints, in the order of their indices, and
nothing else. As long as the model is in use and the engine is not told to fail, the attributes that
it reads for a committed entity are the entity's own. -/
theorem run_stores {env : Environment} {settings : SettingsStore} {place : Nat}
    {name : Value} {w w' : Surroundings} {m : Model}
    (h : (env.newModel settings place name).perform w = (.ok m, w')) (moves : List Move) :
    let s := (run { model := m, surroundings := w' } moves).model
    s.vars.mapM Var.column = .ok s.engine.columns ∧
      s.constraints.mapM s.row = .ok s.engine.rows ∧
      (∀ v ∈ s.vars, s.ended = false → s.engine.injected? "get_var_attr" = none →
        ∃ c, v.column = .ok c ∧ ∀ a ∈ c.attributes, ∀ w,
          (getVarAttribute (.var v) (.text a.1)).perform (s, w) = (.ok a.2, s, w)) ∧
      ∀ c ∈ s.constraints, s.ended = false → s.engine.injected? "get_constr_attr" = none →
        ∃ r, s.row c = .ok r ∧ ∀ a ∈ r.attributes, ∀ w,
          (getConstraintAttribute (.constraint c) (.text a.1)).perform (s, w) = (.ok a.2, s, w) := by
  intro s
  have hs := storedInOrder_run h moves
  have hindexed := hs.inOrder.indexed
  refine ⟨hs.stored.columns, hs.stored.rows, ?_, ?_⟩
  · intro v hv hm hinjected
    exact hs.stored.getVarAttribute hindexed hv hm hinjected
  · intro c hc hm hinjected
    exact hs.stored.getConstraintAttribute hindexed hc hm hinjected

/-- Two variables and a constraint are queued and committed. -/
def commitThree : List Move :=
  [.operate 0 (.addVar (.var twoToFive)), .operate 0 (.addVar (.var belowZero)),
    .operate 0 (.addConstraint (.constraint atMostNine)), .operate 0 .update]

/-- What a model tells of two variables and a constraint. -/
theorem run_stores_three : ∃ m w, Environment.firstModelOn "zero" = (.ok m, w) ∧
    let s := (run { model := m, surroundings := w } commitThree).model
    (s.engine.columns.length = 2 ∧ s.engine.rows.length = 1) ∧
      (∀ a ∈ [("Obj", Value.float 3), ("LB", .float 2), ("UB", .float 5), ("VType", .text "I"),
          ("VarName", .text "twoToFive")],
        ∀ w, (getVarAttribute (.var twoToFive) (.text a.1)).perform (s, w) = (.ok a.2, s, w)) ∧
      (∀ a ∈ [("Obj", Value.float (-2)), ("LB", .float (-4)), ("UB", .float (-1)),
          ("VType", .text "C"), ("VarName", .text "belowZero")],
        ∀ w, (getVarAttribute (.var belowZero) (.text a.1)).perform (s, w) = (.ok a.2, s, w)) ∧
      ∀ a ∈ [("RHS", Value.float 9), ("Sense", .text "L"), ("ConstrName", .text "atMostNine")],
        ∀ w, (getConstraintAttribute (.constraint atMostNine) (.text a.1)).perform (s, w) =
          (.ok a.2, s, w) := by
  obtain ⟨m, w, h, hp⟩ := Environment.exists_of_made (r := Environment.firstModelOn "zero")
    (p := fun m w =>
      let s := (run { model := m, surroundings := w } commitThree).model
      s.vars = [twoToFive, belowZero] ∧ s.constraints = [atMostNine] ∧ s.ended = false ∧
        (s.engine.injected? "get_var_attr").isNone = true ∧
        (s.engine.injected? "get_constr_attr").isNone = true) (by decide +kernel)
  obtain ⟨hvars, hconstraints, halive, hvarAttribute, hconstraintAttribute⟩ := of_decide_eq_true hp
  obtain ⟨hcolumns, hrows, hvar, hconstraint⟩ := run_stores h commitThree
  refine ⟨m, w, h, ?_⟩
  -- the history is not to be evaluated again
  generalize (run { model := m, surroundings := w } commitThree).model = s at *
  rw [hvars] at hvar hcolumns
  rw [hconstraints] at hconstraint hrows
  have htold (v : Var) (hv : v ∈ [twoToFive, belowZero]) {lower upper : Double}
      (hlower : v.lower.toDouble = .ok lower) (hupper : v.upper.toDouble = .ok upper) :
      ∀ a ∈ Column.attributes ⟨v.objective, lower, upper, v.kind, .ofName v.name⟩,
        ∀ w, (getVarAttribute (.var v) (.text a.1)).perform (s, w) = (.ok a.2, s, w) := by
    obtain ⟨c, hc, htold⟩ := hvar v hv halive (Option.isNone_iff_eq_none.1 hvarAttribute)
    rw [Var.column, hlower, hupper] at hc
    cases hc
    exact htold
  obtain ⟨r, hr, hrow⟩ := hconstraint atMostNine List.mem_cons_self halive
    (Option.isNone_iff_eq_none.1 hconstraintAttribute)
  have hattributes : r.attributes =
      [("RHS", .float 9), ("Sense", .text "L"), ("ConstrName", .text "atMostNine")] := by
    obtain ⟨t, ht, rfl⟩ := map_eq_ok_iff.1 hr
    obtain ⟨-, hsense, hbound, hname⟩ := termRow_eq_ok ht
    rw [Row.attributes, TermRow.row, hsense, hbound, hname]
    rfl
  refine ⟨⟨(mapM_eq_ok_iff.1 hcolumns).length_eq.symm, (mapM_eq_ok_iff.1 hrows).length_eq.symm⟩,
    ?_, ?_, hattributes ▸ hrow⟩
  · exact htold twoToFive List.mem_cons_self (by decide +kernel) (by decide +kernel)
  · exact htold belowZero (List.mem_cons_of_mem _ List.mem_cons_self) rfl rfl

end History

end Model

end Milp

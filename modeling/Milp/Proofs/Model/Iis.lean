import Milp.Proofs.Engine.Deletion
import Milp.Proofs.Model.Store
set_option autoImplicit false

/-! # Irreducible infeasible subsystems of models

The rows of a model's engine are those of the committed constraints, so that the rows of a subsystem
stand for constraints. These are read one after the other, by asking for each committed constraint
whether it is in the subsystem (`HasIis.perform_iisConstraints`). A search succeeds if it finds a
subsystem, and leaves everything else as it was (`History.run_isolates`). -/

namespace Milp.Model

open Milp.Action

/-- The committed constraints at some indices, in the order of their indices. -/
def constraintsAt (m : Model) (is : List Nat) : List Constraint :=
  (m.constraints.zipIdx.filter (·.2 ∈ is)).map Prod.fst

/-! ## Reading -/

/-- A model in use whose engine has found a subsystem of its rows, among which there is one for each
committed constraint. -/
structure HasIis (m : Model) (iis : List Nat) : Prop where
  indexed : m.Indexed
  alive : m.ended = false
  readable : m.engine.injected? "get_constr_attr" = none
  rows : m.constraints.length ≤ m.engine.rows.length
  found : m.engine.solution.iis = some iis

namespace HasIis

variable {m : Model} {iis : List Nat}

theorem perform_inIis (h : m.HasIis iis) {c : Constraint} {i : Nat} (hc : m.constraints[i]? = some c)
    (w : Surroundings) :
    (getConstraintAttribute (.constraint c) (.text ConstraintAttribute.inIis.label)).perform (m, w) =
      (.ok (.int (if i ∈ iis then 1 else 0)), m, w) := by
  obtain ⟨hi, -⟩ := List.getElem?_eq_some_iff.1 hc
  have hrow := List.getElem?_eq_getElem (Nat.lt_of_lt_of_le hi h.rows)
  rw [getConstraintAttribute, perform_bind_of_ok (perform_checkAlive h.alive),
    perform_bind_of_ok (perform_committedConstraint ((h.indexed.constraintIndex_iff c i).2 ⟨c, hc, rfl⟩))]
  exact perform_askEngine (Engine.perform_getConstraintAttribute_inIis h.readable hrow h.found)

/-- The constraints from an index on are asked for one after the other. -/
theorem perform_iisAmong (h : m.HasIis iis) (before cs : List Constraint)
    (hcs : m.constraints = before ++ cs) (w : Surroundings) :
    (iisAmong cs).perform (m, w) =
      (.ok (((cs.zipIdx before.length).filter (·.2 ∈ iis)).map fun p => .constraint p.1),
        m, w) := by
  induction cs generalizing before with
  | nil => rfl
  | cons c rest ih =>
    have hc : m.constraints[before.length]? = some c := by
      rw [hcs, List.getElem?_append_right (Nat.le_refl _), Nat.sub_self]
      rfl
    have hrest := ih (before ++ [c]) (by rw [hcs, List.append_assoc]; rfl)
    rw [List.length_append] at hrest
    rw [iisAmong, perform_bind_of_ok (h.perform_inIis hc w), perform_bind_of_ok hrest,
      List.zipIdx_cons, List.filter_cons]
    by_cases hi : before.length ∈ iis
    · have hone : Value.same (.int 1) (.int 0) = false := by decide +kernel
      rw [if_pos hi, if_pos (decide_eq_true hi), hone]
      rfl
    · have hzero : Value.same (.int 0) (.int 0) = true := by decide +kernel
      rw [if_neg hi, if_neg (mt of_decide_eq_true hi), hzero]
      rfl

theorem perform_iisConstraints (h : m.HasIis iis) (w : Surroundings) :
    iisConstraints.perform (m, w) =
      (.ok (.list ((m.constraintsAt iis).map .constraint)), m, w) := by
  have hamong := h.perform_iisAmong [] m.constraints rfl w
  rw [iisConstraints, perform_bind_of_ok perform_model, perform_bind_of_ok hamong, constraintsAt,
    List.map_map]
  rfl

end HasIis

/-! ## Rows of constraints -/

theorem passable_row {m : Model} {c : Constraint} {r : Row} (h : m.row c = .ok r) :
    Engine.Passable r.indices := by
  cases hr : m.termRow c with
  | error f =>
    rw [row, hr] at h
    cases h
  | ok t =>
    rw [row, hr] at h
    cases h
    intro v hv
    obtain ⟨p, -, rfl⟩ := List.mem_map.1 hv
    exact ⟨p.1, rfl⟩

/-- The rows of a model with the native solver behind it can be tested. -/
theorem Stored.testable {m : Model} (h : m.Stored) (hnative : m.engine.isNative = true) :
    m.engine.Testable where
  native := hnative
  rows r hr := by
    obtain ⟨c, -, hc⟩ := exists_of_mapM h.rows hr
    exact passable_row hc

theorem Stored.length_rows {m : Model} (h : m.Stored) :
    m.engine.rows.length = m.constraints.length :=
  (mapM_eq_ok_iff.1 h.rows).length_eq.symm

/-! ## Searching -/

/-- A search that finds a subsystem succeeds, and afterwards its constraints can be read. -/
theorem perform_computeIis {m : Model} (hi : m.Indexed) (hs : m.Stored)
    (hnative : m.engine.isNative = true) (hm : m.ended = false) {w : Surroundings}
    (hanswer : Engine.answersOf w.solver.outcomes 0 = false) :
    let t := afterCall m w Engine.computeIis
    computeIis.perform (m, w) = (.ok (), t) ∧
      ∃ iis, t.1.engine.solution.iis = some iis ∧
        iisConstraints.perform t = (.ok (.list ((m.constraintsAt iis).map .constraint)), t) := by
  intro t
  obtain ⟨tests, hsearch⟩ := Engine.perform_computeIis (hs.testable hnative) w
  obtain ⟨haccepted, -, iis, hiis, -⟩ := hsearch.infeasible hanswer
  have hcall : computeIis.perform (m, w) = (.ok (), t) := by
    rw [computeIis, perform_bind_of_ok (perform_checkAlive hm)]
    exact perform_callEngine ⟨_, haccepted, Value.truthy_accepted _⟩ _
  have hengine : t.1.engine =
      { m.engine with solution := { m.engine.solution with iis := some iis } } := by
    have hengine := hsearch.engine
    rwa [hiis] at hengine
  have hfound : t.1.HasIis iis :=
    { indexed := hi.of_engine t.1.engine
      alive := hm
      readable := by
        rw [hengine]
        exact Engine.injected?_of_isNative hnative _
      rows := by
        rw [hengine]
        exact Nat.le_of_eq hs.length_rows.symm
      found := hiis }
  exact ⟨hcall, iis, hiis, hfound.perform_iisConstraints t.2⟩

namespace History

/-- Looking for an irreducible infeasible subsystem is a deletion filter, whatever the native solver
answers: with any engine that was made with the native solver behind it, however it has been used
since, and with that of a model in every state that a history of a new model leads to. If it finds a
subsystem for a model in use, the constraints that can be read afterwards are the committed ones at
its indices, in the order of their indices. -/
theorem run_isolates {env : Environment} {settings : SettingsStore} {place : Nat} {name : Value}
    {w w' : Surroundings} {m : Model}
    (h : (env.newModel settings place name).perform w = (.ok m, w')) (moves : List Move) :
    (∀ modelName u u' e s, (Engine.createNative modelName).perform u = (.ok e, u') →
      Relation.ReflTransGen Engine.Use (e, u') s →
        ∃ tests, Engine.Search s tests (Engine.computeIis.perform s)) ∧
    let m := (run { model := m, surroundings := w' } moves).model
    m.engine.isNative = true → ∀ v,
      (∃ tests, Engine.Search (m.engine, v) tests (Engine.computeIis.perform (m.engine, v))) ∧
      (m.ended = false → Engine.answersOf v.solver.outcomes 0 = false →
        let t := afterCall m v Engine.computeIis
        computeIis.perform (m, v) = (.ok (), t) ∧
          ∃ iis, t.1.engine.solution.iis = some iis ∧
            iisConstraints.perform t =
              (.ok (.list ((m.constraintsAt iis).map .constraint)), t)) := by
  constructor
  · intro modelName u u' e s he hs
    exact Engine.perform_computeIis (Engine.testable_of_uses he hs) s.2
  · intro m hnative v
    have hm := storedInOrder_run h moves
    exact ⟨Engine.perform_computeIis (hm.stored.testable hnative) v,
      fun halive hanswer => perform_computeIis hm.inOrder.indexed hm.stored hnative halive hanswer⟩

/-- Three constraints are committed, of which the first and the last one cannot be satisfied
together: so say the runs for all three of them, without the first, the second and the last one. -/
def conflictMoves : List Move :=
  (List.range 3).map (fun id => .operate 0 (.addConstraint (.constraint
    { id, expr := .empty, sense := .atMost, bound := Double.one, name := none }))) ++
    [.operate 0 .update, .elsewhere fun w => { w with
      solver := w.solver.addOutcomes ([ModelState.infeasible, ModelState.optimal,
        ModelState.unboundedOrInfeasible, ModelState.optimal].map fun status => { status }) }]

/-- The constraint in the middle is not in the subsystem. -/
theorem run_isolates_conflict : ∃ m w, Environment.firstModel = (.ok m, w) ∧
    let s := run { model := m, surroundings := w } conflictMoves
    let t := afterCall s.model s.surroundings Engine.computeIis
    (∃ tests, Engine.Search (s.model.engine, s.surroundings) tests
      (Engine.computeIis.perform (s.model.engine, s.surroundings))) ∧
    computeIis.perform s.state = (.ok (), t) ∧ t.1.engine.solution.iis = some [0, 2] ∧
      iisConstraints.perform t =
        (.ok (.list ((s.model.constraintsAt [0, 2]).map .constraint)), t) := by
  obtain ⟨m, w, h, hp⟩ := Environment.exists_firstModel (p := fun m w =>
    let s := run { model := m, surroundings := w } conflictMoves
    s.model.engine.isNative && !s.model.ended &&
      !Engine.answersOf s.surroundings.solver.outcomes 0 &&
      decide ((afterCall s.model s.surroundings Engine.computeIis).1.engine.solution.iis =
        some [0, 2])) (by decide +kernel)
  simp only [Bool.and_eq_true, Bool.not_eq_true', decide_eq_true_eq] at hp
  obtain ⟨⟨⟨hnative, halive⟩, hanswer⟩, hfound⟩ := hp
  obtain ⟨htests, hread⟩ := (run_isolates h conflictMoves).2 hnative _
  obtain ⟨hcall, iis, hiis, hconstraints⟩ := hread halive hanswer
  cases hfound.symm.trans hiis
  exact ⟨m, w, h, htests, hcall, hiis, hconstraints⟩

end History

end Milp.Model

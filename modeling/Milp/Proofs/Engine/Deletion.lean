import Milp.Proofs.Engine.Attribute
import Milp.Proofs.Engine.Testable
import Milp.Proofs.Native.Test
set_option autoImplicit false

/-! # The deletion filter

An irreducible infeasible subsystem is found by dropping one row after the other, unless the rest
becomes feasible without it. Every test decides about one row, so there are as many tests as rows
after the first one, which is of all rows (`Shrinks.length_tests`); what is left is the set that was
last said to be infeasible (`Shrinks.lastRefuted`). A row that was kept is one that a larger set than
what is left was feasible without: if subsets of feasible sets are feasible, what is left is therefore
feasible without it too (`Shrinks.irreducible`). Each test is one of the native solver, on an instance
of its own (`perform_isFeasible`). -/

namespace Milp.Engine

open Milp.Action

/-! ## Answers -/

/-- The set that was tested last among those that were said to be infeasible. -/
def LastRefuted (answers : Nat → Bool) (tests : List (List Nat)) (rs : List Nat) : Prop :=
  ∃ k, tests[k]? = some rs ∧ answers k = false ∧
    ∀ j, k < j → j < tests.length → answers j = true

/-- The answers to tests are those of a predicate. -/
def Told (feasible : List Nat → Prop) (answers : Nat → Bool) (tests : List (List Nat)) : Prop :=
  ∀ k rs, tests[k]? = some rs → (answers k = true ↔ feasible rs)

/-- Subsets of feasible sets are feasible. -/
def Hereditary (feasible : List Nat → Prop) : Prop :=
  ∀ {as bs : List Nat}, as ⊆ bs → feasible bs → feasible as

/-- A set that is infeasible, and feasible without any single one of its elements. -/
structure Irreducible (feasible : List Nat → Prop) (rs : List Nat) : Prop where
  infeasible : ¬feasible rs
  critical : ∀ r ∈ rs, feasible (rs.filter (· ≠ r))

/-! ## Dropping rows -/

/-- How a deletion filter goes on with rows that it has decided to keep and a rest, in which sets of
rows it tests and what is left in the end. -/
inductive Shrinks :
    (Nat → Bool) → List Nat → List Nat → List Nat → List (List Nat) → Prop
  | done (answers : Nat → Bool) (kept : List Nat) : Shrinks answers kept [] kept []
  | keep {answers : Nat → Bool} {kept rest left : List Nat} {r : Nat} {tests : List (List Nat)}
      (h : answers 0 = true)
      (hrest : Shrinks (fun k => answers (k + 1)) (kept ++ [r]) rest left tests) :
      Shrinks answers kept (r :: rest) left ((kept ++ rest) :: tests)
  | drop {answers : Nat → Bool} {kept rest left : List Nat} {r : Nat} {tests : List (List Nat)}
      (h : answers 0 = false)
      (hrest : Shrinks (fun k => answers (k + 1)) kept rest left tests) :
      Shrinks answers kept (r :: rest) left ((kept ++ rest) :: tests)

namespace Shrinks

variable {answers : Nat → Bool} {kept rest left : List Nat} {tests : List (List Nat)}

theorem length_tests (h : Shrinks answers kept rest left tests) : tests.length = rest.length := by
  induction h with
  | done => rfl
  | keep _ _ ih => rw [List.length_cons, List.length_cons, ih]
  | drop _ _ ih => rw [List.length_cons, List.length_cons, ih]

theorem sublist (h : Shrinks answers kept rest left tests) : left.Sublist (kept ++ rest) := by
  induction h with
  | done _ kept => rw [List.append_nil]
  | keep _ _ ih => rwa [List.append_assoc] at ih
  | drop _ _ ih => exact ih.trans ((List.sublist_cons_self _ _).append_left _)

/-- What is left is the current set, if no later one is said to be infeasible. -/
theorem lastRefuted (h : Shrinks answers kept rest left tests) (all : Nat → Bool)
    (hfirst : all 0 = false) (hall : ∀ k, all (k + 1) = answers k) :
    LastRefuted all ((kept ++ rest) :: tests) left := by
  induction h generalizing all with
  | done _ kept =>
    refine ⟨0, by simp, hfirst, fun j hj hlength => ?_⟩
    simp at hlength
    omega
  | @keep answers kept rest left r tests h _ ih =>
    -- the next set is the current one, said to be feasible without the row that is kept
    obtain ⟨k, hk, hrefuted, hlater⟩ := ih (fun k => if k = 0 then false else all (k + 1)) rfl
      fun k => hall (k + 1)
    have hone : all 1 = true := (hall 0).trans h
    cases k with
    | zero =>
      refine ⟨0, ?_, hfirst, fun j hj hlength => ?_⟩
      · rw [List.append_assoc] at hk
        exact hk
      · obtain _ | _ | j := j
        · omega
        · exact hone
        · exact hlater (j + 1) (by omega) (by simpa using hlength)
    | succ k =>
      refine ⟨k + 2, hk, hrefuted, fun j hj hlength => ?_⟩
      obtain _ | _ | j := j
      · omega
      · omega
      · exact hlater (j + 1) (by omega) (by simpa using hlength)
  | @drop answers kept rest left r tests h _ ih =>
    obtain ⟨k, hk, hrefuted, hlater⟩ := ih (fun k => all (k + 1)) ((hall 0).trans h)
      fun k => hall (k + 1)
    refine ⟨k + 1, hk, hrefuted, fun j hj hlength => ?_⟩
    obtain _ | j := j
    · omega
    · exact hlater j (by omega) (by simpa using hlength)

/-- Each row that was kept is critical for the current set. -/
theorem irreducible {feasible : List Nat → Prop} (hereditary : Hereditary feasible)
    (h : Shrinks answers kept rest left tests) (htold : Told feasible answers tests)
    (hinfeasible : ¬feasible (kept ++ rest))
    (hkept : ∀ r ∈ kept, feasible ((kept ++ rest).filter (· ≠ r))) :
    Irreducible feasible left := by
  induction h with
  | done _ kept =>
    rw [List.append_nil] at hinfeasible hkept
    exact ⟨hinfeasible, hkept⟩
  | @keep answers kept rest left r tests h _ ih =>
    have hwithout : feasible (kept ++ rest) := (htold 0 _ rfl).1 h
    refine ih (fun k rs hk => htold (k + 1) rs hk) ?_ ?_
    · rwa [List.append_assoc]
    · rw [List.append_assoc]
      intro q hq
      rcases List.mem_append.1 hq with hq | hq
      · exact hkept q hq
      · cases List.mem_singleton.1 hq
        refine hereditary (fun x hx => ?_) hwithout
        obtain ⟨hx, hne⟩ := List.mem_filter.1 hx
        have hne' : x ≠ r := of_decide_eq_true hne
        simpa [hne'] using hx
  | @drop answers kept rest left r tests h _ ih =>
    have hsubset : kept ++ rest ⊆ kept ++ r :: rest :=
      ((List.sublist_cons_self r rest).append_left kept).subset
    refine ih (fun k rs hk => htold (k + 1) rs hk) ?_ fun q hq => ?_
    · intro hfeasible
      rw [(htold 0 _ rfl).2 hfeasible] at h
      cases h
    · exact hereditary (List.filter_subset _ hsubset) (hkept q hq)

end Shrinks

/-! ## One test -/

section Test

variable {e : Engine}

/-- The calls that give an instance all columns. -/
def columnCalls (columns : List Column) : List SolverCall :=
  if columns.isEmpty then []
  else addColumnsCall columns ::
    if (discretePositions columns).isEmpty then [] else [.setIntegers (discretePositions columns)]

/-- The calls that set up the test of some rows. -/
def testCalls (e : Engine) (rs : List Nat) : Except Fault (List SolverCall) := do
  let rows ← (rs.filterMap (e.rows[·]?)).mapM addRowCall
  return .setOption (.text "output_flag") (.bool false) :: (columnCalls e.columns ++ rows)

theorem addRowCall_isRun {r : Row} {c : SolverCall} (h : addRowCall r = .ok c) :
    c.isRun = false := by
  obtain ⟨indices, -, h⟩ := bind_eq_ok_iff.1 h
  cases hs : r.sense <;> rw [hs] at h <;> cases h <;> rfl

theorem columnCalls_isRun {columns : List Column} {c : SolverCall} (hc : c ∈ columnCalls columns) :
    c.isRun = false := by
  unfold columnCalls at hc
  split at hc
  · cases hc
  · rcases List.mem_cons.1 hc with rfl | hc
    · rfl
    · split at hc
      · cases hc
      · cases List.mem_singleton.1 hc
        rfl

/-- Nothing is run before all calls are made. -/
theorem testCalls_isRun {rs : List Nat} {cs : List SolverCall} (h : e.testCalls rs = .ok cs) :
    ∀ c ∈ cs, c.isRun = false := by
  obtain ⟨rows, hrows, hcs⟩ := bind_eq_ok_iff.1 h
  cases hcs
  intro c hc
  rcases List.mem_cons.1 hc with rfl | hc
  · rfl
  rcases List.mem_append.1 hc with hc | hc
  · exact columnCalls_isRun hc
  · obtain ⟨r, -, hr⟩ := exists_of_mapM hrows hc
    exact addRowCall_isRun hr

theorem Testable.testCalls (he : e.Testable) (rs : List Nat) : ∃ cs, e.testCalls rs = .ok cs := by
  have hrow (r : Row) (hr : r ∈ rs.filterMap (e.rows[·]?)) : ∃ c, addRowCall r = .ok c := by
    obtain ⟨i, -, hi⟩ := List.mem_filterMap.1 hr
    obtain ⟨indices, hindices⟩ := exists_mapM_eq_ok (he.rows r (List.mem_of_getElem? hi))
    exact ⟨_, bind_eq_ok_iff.2 ⟨indices, hindices, rfl⟩⟩
  obtain ⟨rows, hrows⟩ := exists_mapM_eq_ok hrow
  exact ⟨_, bind_eq_ok_iff.2 ⟨rows, hrows, rfl⟩⟩

theorem perform_addScratchRows (i : Nat) (rows : List Row) {rs : List Nat} {cs : List SolverCall}
    (h : (rs.filterMap (rows[·]?)).mapM addRowCall = .ok cs) (w : Surroundings) :
    (addScratchRows i rows rs).perform (e, w) =
      (.ok (), e, { w with solver := w.solver.callAll i cs }) := by
  induction rs generalizing cs w with
  | nil =>
    cases h
    rfl
  | cons r rest ih =>
    unfold addScratchRows
    cases hr : rows[r]? with
    | none =>
      rw [List.filterMap_cons_none hr] at h
      exact ih h w
    | some row =>
      rw [List.filterMap_cons_some hr, List.mapM_cons] at h
      obtain ⟨c, hc, h⟩ := bind_eq_ok_iff.1 h
      obtain ⟨ds, hds, h⟩ := bind_eq_ok_iff.1 h
      cases h
      dsimp only
      rw [hc]
      exact ih hds _

/-- What a run says: whether it ends in a state that does not rule out a solution. -/
def saysFeasible (o : Outcome) : Bool := !ModelState.isInfeasible o.status

theorem perform_isFeasible {rs : List Nat} {cs : List SolverCall} (h : e.testCalls rs = .ok cs)
    (w : Surroundings) :
    (isFeasible rs).perform (e, w) =
      (.ok (saysFeasible (w.solver.outcomes.headD {})), e,
        { w with solver := w.solver.test cs }) := by
  rw [← Solver.outcome_test (testCalls_isRun h)]
  obtain ⟨rows, hrows, hcs⟩ := bind_eq_ok_iff.1 h
  cases hcs
  let i := w.solver.instances.length
  let quiet : SolverCall := .setOption (.text "output_flag") (.bool false)
  -- whether or not there are columns to be passed on, the rows follow in the same way
  have hrest (v : Surroundings) : (do
      addScratchRows i e.rows rs
      let _ ← callScratch i .run
      let t ← get
      return saysFeasible (t.2.solver.instance? i).outcome : Acting Bool).perform (e, v) =
        (.ok (saysFeasible ((v.solver.callAll i (rows ++ [SolverCall.run])).instance? i).outcome), e,
          { v with solver := v.solver.callAll i (rows ++ [SolverCall.run]) }) := by
    rw [perform_bind_of_ok (perform_addScratchRows i e.rows hrows v), Solver.callAll_append]
    rfl
  have hsilent : silentSolver.perform (e, w) =
      (.ok i, e, { w with solver := w.solver.create.2.callAll i [quiet] }) := rfl
  have htest : w.solver.test (quiet :: (columnCalls e.columns ++ rows)) =
      ((w.solver.create.2.callAll i [quiet]).callAll i (columnCalls e.columns)).callAll i
        (rows ++ [SolverCall.run]) := by
    rw [Solver.test_eq_callAll, ← Solver.callAll_append, ← Solver.callAll_append]
    simp [i]
  rw [htest, isFeasible, perform_bind_of_ok perform_engine, perform_bind_of_ok hsilent]
  unfold columnCalls
  cases e.columns.isEmpty with
  | true => exact hrest _
  | false =>
    dsimp only
    cases (discretePositions e.columns).isEmpty <;> exact hrest _

/-! ## One test after the other -/

/-- What the next runs say. -/
def answersOf (outcomes : List Outcome) (k : Nat) : Bool := saysFeasible (outcomes.getD k {})

theorem answersOf_zero (outcomes : List Outcome) :
    answersOf outcomes 0 = saysFeasible (outcomes.headD {}) := by
  cases outcomes <;> rfl

theorem answersOf_tail (outcomes : List Outcome) :
    answersOf outcomes.tail = fun k => answersOf outcomes (k + 1) := by
  cases outcomes <;> rfl

/-- A test takes the first answer. -/
theorem answersOf_test {rs : List Nat} {cs : List SolverCall} (h : e.testCalls rs = .ok cs)
    (s : Solver) : answersOf (s.test cs).outcomes = fun k => answersOf s.outcomes (k + 1) := by
  rw [← answersOf_tail, Solver.outcomes_test (testCalls_isRun h)]

/-- Each row of the rest takes one test, and the engine stays as it is. -/
theorem perform_deletionFilter (he : e.Testable) (kept rest : List Nat) (w : Surroundings) :
    ∃ left tests css, Shrinks (answersOf w.solver.outcomes) kept rest left tests ∧
      tests.mapM e.testCalls = .ok css ∧
      (deletionFilter kept rest).perform (e, w) =
        (.ok left, e, { w with solver := w.solver.tests css }) := by
  induction rest generalizing kept w with
  | nil => exact ⟨kept, [], [], .done _ _, rfl, rfl⟩
  | cons r rest ih =>
    obtain ⟨cs, hcs⟩ := he.testCalls (kept ++ rest)
    let v : Surroundings := { w with solver := w.solver.test cs }
    have htest := perform_isFeasible hcs w
    rw [← answersOf_zero] at htest
    unfold deletionFilter
    rw [perform_bind_of_ok htest]
    cases hanswer : answersOf w.solver.outcomes 0 with
    | true =>
      obtain ⟨left, tests, css, hshrinks, hcss, hperform⟩ := ih (kept ++ [r]) v
      rw [answersOf_test hcs] at hshrinks
      exact ⟨left, _, _, .keep hanswer hshrinks, mapM_cons_eq_ok hcs hcss, hperform⟩
    | false =>
      obtain ⟨left, tests, css, hshrinks, hcss, hperform⟩ := ih kept v
      rw [answersOf_test hcs] at hshrinks
      exact ⟨left, _, _, .drop hanswer hshrinks, mapM_cons_eq_ok hcs hcss, hperform⟩

/-! ## The whole search -/

/-- What the tests of some sets of rows do to the native solver. -/
structure Testing (s : Engine × Surroundings) (tests : List (List Nat)) (w : Surroundings) :
    Prop where
  /-- Each test has an instance of its own, which is given the columns and the rows and run once. -/
  calls : ∃ css, tests.mapM s.1.testCalls = .ok css ∧
    w.solver.trace = s.2.solver.trace ++
      (css.zipIdx s.2.solver.instances.length).flatMap fun (cs, i) =>
        (cs ++ [SolverCall.run]).map (Prod.mk i)
  runs : w.solver.runCount = s.2.solver.runCount + tests.length
  /-- No instance from before is called, such as the engine's own one. -/
  others : s.2.solver.SameBelow s.2.solver.instances.length w.solver

theorem testing_tests {tests : List (List Nat)} {css : List (List SolverCall)}
    (h : tests.mapM e.testCalls = .ok css) (w : Surroundings) :
    Testing (e, w) tests { w with solver := w.solver.tests css } := by
  have hlength : tests.length = css.length := (mapM_eq_ok_iff.1 h).length_eq
  have hruns : ∀ cs ∈ css, ∀ c ∈ cs, c.isRun = false := by
    intro cs hcs
    obtain ⟨rs, -, hrs⟩ := exists_of_mapM h hcs
    exact testCalls_isRun hrs
  refine ⟨⟨css, h, Solver.trace_tests css w.solver⟩, ?_, Solver.SameBelow.tests css (Nat.le_refl _)⟩
  rw [hlength]
  exact Solver.runCount_tests hruns w.solver

/-- What comes of looking for an irreducible infeasible subsystem with tests of some sets of rows. -/
structure Search (s : Engine × Surroundings) (tests : List (List Nat))
    (r : Except Failure Value × Engine × Surroundings) : Prop extends Testing s tests r.2.2 where
  /-- All rows are tested first. -/
  first : tests[0]? = some (List.range s.1.rows.length)
  feasible (h : answersOf s.2.solver.outcomes 0 = true) :
    r.1 = .ok (refused .notInfeasible) ∧ tests.length = 1 ∧ r.2.1.solution.iis = none
  infeasible (h : answersOf s.2.solver.outcomes 0 = false) :
    r.1 = .ok accepted ∧ tests.length = s.1.rows.length + 1 ∧
      ∃ iis, r.2.1.solution.iis = some iis ∧ iis.Sublist (List.range s.1.rows.length) ∧
        LastRefuted (answersOf s.2.solver.outcomes) tests iis ∧
        ∀ feasible, Hereditary feasible → Told feasible (answersOf s.2.solver.outcomes) tests →
          Irreducible feasible iis
  /-- Nothing else of the engine changes. -/
  engine : r.2.1 = { s.1 with solution := { s.1.solution with iis := r.2.1.solution.iis } }
  surroundings : r.2.2 = { s.2 with solver := r.2.2.solver }

/-- An engine with the native solver behind it is not made to fail. -/
theorem injected?_of_isNative (he : e.isNative = true) (operation : String) :
    e.injected? operation = none := by
  unfold isNative at he
  unfold injected?
  split
  · rename_i fs hfs
    rw [hfs] at he
    cases he
  · rfl

/-- An engine with the native solver behind it keeps no log. -/
theorem perform_recorded_native (he : e.isNative = true) (c : Call) (x : Acting Value)
    (w : Surroundings) : (recorded c x).perform (e, w) = x.perform (e, w) := by
  have hrecord : (change (·.record c)).perform (e, w) = (.ok ⟨⟩, e, w) := by
    show (Except.ok PUnit.unit, (if e.isNative then e else { e with calls := e.calls ++ [c] }), w) = _
    rw [if_pos he]
  rw [recorded, perform_bind_of_ok hrecord,
    perform_unlessInjected (injected?_of_isNative he c.operation)]

theorem perform_computeIis_native (he : e.isNative = true) (w : Surroundings) :
    computeIis.perform (e, w) = computeNativeIis.perform (e, w) := by
  rw [computeIis, perform_recorded_native he, perform_bind_of_ok perform_engine, if_pos he]

/-- A search comes to an end, whatever the native solver answers. -/
theorem perform_computeIis (he : e.Testable) (w : Surroundings) :
    ∃ tests, Search (e, w) tests (computeIis.perform (e, w)) := by
  let all := List.range e.rows.length
  obtain ⟨cs, hcs⟩ := he.testCalls all
  let v : Surroundings := { w with solver := w.solver.test cs }
  have hfirst := perform_isFeasible hcs w
  rw [← answersOf_zero] at hfirst
  rw [perform_computeIis_native he.native, computeNativeIis, perform_bind_of_ok perform_engine,
    perform_bind_of_ok hfirst]
  cases hanswer : answersOf w.solver.outcomes 0 with
  | true =>
    have hone : [all].mapM e.testCalls = .ok [cs] := mapM_cons_eq_ok hcs rfl
    refine ⟨[all], testing_tests hone w, rfl, fun _ => ⟨rfl, rfl, rfl⟩, ?_, rfl, rfl⟩
    intro h
    cases hanswer.symm.trans h
  | false =>
    obtain ⟨iis, tests, css, hshrinks, hcss, hperform⟩ := perform_deletionFilter he [] all v
    rw [answersOf_test hcs] at hshrinks
    rw [if_neg Bool.false_ne_true, perform_bind_of_ok hperform]
    refine ⟨all :: tests, testing_tests (mapM_cons_eq_ok hcs hcss) w, rfl, ?_, fun _ => ⟨rfl, ?_,
      iis, rfl, hshrinks.sublist, hshrinks.lastRefuted _ hanswer fun _ => rfl, ?_⟩, rfl, rfl⟩
    · intro h
      cases hanswer.symm.trans h
    · rw [List.length_cons, hshrinks.length_tests, List.length_range]
    · intro feasible hereditary htold
      refine hshrinks.irreducible hereditary (fun k rs hk => htold (k + 1) rs hk) ?_
        fun r hr => nomatch hr
      intro hfeasible
      cases hanswer.symm.trans ((htold 0 all rfl).2 hfeasible)

end Test

end Milp.Engine

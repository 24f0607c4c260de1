import Milp.Proofs.Solver
set_option autoImplicit false

/-! # Tests

A test is some calls and then a run of an instance that was made for it. Tests come one after the
other, each on an instance of its own, so what is recorded of them says which one each call belongs
to (`Solver.trace_tests`). Each takes one outcome (`Solver.outcomes_test`), and the instances from
before have no part in any of them (`Solver.SameBelow.tests`). -/

namespace Milp.Solver

variable {s : Solver}

/-! ## Outcomes -/

theorem outcomes_answer (s : Solver) (method : String) :
    (s.answer method).2.outcomes = s.outcomes := by
  unfold answer
  split <;> rfl

/-- A run takes an outcome, whatever the answer, and no other call does. -/
theorem outcomes_call (i : Nat) (c : SolverCall) (s : Solver) :
    (s.call i c).2.outcomes = if c.isRun then s.outcomes.tail else s.outcomes := by
  have hcarry (t : Solver) (reply : Reply) : (t.carryOut i c reply).outcomes =
      if c.isRun then t.outcomes.tail else t.outcomes := by
    unfold carryOut
    by_cases h : reply = .error <;> by_cases hr : c.isRun <;>
      simp [h, hr, updateInstance, takeOutcome]
  rw [call, hcarry, record, outcomes_answer]

/-- After a run an instance has the outcome that the run took. -/
theorem outcome_run {i : Nat} (h : i < s.instances.length) :
    ((s.call i .run).2.instance? i).outcome = s.outcomes.headD {} := by
  have hcarry (t : Solver) (reply : Reply) (ht : i < t.instances.length) :
      ((t.carryOut i .run reply).instance? i).outcome = t.outcomes.headD {} := by
    have hanswered : (if reply = .error then t
        else t.updateInstance i (·.apply .run)) = t := by
      split
      · rfl
      · exact congrArg (fun is => { t with instances := is }) (List.modify_id i t.instances)
    have hrun : t.carryOut i .run reply = t.takeOutcome i :=
      congrArg (Solver.takeOutcome · i) hanswered
    rw [hrun, takeOutcome, updateInstance, instance?, List.getD_eq_getElem?_getD,
      List.getElem?_modify_eq, List.getElem?_eq_getElem ht]
    rfl
  rw [call, hcarry, record, outcomes_answer]
  rw [record, instances_answer]
  exact h

/-! ## Calls of one instance -/

/-- Some calls of an instance, whatever the answers. -/
def callAll (i : Nat) (cs : List SolverCall) (s : Solver) : Solver :=
  cs.foldl (fun s c => (s.call i c).2) s

theorem callAll_append (i : Nat) (cs ds : List SolverCall) (s : Solver) :
    s.callAll i (cs ++ ds) = (s.callAll i cs).callAll i ds := List.foldl_append

theorem trace_callAll (i : Nat) (cs : List SolverCall) (s : Solver) :
    (s.callAll i cs).trace = s.trace ++ cs.map (Prod.mk i) := by
  induction cs generalizing s with
  | nil => exact (List.append_nil _).symm
  | cons c rest ih =>
    show ((s.call i c).2.callAll i rest).trace = _
    rw [ih, trace_call, List.append_assoc]
    rfl

theorem length_instances_callAll (i : Nat) (cs : List SolverCall) (s : Solver) :
    (s.callAll i cs).instances.length = s.instances.length := by
  induction cs generalizing s with
  | nil => rfl
  | cons c rest ih => exact (ih _).trans (length_instances_call i c s)

theorem outcomes_callAll (i : Nat) {cs : List SolverCall} (h : ∀ c ∈ cs, c.isRun = false)
    (s : Solver) : (s.callAll i cs).outcomes = s.outcomes := by
  induction cs generalizing s with
  | nil => rfl
  | cons c rest ih =>
    have hc : (s.call i c).2.outcomes = s.outcomes := by
      rw [outcomes_call, h c List.mem_cons_self]
      rfl
    exact (ih (fun d hd => h d (List.mem_cons_of_mem c hd)) _).trans hc

theorem SameBelow.callAll {bound i : Nat} (hi : bound ≤ i) (cs : List SolverCall) (s : Solver) :
    SameBelow bound s (s.callAll i cs) := by
  induction cs generalizing s with
  | nil => exact .refl _ _
  | cons c rest ih => exact (SameBelow.call hi c s).trans (ih _)

/-! ## Tests -/

/-- A new instance that some calls and then a run are made of. -/
def test (s : Solver) (cs : List SolverCall) : Solver :=
  ((s.create.2.callAll s.instances.length cs).call s.instances.length .run).2

/-- One test after the other. -/
def tests (s : Solver) (css : List (List SolverCall)) : Solver := css.foldl test s

theorem test_eq_callAll (s : Solver) (cs : List SolverCall) :
    s.test cs = s.create.2.callAll s.instances.length (cs ++ [SolverCall.run]) :=
  (callAll_append s.instances.length cs [SolverCall.run] s.create.2).symm

theorem length_instances_test (s : Solver) (cs : List SolverCall) :
    (s.test cs).instances.length = s.instances.length + 1 := by
  rw [test_eq_callAll, length_instances_callAll]
  exact List.length_append

theorem trace_test (s : Solver) (cs : List SolverCall) :
    (s.test cs).trace = s.trace ++ (cs ++ [SolverCall.run]).map (Prod.mk s.instances.length) := by
  rw [test_eq_callAll, trace_callAll]
  rfl

/-- The instance of a test ends with the next outcome. -/
theorem outcome_test {cs : List SolverCall} (h : ∀ c ∈ cs, c.isRun = false) (s : Solver) :
    ((s.test cs).instance? s.instances.length).outcome = s.outcomes.headD {} := by
  have hlength : s.instances.length <
      (s.create.2.callAll s.instances.length cs).instances.length := by
    rw [length_instances_callAll, create, List.length_append]
    exact Nat.lt_succ_self _
  rw [test, outcome_run hlength, outcomes_callAll _ h]
  rfl

theorem outcomes_test {cs : List SolverCall} (h : ∀ c ∈ cs, c.isRun = false) (s : Solver) :
    (s.test cs).outcomes = s.outcomes.tail := by
  have hrun := outcomes_call s.instances.length .run (s.create.2.callAll s.instances.length cs)
  rw [outcomes_callAll _ h] at hrun
  exact hrun

theorem SameBelow.test {bound : Nat} (h : bound ≤ s.instances.length) (cs : List SolverCall) :
    SameBelow bound s (s.test cs) := by
  rw [test_eq_callAll]
  exact (SameBelow.create h).trans (SameBelow.callAll h _ _)

theorem trace_tests (css : List (List SolverCall)) (s : Solver) :
    (s.tests css).trace = s.trace ++ (css.zipIdx s.instances.length).flatMap fun (cs, i) =>
      (cs ++ [SolverCall.run]).map (Prod.mk i) := by
  induction css generalizing s with
  | nil => exact (List.append_nil _).symm
  | cons cs rest ih =>
    show ((s.test cs).tests rest).trace = _
    rw [ih, trace_test, length_instances_test, List.append_assoc, List.zipIdx_cons,
      List.flatMap_cons]

/-- How many runs were made, of all instances together. -/
def runCount (s : Solver) : Nat := s.trace.countP fun c => c.2.isRun

theorem runCount_tests {css : List (List SolverCall)} (h : ∀ cs ∈ css, ∀ c ∈ cs, c.isRun = false)
    (s : Solver) : (s.tests css).runCount = s.runCount + css.length := by
  induction css generalizing s with
  | nil => rfl
  | cons cs rest ih =>
    have hcs : cs.countP SolverCall.isRun = 0 := List.countP_eq_zero.2 fun c hc => by
      rw [h cs List.mem_cons_self c hc]
      exact Bool.false_ne_true
    have hone : (s.test cs).runCount = s.runCount + 1 := by
      rw [runCount, trace_test, List.countP_append, List.countP_map]
      show _ + (cs ++ [SolverCall.run]).countP SolverCall.isRun = _
      rw [List.countP_append, hcs, Nat.zero_add]
      rfl
    show ((s.test cs).tests rest).runCount = _
    rw [ih (fun ds hds => h ds (List.mem_cons_of_mem cs hds)), hone, List.length_cons]
    omega

theorem SameBelow.tests {bound : Nat} (css : List (List SolverCall))
    (h : bound ≤ s.instances.length) : SameBelow bound s (s.tests css) := by
  induction css generalizing s with
  | nil => exact .refl _ _
  | cons cs rest ih =>
    refine (SameBelow.test h cs).trans (ih ?_)
    rw [length_instances_test]
    exact Nat.le_succ_of_le h

end Milp.Solver

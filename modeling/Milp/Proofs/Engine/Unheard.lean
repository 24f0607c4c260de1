import Milp.Proofs.Engine.Deletion
set_option autoImplicit false

/-! # Failed tests are not heard

Each call of a test may fail, and so may the run itself. The engine looks at none of the answers, only
at the outcome that the instance has in the end, which is the next one whether or not the run has
failed. So what a search for an irreducible infeasible subsystem calls, where it ends and what it
leaves behind is the same whatever is answered (`Engine.computeIis_unheard`): it never ends with a
failure of the engine, and what was known of a subsystem is always replaced. -/

namespace Milp

open Milp.Action

/-- The same calls have been made of two native solvers, and the same outcomes are still to come;
answers may differ, those that were given and those that are still to be given. -/
structure Solver.SameCourse (s t : Solver) : Prop where
  instances : t.instances.length = s.instances.length
  outcomes : t.outcomes = s.outcomes
  trace : t.trace = s.trace

theorem Solver.SameCourse.test {s t : Solver} (h : s.SameCourse t) {cs : List SolverCall}
    (hcs : ∀ c ∈ cs, c.isRun = false) : (s.test cs).SameCourse (t.test cs) where
  instances := by rw [length_instances_test, length_instances_test, h.instances]
  outcomes := by rw [outcomes_test hcs, outcomes_test hcs, h.outcomes]
  trace := by rw [trace_test, trace_test, h.trace, h.instances]

/-- The same surroundings, with the next calls of the native solver answered in another way. -/
def Surroundings.withScripts (w : Surroundings) (scripts : List (String × Answers)) :
    Surroundings := { w with solver := { w.solver with scripts } }

namespace Engine

/-- Two calls have ended in the same way, with the same engine and after the same calls of the native
solver. -/
structure SameEnd {α : Type} (r q : Except Failure α × Engine × Surroundings) : Prop where
  outcome : q.1 = r.1
  engine : q.2.1 = r.2.1
  course : r.2.2.solver.SameCourse q.2.2.solver

section

variable {e : Engine} {w v : Surroundings}

/-- What an action goes on to do makes no difference if it starts from the same results. -/
theorem SameEnd.bind {α β : Type} {x : Acting α} {f : α → Acting β} {a : α} {w' v' : Surroundings}
    (hw : x.perform (e, w) = (.ok a, e, w')) (hv : x.perform (e, v) = (.ok a, e, v'))
    (h : SameEnd ((f a).perform (e, w')) ((f a).perform (e, v'))) :
    SameEnd ((x >>= f).perform (e, w)) ((x >>= f).perform (e, v)) := by
  rwa [perform_bind_of_ok hw, perform_bind_of_ok hv]

/-- A test says the same whatever is answered. -/
theorem isFeasible_sameEnd (he : e.Testable) (h : w.solver.SameCourse v.solver) (rs : List Nat) :
    ∃ b w' v', (isFeasible rs).perform (e, w) = (.ok b, e, w') ∧
      (isFeasible rs).perform (e, v) = (.ok b, e, v') ∧ w'.solver.SameCourse v'.solver := by
  obtain ⟨cs, hcs⟩ := he.testCalls rs
  have hv := perform_isFeasible hcs v
  rw [h.outcomes] at hv
  exact ⟨_, _, _, perform_isFeasible hcs w, hv, h.test (testCalls_isRun hcs)⟩

/-- Each test is followed by the same ones, so all that is left is the same. -/
theorem deletionFilter_sameEnd (he : e.Testable) (h : w.solver.SameCourse v.solver)
    (kept rest : List Nat) :
    ∃ left w' v', (deletionFilter kept rest).perform (e, w) = (.ok left, e, w') ∧
      (deletionFilter kept rest).perform (e, v) = (.ok left, e, v') ∧
      w'.solver.SameCourse v'.solver := by
  induction rest generalizing kept w v with
  | nil => exact ⟨kept, w, v, rfl, rfl, h⟩
  | cons r rest ih =>
    obtain ⟨feasible, w', v', hw, hv, h'⟩ := isFeasible_sameEnd he h (kept ++ rest)
    unfold deletionFilter
    rw [perform_bind_of_ok hw, perform_bind_of_ok hv]
    cases feasible with
    | true => exact ih h' (kept ++ [r])
    | false => exact ih h' kept

theorem computeIis_sameEnd (he : e.Testable) (h : w.solver.SameCourse v.solver) :
    SameEnd (computeIis.perform (e, w)) (computeIis.perform (e, v)) := by
  let all := List.range e.rows.length
  obtain ⟨feasible, w', v', hw, hv, h'⟩ := isFeasible_sameEnd he h all
  rw [perform_computeIis_native he.native, perform_computeIis_native he.native]
  refine .bind perform_engine perform_engine (.bind hw hv ?_)
  cases feasible with
  | true => exact ⟨rfl, rfl, h'⟩
  | false =>
    obtain ⟨left, w'', v'', hw, hv, h''⟩ := deletionFilter_sameEnd he h' [] all
    exact .bind hw hv ⟨rfl, rfl, h''⟩

end

/-- Whatever the native solver answers to the calls of a search, its end, the engine and the calls are
the same. A search is always accepted with a subsystem in place of the one that was known, or refused
because the rows are not infeasible, with none in its place. -/
theorem computeIis_unheard {modelName : Value} {w w' : Surroundings} {e : Engine}
    (hcreated : (createNative modelName).perform w = (.ok e, w')) {s : Engine × Surroundings}
    (hs : Relation.ReflTransGen Use (e, w') s) (scripts : List (String × Answers)) :
    let r := computeIis.perform s
    SameEnd r (computeIis.perform (s.1, s.2.withScripts scripts)) ∧
      ((r.1 = .ok accepted ∧ ∃ iis, r.2.1.solution.iis = some iis) ∨
        (r.1 = .ok (refused .notInfeasible) ∧ r.2.1.solution.iis = none)) := by
  have he := testable_of_uses hcreated hs
  refine ⟨computeIis_sameEnd he ⟨rfl, rfl, rfl⟩, ?_⟩
  obtain ⟨tests, hsearch⟩ := perform_computeIis he s.2
  cases hanswer : answersOf s.2.solver.outcomes 0 with
  | true =>
    obtain ⟨houtcome, -, hiis⟩ := hsearch.feasible hanswer
    exact .inr ⟨houtcome, hiis⟩
  | false =>
    obtain ⟨houtcome, -, iis, hiis, -⟩ := hsearch.infeasible hanswer
    exact .inl ⟨houtcome, iis, hiis⟩

/-- A new engine does not hear that every run fails. -/
theorem computeIis_unheard_new :
    SameEnd (computeIis.perform newNative)
      (computeIis.perform (newNative.1, newNative.2.withScripts [("run", fun _ => .error)])) :=
  (computeIis_unheard (s := newNative) perform_createNative .refl _).1

/-- The rows of a new engine are said not to be infeasible although the run has failed. -/
theorem failed_run_unheard :
    let r := computeIis.perform
      (newNative.1, newNative.2.withScripts [("run", fun _ => .error)])
    r.1 = .ok (refused .notInfeasible) ∧
      ∃ c ∈ r.2.2.solver.history, c.call.isRun = true ∧ c.reply = .error := by
  have he : newNative.1.Testable := testable_of_uses perform_createNative .refl
  obtain ⟨tests, hsearch⟩ := perform_computeIis he
    (newNative.2.withScripts [("run", fun _ => .error)])
  exact ⟨(hsearch.feasible (by decide +kernel)).1, by decide +kernel⟩

end Engine

end Milp

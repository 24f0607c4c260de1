import Milp.Solver
set_option autoImplicit false

/-! # Instances of the native solver side by side

A call of one instance leaves the others as they are: their counts, and what they have been told. New
instances come after all others, so that work on scratch instances does not concern the ones that
were there before (`Solver.SameBelow`). -/

namespace Milp

/-- Whether a call leaves the columns, the rows and the direction of an instance as they are. -/
def SolverCall.isNeutral : SolverCall → Bool
  | setOption .. | write _ | run => true
  | _ => false

/-- The instance after a call that was answered: a call that failed has no effect on the counts. -/
def SolverInstance.answered (c : SolverCall) (reply : Reply) (i : SolverInstance) :
    SolverInstance :=
  if reply = .error then i else i.apply c

namespace Solver

/-- The calls of an instance with their answers, in order. -/
def callsOf (s : Solver) (i : Nat) : List AnsweredCall := s.history.filter (·.number = i)

/-! ## One call -/

theorem instances_answer (s : Solver) (method : String) :
    (s.answer method).2.instances = s.instances := by
  unfold answer
  split <;> rfl

theorem instances_carryOut (s : Solver) (i : Nat) (c : SolverCall) (reply : Reply) :
    ∃ f, (s.carryOut i c reply).instances = s.instances.modify i f ∧
      ∀ x, (f x).columns = (x.answered c reply).columns ∧ (f x).rows = (x.answered c reply).rows := by
  have hanswered : (if reply = .error then s else s.updateInstance i (·.apply c)).instances =
      s.instances.modify i (SolverInstance.answered c reply) := by
    by_cases h : reply = .error
    · have hf : SolverInstance.answered c reply = id := funext fun x => if_pos h
      rw [if_pos h, hf, List.modify_id]
    · have hf : SolverInstance.answered c reply = (·.apply c) := funext fun x => if_neg h
      rw [if_neg h, hf, updateInstance]
  simp only [carryOut]
  generalize (if reply = .error then s else s.updateInstance i (·.apply c)) = t at hanswered ⊢
  by_cases hrun : c.isRun
  · rw [if_pos hrun]
    refine ⟨fun x => { x.answered c reply with outcome := t.outcomes.headD {} }, ?_,
      fun x => ⟨rfl, rfl⟩⟩
    rw [takeOutcome, updateInstance, hanswered, List.modify_modify_eq]
    rfl
  · rw [if_neg hrun]
    exact ⟨_, hanswered, fun x => ⟨rfl, rfl⟩⟩

theorem length_instances_call (i : Nat) (c : SolverCall) (s : Solver) :
    (s.call i c).2.instances.length = s.instances.length := by
  obtain ⟨f, hf, -⟩ := instances_carryOut ((s.answer c.method).2.record ⟨i, c, _⟩) i c _
  rw [call, hf, List.length_modify, record, instances_answer]

theorem instance?_call_of_ne {i j : Nat} (h : i ≠ j) (c : SolverCall) (s : Solver) :
    (s.call i c).2.instance? j = s.instance? j := by
  obtain ⟨f, hf, -⟩ := instances_carryOut ((s.answer c.method).2.record ⟨i, c, _⟩) i c _
  rw [instance?, instance?, call, hf, record, instances_answer,
    List.getD_eq_getElem?_getD, List.getElem?_modify_ne f _ h, ← List.getD_eq_getElem?_getD]

/-- An instance counts what its calls have done, unless they failed. -/
theorem instance?_call {i : Nat} {s : Solver} (h : i < s.instances.length) (c : SolverCall) :
    ((s.call i c).2.instance? i).columns = ((s.instance? i).answered c (s.call i c).1).columns ∧
      ((s.call i c).2.instance? i).rows = ((s.instance? i).answered c (s.call i c).1).rows := by
  obtain ⟨f, hf, hcounts⟩ := instances_carryOut ((s.answer c.method).2.record ⟨i, c, _⟩) i c _
  have hinstance : (s.call i c).2.instance? i = f (s.instance? i) := by
    rw [instance?, instance?, call, hf, record, instances_answer, List.getD_eq_getElem?_getD,
      List.getElem?_modify_eq, List.getD_eq_getElem?_getD, List.getElem?_eq_getElem h]
    rfl
  rw [hinstance]
  exact hcounts _

theorem callsOf_call (i j : Nat) (c : SolverCall) (s : Solver) :
    (s.call i c).2.callsOf j =
      if i = j then s.callsOf j ++ [⟨i, c, (s.call i c).1⟩] else s.callsOf j := by
  rw [callsOf, history_call, List.filter_append, callsOf]
  by_cases h : i = j <;> simp [h]

/-! ## One instance -/

/-- Nothing has happened to an instance. -/
structure SameAt (i : Nat) (s t : Solver) : Prop where
  instance? : t.instance? i = s.instance? i
  calls : t.callsOf i = s.callsOf i
  length : i < s.instances.length → i < t.instances.length

/-! ## Scratch instances -/

/-- Nothing has happened to the instances with numbers below a bound. -/
structure SameBelow (bound : Nat) (s t : Solver) : Prop where
  instances : ∀ i < bound, t.instance? i = s.instance? i
  calls : ∀ i < bound, t.callsOf i = s.callsOf i
  length : s.instances.length ≤ t.instances.length

namespace SameBelow

variable {bound : Nat} {s t u : Solver}

protected theorem refl (bound : Nat) (s : Solver) : SameBelow bound s s :=
  ⟨fun _ _ => rfl, fun _ _ => rfl, Nat.le_refl _⟩

protected theorem trans (h : SameBelow bound s t) (k : SameBelow bound t u) :
    SameBelow bound s u :=
  ⟨fun i hi => (k.instances i hi).trans (h.instances i hi),
    fun i hi => (k.calls i hi).trans (h.calls i hi), Nat.le_trans h.length k.length⟩

theorem sameAt (h : SameBelow bound s t) {i : Nat} (hi : i < bound) :
    SameAt i s t :=
  ⟨h.instances i hi, h.calls i hi, fun _ => by have := h.length; omega⟩

theorem call {i : Nat} (hi : bound ≤ i) (c : SolverCall) (s : Solver) :
    SameBelow bound s (s.call i c).2 := by
  refine ⟨fun j hj => instance?_call_of_ne ?_ c s, fun j hj => ?_, ?_⟩
  · omega
  · rw [callsOf_call, if_neg (by omega)]
  · exact Nat.le_of_eq (length_instances_call i c s).symm

theorem create (h : bound ≤ s.instances.length) : SameBelow bound s s.create.2 := by
  refine ⟨fun j hj => ?_, fun j hj => rfl, ?_⟩
  · simp only [Solver.create, instance?, List.getD_eq_getElem?_getD]
    rw [List.getElem?_append_left (by omega)]
  · simp [Solver.create]

end SameBelow

end Solver

end Milp

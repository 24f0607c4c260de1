import Milp.Proofs.Engine.Addition
import Milp.Proofs.Engine.Attribute
set_option autoImplicit false

/-! # What an engine knows about a solution

An engine forgets what it knows about a solution when its model changes, and only then. A call that
is refused or broken off leaves it as it is (`setModelAttribute_answered`); the one exception is
solving, after which no objective is known unless solving has succeeded (`optimize_answered`). -/

namespace Milp

/-- Two solutions are the same as far as callers are told, infeasible subsystems aside. -/
structure Solution.SameResults (s t : Solution) : Prop where
  status : t.status = s.status
  objective : t.objective = s.objective
  values : t.values = s.values

namespace Engine

open Milp.Action

variable {sense : Value} {solution : Solution}

/-- The direction and what is known about a solution. -/
def Knows (sense : Value) (solution : Solution) (s : Engine × Surroundings) : Prop :=
  s.1.sense = sense ∧ s.1.solution = solution

theorem knows_heedless : Heedless (Knows sense solution) where
  record _ h := by
    unfold Engine.record
    split <;> exact h
  setInjected operation f h := by
    unfold Engine.setInjected
    split <;> exact h

theorem knows_elsewhere (e : Engine) (v w : Surroundings) (h : Knows sense solution (e, v)) :
    Knows sense solution (e, w) := h

/-- Changes aside leave the direction, and either the results or nothing. -/
theorem Aside.results {s t : Engine × Surroundings} (h : Aside s t) :
    t.1.sense = s.1.sense ∧
      (s.1.solution.SameResults t.1.solution ∨ t.1.solution = {}) := by
  cases h with
  | forget e w => exact ⟨rfl, .inr rfl⟩
  | _ => exact ⟨rfl, .inl ⟨rfl, rfl, rfl⟩⟩

/-! ## The direction -/

/-- The direction has become `value`: nothing has changed if it was that before, and otherwise the
solution is forgotten. -/
def Turned (value sense : Value) (solution : Solution) (s : Engine × Surroundings) : Prop :=
  (value.equals sense = .ok true ∧ Knows sense solution s) ∨
    (value.equals sense = .ok false ∧ Knows value {} s)

theorem setDirection_answered (value : Value) :
    Leads (Knows sense solution) (setDirection value)
      (Answered (Knows sense solution) (Turned value sense solution)) (Knows sense solution) := by
  refine engine_then fun s hs => ?_
  rw [hs.1]
  refine Leads.ofFault_then (fun _ h => h) fun same hsame => ?_
  cases same with
  | true => exact Leads.pure fun _ h => .inl ⟨rfl, .inl ⟨hsame, h⟩⟩
  | false =>
    refine Leads.ofFault_then (fun _ h => h) fun d _ => ?_
    have hnative : Leads (Knows sense solution) (ifNative (succeeds (.setDirection d)))
        (fun turned s => if turned then Knows sense solution s else Knows sense solution s)
        (Knows sense solution) := ifNative_leads (fun _ => succeeds_keeps _) knows_elsewhere
    exact ifNative_answered hnative fun s _ => .inl ⟨rfl, .inr ⟨hsame, rfl, rfl⟩⟩

/-- Of a whole number of the model only the direction can be set. -/
theorem setModelAttribute_answered (attr value : Value) :
    Leads (Knows sense solution) (setModelAttribute attr value)
      (Answered (Knows sense solution) (Turned value sense solution)) (Knows sense solution) := by
  refine recorded_answered knows_heedless rfl ?_
  refine Leads.ofFault_then (fun _ h => h) fun isSense _ => ?_
  cases isSense with
  | false => exact refused_answered _
  | true =>
    refine Leads.ofFault_then (fun _ h => h) fun fits _ => ?_
    cases fits with
    | false => exact refused_answered _
    | true => exact setDirection_answered value

/-! ## Solving -/

/-- Nothing has changed, or no objective is known. -/
def Unsolved (sense : Value) (solution : Solution) (s : Engine × Surroundings) : Prop :=
  Knows sense solution s ∨ s.1.solution.objective = none

theorem unsolved_heedless : Heedless (Unsolved sense solution) where
  record hc h := h.imp (knows_heedless.record hc) fun h => by
    unfold Engine.record
    split <;> exact h
  setInjected operation f h := h.imp (knows_heedless.setInjected operation f) fun h => by
    unfold Engine.setInjected
    split <;> exact h

theorem noObjective_indifferent : Indifferent fun s => s.1.solution.objective = none := by
  intro s t h hs
  rcases h.results with ⟨-, hsame | hnone⟩
  · exact hsame.objective.trans hs
  · rw [hnone]

/-- Solving natively forgets the solution first, and an objective comes last. -/
theorem solveNative_answered : Leads (Unsolved sense solution) solveNative
    (Answered (Unsolved sense solution) fun _ => True) (Unsolved sense solution) := by
  refine Leads.mono (P := fun _ => True) ?_ (fun _ _ => trivial) (fun _ _ h => h) fun _ h => .inr h
  -- each of the steps stores a solution without an objective, up to the last one
  have hset {P : Engine × Surroundings → Prop} {f : Engine → Solution}
      (hf : ∀ e, (f e).objective = none) :
      Leads P (change fun e => { e with solution := f e }) (fun _ s => s.1.solution.objective = none)
        fun s => s.1.solution.objective = none :=
    Leads.modify fun s _ => hf s.1
  refine (hset (f := fun _ => {}) fun _ => rfl).bind fun _ => ?_
  refine (Leads.of_maintains (callSolver_maintains (Indifferent.patient noObjective_indifferent) rfl)).bind fun reply => ?_
  refine (Leads.of_maintains solverInstance_maintains).bind fun i => Leads.ite (fun _ => ?_) ?_
  · exact (hset (f := fun _ => { status := i.outcome.status }) fun _ => rfl).bind fun _ =>
      Leads.pure fun s hs => .inr ⟨Value.truthy_refusal s.2.view .engineFailure, .inr hs⟩
  · exact fun _ _ _ => .inl ⟨rfl, trivial⟩

/-- Without success solving leaves everything as it was, or no objective. -/
theorem optimize_answered : Leads (Unsolved sense solution) optimize
    (Answered (Unsolved sense solution) fun _ => True) (Unsolved sense solution) := by
  refine recorded_answered unsolved_heedless rfl (engine_then fun s hs => ?_)
  split
  · exact refused_answered _
  · exact fun _ _ => .inl ⟨rfl, trivial⟩
  · exact fun _ _ => .inl ⟨rfl, trivial⟩
  · exact solveNative_answered

/-! ## Readers -/

/-- An answer that is passed on, since its status counts as false, is one of some values. -/
def Gives (V : Value → Prop) (a : Answer) (s : Engine × Surroundings) : Prop :=
  a.1.truthy s.2.view = .ok true ∨ V a.2

theorem readUnlessInjected_gives {I : Engine × Surroundings → Prop} (hI : Heedless I)
    {V : Value → Prop} (operation : String) {x : Acting Answer} (hx : Leads I x (Gives V) I) :
    Leads I (readUnlessInjected operation x) (Gives V) I :=
  unlessInjected_leads hI (fun _ h => h) operation (fun _ _ htrue _ => .inl htrue) hx

/-- No objective is read where none is known. -/
theorem getObjective_gives (attr : Value) (h : solution.objective = none) :
    Leads (Knows sense solution) (getObjective attr) (Gives fun _ => False)
      (Knows sense solution) := by
  refine readUnlessInjected_gives knows_heedless _ ?_
  refine Leads.ofFault_then (fun _ h => h) fun isObjective _ => ?_
  have hnone (r : Refusal) : Leads (Knows sense solution) (pure (notFound r) : Acting Answer)
      (Gives fun _ => False) (Knows sense solution) :=
    Leads.pure fun s _ => .inl (Value.truthy_refusal s.2.view r)
  cases isObjective with
  | false => exact hnone _
  | true =>
    refine engine_then fun s hs => ?_
    rw [hs.2, h]
    exact hnone .dataNotAvailable

/-- The status that is read is the one of the solution. -/
theorem getStatus_gives : Leads (Knows sense solution)
    (getModelAttribute (.text ModelAttribute.status.name))
    (Gives (· = .int solution.status)) (Knows sense solution) := by
  refine readUnlessInjected_gives knows_heedless _ ?_
  rw [attributeOf_name]
  rintro ⟨e, w⟩ ⟨-, rfl⟩
  exact .inr rfl

end Engine

end Milp

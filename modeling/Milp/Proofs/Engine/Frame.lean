import Milp.Engine.Add
import Milp.Engine.Attribute
import Milp.Engine.Solve
import Milp.Proofs.Action
import Milp.Proofs.Solver
set_option autoImplicit false

/-! # What the operations of an engine leave alone

Most operations of an engine change nothing of the model that it holds: they write the log of calls,
use up orders to fail, forget a solution, set parameters, write files, or call the native solver
without changing its model (`Aside`). Every operation but the additions, the change of the direction
and the solving maintains whatever such changes maintain (`Indifferent`), and all of these but the
end whatever they maintain as long as the engine is not told to finish (`Patient`). The way to an
operation takes no more than the log and the orders to fail (`Heedless`), and solving stores a
solution besides (`Solvable`). -/

namespace Milp

/-- The objective and the values are both known, or both not. -/
def Solution.Complete (s : Solution) : Prop := s.values.isSome = s.objective.isSome

/-- Whether a call tells the engine to finish. -/
def Call.isFinish : Call → Bool
  | .finish => true
  | _ => false

namespace Engine

open Milp.Action

/-- A change that concerns neither the stored columns and rows nor the direction. -/
inductive Aside : Engine × Surroundings → Engine × Surroundings → Prop
  | calls (e : Engine) (w : Surroundings) (cs : List Call) :
      Aside (e, w) ({ e with calls := cs }, w)
  | orders (e : Engine) (w : Surroundings) (fs gs : List InjectedFailure)
      (h : e.backend = .faulty fs) : Aside (e, w) ({ e with backend := .faulty gs }, w)
  | forget (e : Engine) (w : Surroundings) : Aside (e, w) (e.clearSolution, w)
  | iis (e : Engine) (w : Surroundings) (rows : Option (List Nat)) :
      Aside (e, w) ({ e with solution := { e.solution with iis := rows } }, w)
  | parameters (e : Engine) (w : Surroundings) (ps : List (Value × Value)) :
      Aside (e, w) ({ e with parameters := ps }, w)
  | finish (e : Engine) (w : Surroundings) (backend : Backend)
      (h : backend = e.backend ∨ backend = .native none) :
      Aside (e, w) ({ e with ended := true, backend }, w)
  | files (e : Engine) (w : Surroundings) (f : Files) : Aside (e, w) (e, { w with files := f })
  /-- A call of the engine's own instance that does not change its model. -/
  | call (e : Engine) (w : Surroundings) (i : Nat) (c : SolverCall)
      (h : e.backend = .native (some i)) (hc : c.isNeutral) :
      Aside (e, w) (e, { w with solver := (w.solver.call i c).2 })
  /-- Work on new instances. -/
  | scratch (e : Engine) (w : Surroundings) (s : Solver)
      (h : w.solver.SameBelow w.solver.instances.length s) :
      Aside (e, w) (e, { w with solver := s })

/-- What shows whether an engine was told to finish, and how often. -/
structure Ending where
  ended : Bool
  /-- How often according to the log. -/
  releases : Nat
  /-- Whether there is a log. -/
  logs : Bool
deriving DecidableEq

def ending (e : Engine) : Ending where
  ended := e.ended
  releases := e.calls.countP Call.isFinish
  logs := !e.isNative

/-- Changes aside make no difference to a property. -/
def Indifferent (I : Engine × Surroundings → Prop) : Prop :=
  ∀ {s t : Engine × Surroundings}, Aside s t → I s → I t

/-- Changes aside that do not tell the engine to finish make no difference to a property. -/
def Patient (I : Engine × Surroundings → Prop) : Prop :=
  ∀ {s t : Engine × Surroundings}, Aside s t → t.1.ending = s.1.ending → I s → I t

/-- The log of calls, but for the end, and the orders to fail make no difference to a property. -/
structure Heedless (I : Engine × Surroundings → Prop) : Prop where
  record {e : Engine} {w : Surroundings} {c : Call} (hc : c.isFinish = false) (h : I (e, w)) :
    I (e.record c, w)
  setInjected {e : Engine} {w : Surroundings} (operation : String) (f : Option InjectedFailure)
    (h : I (e, w)) : I (e.setInjected operation f, w)

/-- Forgetting the solution leads from one property to another one. -/
def Forgets (J K : Engine × Surroundings → Prop) : Prop :=
  ∀ (e : Engine) (w : Surroundings), J (e, w) → K (e.clearSolution, w)

/-- What is known about a solution makes no difference to a property. -/
def Solvable (I : Engine × Surroundings → Prop) : Prop :=
  ∀ {e : Engine} {w : Surroundings} {s : Solution}, s.Complete → I (e, w) →
    I ({ e with solution := s }, w)

variable {I : Engine × Surroundings → Prop}

theorem Indifferent.patient (hI : Indifferent I) : Patient I := fun ha _ => hI ha

theorem patient_ending (v : Ending) : Patient fun s => s.1.ending = v := fun _ h hs => h.trans hs

theorem Indifferent.record (hI : Indifferent I) {e : Engine} {w : Surroundings} (c : Call)
    (h : I (e, w)) : I (e.record c, w) := by
  unfold Engine.record
  split
  · exact h
  · exact hI (.calls e w _) h

theorem ending_record (e : Engine) {c : Call} (hc : c.isFinish = false) :
    (e.record c).ending = e.ending := by
  unfold Engine.record
  split
  · rfl
  · show Ending.mk e.ended ((e.calls ++ [c]).countP Call.isFinish) (!e.isNative) = _
    rw [List.countP_append, List.countP_singleton, hc]
    rfl

theorem ending_orders {e : Engine} {fs : List InjectedFailure} (h : e.backend = .faulty fs)
    (gs : List InjectedFailure) : { e with backend := .faulty gs }.ending = e.ending := by
  unfold ending isNative
  rw [h]

namespace Patient

variable (hI : Patient I) {e : Engine} {w : Surroundings}
include hI

theorem record {c : Call} (hc : c.isFinish = false) (h : I (e, w)) : I (e.record c, w) := by
  have hending := ending_record e hc
  revert hending
  unfold Engine.record
  split
  · exact fun _ => h
  · exact fun hending => hI (.calls e w _) hending h

theorem setInjected (operation : String) (f : Option InjectedFailure) (h : I (e, w)) :
    I (e.setInjected operation f, w) := by
  unfold Engine.setInjected
  split
  · rename_i fs hfs
    exact hI (.orders e w fs _ hfs) (ending_orders hfs _) h
  · exact h

theorem heedless : Heedless I := ⟨hI.record, hI.setInjected⟩

theorem forgets : Forgets I I := fun e w => hI (.forget e w) rfl

theorem failOn (f : InjectedFailure) (h : I (e, w)) : I (e.failOn f, w) := by
  unfold Engine.failOn
  split
  · rename_i fs hfs
    exact hI (.orders e w fs _ hfs) (ending_orders hfs _) h
  · exact h

theorem clearFailures (h : I (e, w)) : I (e.clearFailures, w) := by
  unfold Engine.clearFailures
  split
  · rename_i fs hfs
    exact hI (.orders e w fs _ hfs) (ending_orders hfs _) h
  · exact h

end Patient

theorem Indifferent.heedless (hI : Indifferent I) : Heedless I := Patient.heedless hI.patient

theorem Indifferent.forgets (hI : Indifferent I) : Forgets I I := Patient.forgets hI.patient

/-! ## The basic actions -/

theorem engine_maintains : Maintains I engine := Maintains.get_bind fun _ h => h

theorem change_maintains {f : Engine → Engine} (h : ∀ e w, I (e, w) → I (f e, w)) :
    Maintains I (change f) := Maintains.modify fun s hs => h s.1 s.2 hs

theorem isTrue_maintains (v : Value) : Maintains I (isTrue v) :=
  Maintains.get_bind fun s hs => (Maintains.ofFault _) s hs

theorem injectedCode_maintains (hI : Heedless I) (operation : String) :
    Maintains I (injectedCode operation) := by
  refine engine_maintains.bind fun e => ?_
  split
  · exact Maintains.pure _
  · refine (Maintains.ofExcept _).bind fun next =>
      (change_maintains ?_).bind fun _ => Maintains.pure _
    exact fun e w => hI.setInjected operation next

theorem unlessInjected_maintains {α : Type} (hI : Heedless I) (operation : String)
    (refuse : Value → α) {x : Acting α} (hx : Maintains I x) :
    Maintains I (unlessInjected operation refuse x) := by
  refine (injectedCode_maintains hI operation).bind fun code =>
    (isTrue_maintains code).bind fun b => ?_
  cases b
  · exact hx
  · exact Maintains.pure _

theorem record_maintains (hI : Heedless I) {c : Call} (hc : c.isFinish = false) :
    Maintains I (change (·.record c)) := change_maintains fun _ _ => hI.record hc

theorem recorded_maintains (hI : Heedless I) {c : Call} (hc : c.isFinish = false)
    {x : Acting Value} (hx : Maintains I x) : Maintains I (recorded c x) :=
  (record_maintains hI hc).bind fun _ => unlessInjected_maintains hI _ _ hx

theorem clearSolution_maintains (hI : Patient I) : Maintains I (change clearSolution) :=
  change_maintains fun e w => hI (.forget e w) rfl

/-! ## The native solver -/

/-- A call reaches the native solver as long as the engine has an instance of it. -/
theorem perform_callSolver (c : SolverCall) (e : Engine) (w : Surroundings) :
    (callSolver c).perform (e, w) =
      match e.backend with
      | .native (some i) =>
        (.ok (w.solver.call i c).1, e, { w with solver := (w.solver.call i c).2 })
      | _ => (.error (.fault .missingMember), e, w) := by
  show (match e.backend with
    | .native (some i) => _
    | _ => throw (.fault .missingMember) : Acting Reply).perform (e, w) = _
  split <;> rfl

theorem callSolver_maintains (hI : Patient I) {c : SolverCall} (hc : c.isNeutral) :
    Maintains I (callSolver c) := by
  rintro ⟨e, w⟩ h
  rw [perform_callSolver]
  split
  · rename_i i hi
    exact hI (.call e w i c hi hc) rfl h
  · exact h

theorem perform_solverInstance (e : Engine) (w : Surroundings) :
    solverInstance.perform (e, w) =
      match e.backend with
      | .native (some i) => (.ok (w.solver.instance? i), e, w)
      | _ => (.error (.fault .missingMember), e, w) := by
  obtain ⟨backend⟩ := e
  rcases backend with _ | _ | _ | (_ | i) <;> rfl

theorem solverInstance_maintains : Maintains I solverInstance := by
  rintro ⟨e, w⟩ h
  rw [perform_solverInstance]
  split <;> exact h

/-! ## Scratch instances -/

/-- Nothing has changed since a state but instances of the native solver that came later. -/
structure OnlyScratch (s t : Engine × Surroundings) : Prop where
  rest : t = (s.1, { s.2 with solver := t.2.solver })
  same : s.2.solver.SameBelow s.2.solver.instances.length t.2.solver

namespace OnlyScratch

variable {s t : Engine × Surroundings}

protected theorem refl (s : Engine × Surroundings) : OnlyScratch s s := ⟨rfl, .refl _ _⟩

theorem holds (hI : Patient I) (h : OnlyScratch s t) (hs : I s) : I t := by
  rw [h.rest]
  exact hI (.scratch s.1 s.2 t.2.solver h.same) rfl hs

/-- One more change of the native solver that spares the instances from before. -/
theorem solver (h : OnlyScratch s t) {solver : Solver}
    (hs : t.2.solver.SameBelow s.2.solver.instances.length solver) :
    OnlyScratch s (t.1, { t.2 with solver }) := by
  refine ⟨?_, h.same.trans hs⟩
  rw [h.rest]

theorem call (h : OnlyScratch s t) {i : Nat} (hi : s.2.solver.instances.length ≤ i)
    (c : SolverCall) : OnlyScratch s (t.1, { t.2 with solver := (t.2.solver.call i c).2 }) :=
  h.solver (.call hi c _)

end OnlyScratch

theorem callScratch_onlyScratch {s : Engine × Surroundings} {i : Nat}
    (hi : s.2.solver.instances.length ≤ i) (c : SolverCall) :
    Maintains (OnlyScratch s) (callScratch i c) :=
  Maintains.get_bind fun _ ht => ht.call hi c

/-- A scratch instance is a new one. -/
theorem perform_silentSolver {s t : Engine × Surroundings} (h : OnlyScratch s t) :
    ∃ i u, silentSolver.perform t = (.ok i, u) ∧ s.2.solver.instances.length ≤ i ∧
      OnlyScratch s u := by
  have hi : s.2.solver.instances.length ≤ t.2.solver.instances.length := h.same.length
  have hu := (h.solver (.create hi)).call hi (.setOption (.text "output_flag") (.bool false))
  exact ⟨_, _, rfl, hi, hu⟩

theorem addScratchRows_onlyScratch {s : Engine × Surroundings} {i : Nat}
    (hi : s.2.solver.instances.length ≤ i) (rows : List Row) (rs : List Nat) :
    Maintains (OnlyScratch s) (addScratchRows i rows rs) := by
  induction rs with
  | nil => exact Maintains.pure _
  | cons r rest ih =>
    unfold addScratchRows
    split
    · exact ih
    · exact (Maintains.ofFault _).bind fun c => (callScratch_onlyScratch hi c).bind fun _ => ih

theorem isFeasible_onlyScratch (s : Engine × Surroundings) (rows : List Nat) :
    Maintains (OnlyScratch s) (isFeasible rows) := by
  refine engine_maintains.bind fun e => ?_
  intro t ht
  obtain ⟨i, u, hu, hi, hsu⟩ := perform_silentSolver ht
  rw [perform_bind_of_ok hu]
  -- whether or not there are columns to be passed on, the rows follow in the same way
  have hrows : Maintains (OnlyScratch s) (do
      addScratchRows i e.rows rows
      let _ ← callScratch i .run
      let t ← get
      return !ModelState.isInfeasible (t.2.solver.instance? i).outcome.status : Acting Bool) :=
    (addScratchRows_onlyScratch hi _ _).bind fun _ =>
      (callScratch_onlyScratch hi _).bind fun _ => Maintains.get_bind fun _ h => h
  refine Maintains.ite ((callScratch_onlyScratch hi _).bind fun _ => ?_) hrows u hsu
  exact Maintains.ite ((callScratch_onlyScratch hi _).bind fun _ => hrows) hrows

theorem isFeasible_maintains (hI : Patient I) (rows : List Nat) :
    Maintains I (isFeasible rows) := fun s hs =>
  (isFeasible_onlyScratch s rows s (.refl s)).holds hI hs

/-! ## Solving -/

theorem updateModel_maintains (hI : Patient I) : Maintains I updateModel := by
  refine engine_maintains.bind fun e => ?_
  split
  · exact Maintains.pure _
  · exact (record_maintains hI.heedless rfl).bind fun _ => injectedCode_maintains hI.heedless _

theorem solution_maintains (hS : Solvable I) {f : Engine → Solution}
    (hf : ∀ e, (f e).Complete) : Maintains I (change fun e => { e with solution := f e }) :=
  change_maintains fun e _ => hS (hf e)

theorem zeroSolution_complete (columns : List Column) (iis : Option (List Nat)) :
    (zeroSolution columns iis).Complete := rfl

theorem solutionOf_complete (o : Outcome) : (solutionOf o).Complete := by
  unfold solutionOf
  split <;> rfl

theorem solveNearestToZero_maintains (hS : Solvable I) : Maintains I solveNearestToZero :=
  (solution_maintains hS fun _ => zeroSolution_complete _ _).bind fun _ => Maintains.pure _

theorem setIis_maintains (hI : Patient I) (rows : Option (List Nat)) :
    Maintains I (setIis rows) :=
  change_maintains fun e w => hI (.iis e w rows) rfl

theorem solveNative_maintains (hI : Patient I) (hS : Solvable I) :
    Maintains I solveNative := by
  refine (clearSolution_maintains hI).bind fun _ => (callSolver_maintains hI rfl).bind fun reply =>
    solverInstance_maintains.bind fun i => ?_
  have hstored {s : Solution} (hs : s.Complete) (status : Value) : Maintains I (do
      change fun e => { e with solution := s }
      return status : Acting Value) :=
    (solution_maintains hS fun _ => hs).bind fun _ => Maintains.pure _
  exact Maintains.ite (hstored (s := { status := i.outcome.status }) rfl _)
    (hstored (solutionOf_complete _) _)

theorem optimize_maintains (hI : Patient I) (hS : Solvable I) : Maintains I optimize := by
  refine recorded_maintains hI.heedless rfl (engine_maintains.bind fun e => ?_)
  split
  · exact Maintains.pure _
  · exact solveNearestToZero_maintains hS
  · exact solveNearestToZero_maintains hS
  · exact solveNative_maintains hI hS

theorem deletionFilter_maintains (hI : Patient I) (kept rs : List Nat) :
    Maintains I (deletionFilter kept rs) := by
  induction rs generalizing kept with
  | nil => exact Maintains.pure _
  | cons r rest ih =>
    unfold deletionFilter
    exact (isFeasible_maintains hI _).bind fun b => Maintains.ite (ih _) (ih _)

theorem computeIis_maintains (hI : Patient I) : Maintains I computeIis := by
  refine recorded_maintains hI.heedless rfl (engine_maintains.bind fun e => ?_)
  split
  · refine engine_maintains.bind fun e => (isFeasible_maintains hI _).bind fun b => ?_
    split
    · exact (setIis_maintains hI _).bind fun _ => Maintains.pure _
    · exact (deletionFilter_maintains hI _ _).bind fun _ =>
        (setIis_maintains hI _).bind fun _ => Maintains.pure _
  · exact Maintains.pure _

/-! ## Attributes -/

/-- What changes nothing at all unless it is made to fail. -/
def Reads (x : Acting Answer) : Prop :=
  ∃ operation y, (∀ {J : Engine × Surroundings → Prop}, Maintains J y) ∧
    x = readUnlessInjected operation y

theorem Reads.maintains {x : Acting Answer} (hx : Reads x) (hI : Patient I) : Maintains I x := by
  obtain ⟨operation, y, hy, rfl⟩ := hx
  exact unlessInjected_maintains hI.heedless _ _ hy

theorem getModelAttribute_reads (attr : Value) : Reads (getModelAttribute attr) := by
  refine ⟨_, _, (Maintains.ofFault _).bind fun a => ?_, rfl⟩
  split
  · exact engine_maintains.bind fun _ => Maintains.pure _
  · exact Maintains.pure _

theorem getObjective_reads (attr : Value) : Reads (getObjective attr) := by
  refine ⟨_, _, (Maintains.ofFault _).bind fun b =>
    Maintains.ite (Maintains.pure _) (engine_maintains.bind fun e => ?_), rfl⟩
  split
  · exact Maintains.pure _
  · exact Maintains.pure _

theorem getVarAttribute_reads (attr index : Value) : Reads (getVarAttribute attr index) :=
  ⟨_, _, engine_maintains.bind fun _ => (Maintains.ofExcept _).bind fun _ =>
    Maintains.ite (Maintains.pure _) (Maintains.ofFault _), rfl⟩

theorem getConstraintAttribute_reads (attr index : Value) :
    Reads (getConstraintAttribute attr index) :=
  ⟨_, _, engine_maintains.bind fun _ => (Maintains.ofExcept _).bind fun _ =>
    Maintains.ite (Maintains.pure _) (Maintains.ofFault _), rfl⟩

/-- Setting an attribute does no more than setting the direction. -/
theorem setModelAttribute_maintains (hI : Patient I) (attr : Value) {value : Value}
    (hd : Maintains I (setDirection value)) : Maintains I (setModelAttribute attr value) :=
  recorded_maintains hI.heedless rfl <| (Maintains.ofFault _).bind fun _ =>
    Maintains.ite ((Maintains.ofFault _).bind fun _ => Maintains.ite hd (Maintains.pure _))
      (Maintains.pure _)

/-! ## Parameters, files and the end -/

theorem storeParameter_maintains (hI : Patient I) (name value : Value) :
    Maintains I (storeParameter name value) :=
  change_maintains fun e w => hI (.parameters e w _) rfl

theorem setNativeParameter_maintains (hI : Patient I) (name value : Value) :
    Maintains I (setNativeParameter name value) := by
  have hset (option v : Value) : Maintains I (do
      if (← callSolver (.setOption option v)) = .error then return refused .invalidArgument
      storeParameter name v
      return accepted : Acting Value) :=
    (callSolver_maintains hI rfl).bind fun _ => Maintains.ite (Maintains.pure _)
      ((storeParameter_maintains hI _ _).bind fun _ => Maintains.pure _)
  -- only the option that silences the output has its value read as a truth value
  have hvalue : Maintains I (Value.bool <$> isTrue value : Acting Value) := by
    rw [← bind_pure_comp]
    exact (isTrue_maintains value).bind fun _ => Maintains.pure _
  have hoption : Maintains I (do
      let v ← if (optionName name).same (.text "output_flag") then .bool <$> isTrue value
        else pure value
      if (← callSolver (.setOption (optionName name) v)) = .error then
        return refused .invalidArgument
      storeParameter name v
      return accepted : Acting Value) :=
    Maintains.ite (hvalue.bind fun v => hset _ v) (hset _ value)
  exact Maintains.ite ((Maintains.throw _).bind fun _ => hoption) hoption

theorem setParameter_maintains (hI : Patient I) (name value : Value) :
    Maintains I (setParameter name value) :=
  engine_maintains.bind fun _ => Maintains.ite (setNativeParameter_maintains hI _ _) <|
    recorded_maintains hI.heedless rfl <| Maintains.ite (Maintains.throw _) <|
      (storeParameter_maintains hI _ _).bind fun _ => Maintains.pure _

/-- The files make no difference to a property. -/
def Fileless (I : Engine × Surroundings → Prop) : Prop :=
  ∀ (e : Engine) (w : Surroundings) (files : Files), I (e, w) → I (e, { w with files })

theorem Patient.fileless (hI : Patient I) : Fileless I := fun e w files => hI (.files e w files) rfl

theorem writePrinted_maintains (hI : Fileless I) (names : List String) :
    Maintains I (writePrinted names) := by
  rintro ⟨e, w⟩ h
  unfold writePrinted
  rw [perform_get_bind]
  dsimp only
  generalize e.printed.text w.view (.int 1) = printing
  have hw := hI e w (w.files.write names printing.1) h
  rw [perform_set_bind]
  cases printing.2 with
  | some f => exact hw
  | none => exact hw

theorem writeFile_maintains (hI : Fileless I) (path : String) :
    Maintains I (writeFile path) := by
  rintro ⟨e, w⟩ h
  simp only [writeFile, perform_get_bind]
  split
  · exact writePrinted_maintains hI _ _ h
  · exact h
  · exact h

theorem writeLp_maintains (hI : Fileless I) (file : Value) : Maintains I (writeLp file) := by
  refine Maintains.get_bind fun s hs => Maintains.ite (Maintains.pure _) ?_ s hs
  split
  · exact writeFile_maintains hI _
  · exact Maintains.throw _

theorem write_maintains (hI : Patient I) (file : Value) : Maintains I (write file) := by
  have hnative : Maintains I (writeNative file) := Maintains.get_bind fun s hs =>
    ((callSolver_maintains hI rfl).bind fun _ => Maintains.ite (Maintains.pure _)
      (Maintains.pure _)) s hs
  exact engine_maintains.bind fun _ =>
    Maintains.ite hnative (recorded_maintains hI.heedless rfl (writeLp_maintains hI.fileless file))

theorem finish_maintains (hI : Indifferent I) : Maintains I finish := by
  refine (change_maintains fun e w h => ?_).bind fun _ => Maintains.pure _
  refine hI (.finish _ w _ ?_) (hI.record .finish h)
  split
  · exact Or.inr rfl
  · exact Or.inl rfl

end Engine

end Milp

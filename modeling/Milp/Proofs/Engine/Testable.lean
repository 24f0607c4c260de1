import Milp.Proofs.Engine.Addition
import Milp.Proofs.Except
import Mathlib.Logic.Relation
set_option autoImplicit false

/-! # Rows that can be tested

The native solver is given rows a second time when an irreducible infeasible subsystem is looked for.
Nothing can go wrong then, because a row is stored only after its positions were given to the native
solver (`Testable`). This is so for every engine that was made with the native solver behind it,
however it has been used since (`testable_of_uses`). -/

namespace Milp

open Milp.Action

namespace Engine

/-- The native solver can be given some positions. -/
def Passable (indices : List Value) : Prop := ∀ v ∈ indices, ∃ i, arrayPosition v = .ok i

/-- An engine that has the native solver behind it, or had it until it ended, with rows that the
native solver can be given. -/
structure Testable (e : Engine) : Prop where
  native : e.isNative = true
  rows : ∀ r ∈ e.rows, Passable r.indices

/-! ## What makes no difference -/

theorem Testable.of_rows {e f : Engine} (h : e.Testable) (hnative : f.isNative = e.isNative)
    (hrows : f.rows = e.rows) : f.Testable :=
  ⟨hnative.trans h.native, fun r hr => h.rows r (hrows ▸ hr)⟩

theorem testable_indifferent : Indifferent fun s => s.1.Testable := by
  intro s t ha h
  cases ha with
  | orders e w fs gs hb =>
    have hnative := h.native
    rw [isNative, hb] at hnative
    cases hnative
  | finish e w backend hb =>
    rcases hb with rfl | rfl
    · exact h.of_rows rfl rfl
    · exact h.of_rows h.native.symm rfl
  | _ => exact h.of_rows rfl rfl

theorem testable_patient : Patient fun s => s.1.Testable :=
  Indifferent.patient testable_indifferent

theorem testable_solvable : Solvable fun s => s.1.Testable := fun _ h => h.of_rows rfl rfl

theorem list_maintains {I : Engine × Surroundings → Prop} (v : Value) : Maintains I (list v) :=
  Maintains.get_bind fun s hs => (Maintains.ofFault _) s hs

theorem finishAddition_testable : Maintains (fun s => s.1.Testable) finishAddition :=
  (clearSolution_maintains testable_patient).bind fun _ => Maintains.pure _

/-! ## Columns -/

theorem pushColumn_testable (c : Column) :
    Maintains (fun s => s.1.Testable) (change (·.pushColumn c)) :=
  change_maintains fun _ _ h => h.of_rows rfl rfl

theorem addVar_testable (objective lower upper kind name : Value) :
    Maintains (fun s => s.1.Testable) (addVar objective lower upper kind name) := by
  refine recorded_maintains testable_patient.heedless rfl
    ((Maintains.ofFault _).bind fun kind => ?_)
  split
  · exact Maintains.pure _
  · refine (ifNative_maintains (fun _ => addNativeColumn_keeps _ _ _ _ _) fun _ _ _ h => h).bind
      fun _ => Maintains.ite (Maintains.pure _) ?_
    exact (Maintains.ofFault _).bind fun c => (pushColumn_testable c).bind fun _ =>
      finishAddition_testable

theorem storeColumns_testable (ds : List ColumnData) :
    Maintains (fun s => s.1.Testable) (storeColumns ds) := by
  induction ds with
  | nil => exact Maintains.pure _
  | cons d rest ih =>
    exact (Maintains.ofFault _).bind fun c => (pushColumn_testable c).bind fun _ => ih

theorem addVars_testable (count objectives lowers uppers kinds names : Value) :
    Maintains (fun s => s.1.Testable) (addVars count objectives lowers uppers kinds names) := by
  refine (list_maintains _).bind fun objectives => (list_maintains _).bind fun lowers =>
    (list_maintains _).bind fun uppers => (list_maintains _).bind fun kinds =>
    (list_maintains _).bind fun names => ?_
  refine recorded_maintains testable_patient.heedless rfl
    ((Maintains.ofExcept _).bind fun kinds => ?_)
  split
  · exact Maintains.pure _
  · refine (Maintains.ofExcept _).bind fun names => ?_
    refine (ifNative_maintains (fun _ => addNativeColumns_keeps _ _ _ _ _) fun _ _ _ h => h).bind
      fun _ => Maintains.ite (Maintains.pure _) ?_
    exact (Maintains.ofFault _).bind fun _ => (storeColumns_testable _).bind fun _ =>
      finishAddition_testable

/-! ## Rows -/

/-- Positions that make up an array are such that each of them can be in one. -/
theorem passable_of_inArray {vs : List Value} {is : List Int}
    (h : inArray arrayPosition vs = .ok is) : Passable vs := by
  intro v hv
  obtain ⟨_, -, h⟩ := bind_eq_ok_iff.1 h
  split at h
  · cases h
  · obtain ⟨k, hk⟩ := List.mem_iff_getElem?.1 hv
    obtain ⟨i, hi, -⟩ := getElem?_of_mapM h hk
    exact ⟨i, hi⟩

theorem rowOf_indices {indices values : List Value} {sense : Sense} {bound name : Value} {r : Row}
    (h : rowOf indices values sense bound name = .ok r) : r.indices = indices := by
  obtain ⟨_, -, h⟩ := bind_eq_ok_iff.1 h
  obtain ⟨_, -, h⟩ := bind_eq_ok_iff.1 h
  cases h
  rfl

theorem pushRow_testable {r : Row} (hr : Passable r.indices) :
    Maintains (fun s => s.1.Testable) (change (·.pushRow r)) := by
  refine change_maintains fun e w h => ⟨h.native, fun q hq => ?_⟩
  rcases List.mem_append.1 hq with hq | hq
  · exact h.rows q hq
  · cases List.mem_singleton.1 hq
    exact hr

/-- What an addition does once the native solver has taken it may rely on what it was given. -/
theorem ifNative_passes {indices : List Value} {native : Acting Bool} {store : Acting Value}
    (hnative : Leads (fun s => s.1.Testable) native
      (fun _ s => Passable indices ∧ s.1.Testable) fun s => s.1.Testable)
    (hstore : Passable indices → Maintains (fun s => s.1.Testable) store) :
    Maintains (fun s => s.1.Testable) (do
      if !(← ifNative native) then return refused .engineFailure
      store) := by
  have hstored : Leads (fun s => Passable indices ∧ s.1.Testable) store
      (fun _ s => s.1.Testable) fun s => s.1.Testable :=
    Leads.of_fact fun h => .of_maintains (hstore h)
  have hifNative : Leads (fun s => s.1.Testable) (ifNative native)
      (fun _ s => Passable indices ∧ s.1.Testable) fun s => s.1.Testable := by
    rintro ⟨e, w⟩ h
    have hperform : (ifNative native).perform (e, w) = native.perform (e, w) := by
      show (if e.isNative then native else return true : Acting Bool).perform (e, w) = _
      rw [if_pos h.native]
    rw [hperform]
    exact hnative (e, w) h
  refine Leads.maintains (hifNative.bind fun added => ?_)
  cases added
  · exact Leads.pure fun _ h => h.2
  · exact hstored

/-- The native solver is not called before it is clear what it is given. -/
theorem passes_of_keeps {indices : List Value} {x : Acting Bool} (hx : ∀ e, Maintains (Kept e) x)
    (h : Leads (fun _ => True) x (fun _ _ => Passable indices) fun _ => True) :
    Leads (fun s => s.1.Testable) x (fun _ s => Passable indices ∧ s.1.Testable)
      fun s => s.1.Testable := by
  rintro ⟨e, w⟩ he
  have hkept : Kept e (x.perform (e, w)).2 := hx e (e, w) rfl
  have hpassable := h (e, w) trivial
  generalize x.perform (e, w) = r at hkept hpassable ⊢
  obtain ⟨outcome, f, v⟩ := r
  cases (hkept : f = e)
  cases outcome with
  | error _ => exact he
  | ok _ => exact ⟨hpassable, he⟩

/-- A call is made only after its arguments were read. -/
theorem call_passes {indices : List Value} {call : Except Fault SolverCall}
    {native : SolverCall → Acting Bool} (h : ∀ c, call = .ok c → Passable indices) :
    Leads (fun _ => True) (ofFault call >>= native) (fun _ _ => Passable indices) fun _ => True := by
  refine Leads.ofFault_then (fun _ h => h) fun c hc => ?_
  exact (Leads.of_maintains fun _ _ => trivial).mono (fun _ h => h) (fun _ _ _ => h c hc)
    fun _ h => h

theorem addNativeRow_passes (indices values : List Value) (sense : Sense) (bound name : Value) :
    Leads (fun _ => True) (addNativeRow indices values sense bound name)
      (fun _ _ => Passable indices) fun _ => True := by
  refine Leads.bind (Q := fun _ _ => True) (Leads.of_maintains solverInstance_maintains)
    fun _ => call_passes fun c hc => ?_
  obtain ⟨is, his, -⟩ := bind_eq_ok_iff.1 hc
  exact passable_of_inArray his

theorem addConstraint_testable (size indices values sense bound name : Value) :
    Maintains (fun s => s.1.Testable) (addConstraint size indices values sense bound name) := by
  refine (list_maintains _).bind fun indices => (list_maintains _).bind fun values => ?_
  refine recorded_maintains testable_patient.heedless rfl
    ((Maintains.ofFault _).bind fun sense => ?_)
  split
  · exact Maintains.pure _
  · refine engine_maintains.bind fun e => (Maintains.ofExcept _).bind fun _ =>
      Maintains.ite (Maintains.pure _) ?_
    refine ifNative_passes (passes_of_keeps (fun _ => addNativeRow_keeps _ _ _ _ _)
      (addNativeRow_passes _ _ _ _ _)) fun hindices => ?_
    refine Leads.maintains (Leads.ofFault_then (fun _ h => h) fun r hr => .of_maintains ?_)
    rw [← rowOf_indices hr] at hindices
    exact (pushRow_testable hindices).bind fun _ => finishAddition_testable

theorem addNativeRows_passes (begins indices values : List Value) (senses : List Sense)
    (bounds names : List Value) :
    Leads (fun _ => True) (addNativeRows begins indices values senses bounds names)
      (fun _ _ => Passable indices) fun _ => True := by
  refine Leads.bind (Q := fun _ _ => True) (Leads.of_maintains solverInstance_maintains)
    fun _ => call_passes fun c hc => ?_
  obtain ⟨_, -, hc⟩ := bind_eq_ok_iff.1 hc
  obtain ⟨_, -, hc⟩ := bind_eq_ok_iff.1 hc
  obtain ⟨_, -, hc⟩ := bind_eq_ok_iff.1 hc
  obtain ⟨is, his, -⟩ := bind_eq_ok_iff.1 hc
  exact passable_of_inArray his

/-- The positions of a row of a batch are among those of the batch. -/
theorem mem_of_row {d : RowData} {indices values : List Value} {r : Row}
    (h : d.row indices values = .ok r) : ∀ v ∈ r.indices, v ∈ indices := by
  intro v hv
  obtain ⟨taken, htaken, h⟩ := bind_eq_ok_iff.1 h
  obtain ⟨_, -, h⟩ := bind_eq_ok_iff.1 h
  rw [rowOf_indices h] at hv
  obtain ⟨a, -, htaken⟩ := bind_eq_ok_iff.1 htaken
  obtain ⟨b, -, htaken⟩ := bind_eq_ok_iff.1 htaken
  cases htaken
  exact List.mem_of_mem_drop (List.mem_of_mem_take hv)

theorem storeRows_testable {indices : List Value} (h : Passable indices) (values : List Value)
    (ds : List RowData) :
    Maintains (fun s => s.1.Testable) (storeRows indices values ds) := by
  induction ds with
  | nil => exact Maintains.pure _
  | cons d rest ih =>
    refine Leads.maintains (Leads.ofFault_then (fun _ h => h) fun r hr => .of_maintains ?_)
    exact (pushRow_testable fun v hv => h v (mem_of_row hr v hv)).bind fun _ => ih

theorem addConstraints_testable (count size begins indices values senses bounds names : Value) :
    Maintains (fun s => s.1.Testable)
      (addConstraints count size begins indices values senses bounds names) := by
  refine (list_maintains _).bind fun begins => (list_maintains _).bind fun indices =>
    (list_maintains _).bind fun values => (list_maintains _).bind fun senses =>
    (list_maintains _).bind fun bounds => (list_maintains _).bind fun names => ?_
  refine recorded_maintains testable_patient.heedless rfl
    ((Maintains.ofExcept _).bind fun senses => ?_)
  split
  · exact Maintains.pure _
  · refine engine_maintains.bind fun e => (Maintains.ofExcept _).bind fun _ =>
      Maintains.ite (Maintains.pure _) ((Maintains.ofExcept _).bind fun names => ?_)
    refine ifNative_passes (passes_of_keeps (fun _ => addNativeRows_keeps _ _ _ _ _ _)
      (addNativeRows_passes _ _ _ _ _ _)) fun hindices => ?_
    exact (Maintains.ofFault _).bind fun _ => (storeRows_testable hindices _ _).bind fun _ =>
      finishAddition_testable

/-! ## Uses -/

/-- Something is asked of an engine itself, with whatever arguments, or happens elsewhere. -/
inductive Use (s : Engine × Surroundings) : Engine × Surroundings → Prop
  | addVar (objective lower upper kind name : Value) :
      Use s ((addVar objective lower upper kind name).perform s).2
  | addVars (count objectives lowers uppers kinds names : Value) :
      Use s ((addVars count objectives lowers uppers kinds names).perform s).2
  | addConstraint (size indices values sense bound name : Value) :
      Use s ((addConstraint size indices values sense bound name).perform s).2
  | addConstraints (count size begins indices values senses bounds names : Value) :
      Use s ((addConstraints count size begins indices values senses bounds names).perform s).2
  | updateModel : Use s (updateModel.perform s).2
  | optimize : Use s (optimize.perform s).2
  | computeIis : Use s (computeIis.perform s).2
  | getModelAttribute (attr : Value) : Use s ((getModelAttribute attr).perform s).2
  | getObjective (attr : Value) : Use s ((getObjective attr).perform s).2
  | getVarAttribute (attr index : Value) : Use s ((getVarAttribute attr index).perform s).2
  | getConstraintAttribute (attr index : Value) :
      Use s ((getConstraintAttribute attr index).perform s).2
  | setModelAttribute (attr value : Value) : Use s ((setModelAttribute attr value).perform s).2
  | setParameter (name value : Value) : Use s ((setParameter name value).perform s).2
  | write (file : Value) : Use s ((write file).perform s).2
  | finish : Use s (finish.perform s).2
  | failOn (f : InjectedFailure) : Use s (s.1.failOn f, s.2)
  | clearFailures : Use s (s.1.clearFailures, s.2)
  | clearCalls : Use s ({ s.1 with calls := [] }, s.2)
  | elsewhere (w : Surroundings) : Use s (s.1, w)

theorem Use.testable {s t : Engine × Surroundings} (h : Use s t) (hs : s.1.Testable) :
    t.1.Testable := by
  have hI : Patient fun s => s.1.Testable := testable_patient
  cases h with
  | addVar objective lower upper kind name => exact addVar_testable _ _ _ _ _ s hs
  | addVars count objectives lowers uppers kinds names =>
    exact addVars_testable _ _ _ _ _ _ s hs
  | addConstraint size indices values sense bound name =>
    exact addConstraint_testable _ _ _ _ _ _ s hs
  | addConstraints count size begins indices values senses bounds names =>
    exact addConstraints_testable _ _ _ _ _ _ _ _ s hs
  | updateModel => exact updateModel_maintains hI s hs
  | optimize => exact optimize_maintains hI testable_solvable s hs
  | computeIis => exact computeIis_maintains hI s hs
  | getModelAttribute attr => exact (getModelAttribute_reads _).maintains hI s hs
  | getObjective attr => exact (getObjective_reads _).maintains hI s hs
  | getVarAttribute attr index => exact (getVarAttribute_reads _ _).maintains hI s hs
  | getConstraintAttribute attr index => exact (getConstraintAttribute_reads _ _).maintains hI s hs
  | setModelAttribute attr value =>
    have hdirection := setDirection_maintains hI (fun _ _ _ h => h)
      (fun _ _ _ h => h.of_rows rfl rfl) value
    exact setModelAttribute_maintains hI attr hdirection s hs
  | setParameter name value => exact setParameter_maintains hI _ _ s hs
  | write file => exact write_maintains hI _ s hs
  | finish => exact finish_maintains testable_indifferent s hs
  | failOn f => exact hI.failOn f hs
  | clearFailures => exact hI.clearFailures hs
  | clearCalls => exact testable_indifferent (.calls s.1 s.2 []) hs
  | elsewhere w => exact hs

/-- However an engine with the native solver behind it is used, its rows can be tested. -/
theorem testable_of_uses {modelName : Value} {w w' : Surroundings} {e : Engine}
    (h : (createNative modelName).perform w = (.ok e, w')) {s : Engine × Surroundings}
    (hs : Relation.ReflTransGen Use (e, w') s) : s.1.Testable := by
  induction hs with
  | refl =>
    cases h
    exact ⟨rfl, fun _ hr => nomatch hr⟩
  | tail _ hu ih => exact hu.testable ih

/-- A new engine with the first instance of the native solver. -/
def newNative : Engine × Surroundings :=
  ({ backend := .native (some 0) }, ((createNative .nothing).perform { view := .blank }).2)

theorem perform_createNative : (createNative .nothing).perform { view := .blank } =
    (.ok newNative.1, newNative.2) := rfl

end Engine

end Milp

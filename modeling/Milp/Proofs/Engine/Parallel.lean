import Milp.Engine.Add
import Milp.Engine.Attribute
import Milp.Engine.Solve
import Milp.Proofs.Agreement
import Milp.Proofs.Engine.Attribute
set_option autoImplicit false

/-! # What engines do side by side

On the way to an operation an engine records the call and looks for an order to fail. What it does
then with its model depends neither on its log nor on its name, and on what is behind it only as far
as that is the native solver or nothing at all; no work of the native solver has anything to do with
the log of messages (`Mute`). `Parallel` says what is needed of a relation between engines for them
to do that work in lockstep, and `SharesOrder` what is needed for them to be made to fail alike. -/

namespace Milp

namespace Engine

open Milp.Action

/-! ## The native solver -/

theorem engine_mute : Mute engine := Mute.get_bind (fun _ _ => rfl) fun _ => Mute.pure _

theorem change_mute (f : Engine → Engine) : Mute (change f) := Mute.modify fun _ _ => rfl

theorem isTrue_mute (v : Value) : Mute (isTrue v) :=
  Mute.get_bind (fun _ _ => rfl) fun _ => Mute.ofFault _

theorem callSolver_mute (c : SolverCall) : Mute (callSolver c) := by
  refine engine_mute.bind fun e => ?_
  split
  · exact Mute.of_perform fun _ _ => rfl
  · exact Mute.throw _

theorem solverInstance_mute : Mute solverInstance := by
  refine Mute.of_perform ?_
  rintro ⟨⟨backend⟩, w⟩ l
  rcases backend with _ | _ | _ | (_ | i) <;> rfl

theorem succeeds_mute (c : SolverCall) : Mute (succeeds c) :=
  (callSolver_mute c).bind fun _ => Mute.pure _

theorem passNames_mute (call : Int → String → SolverCall) (position : Int) (names : List Value) :
    Mute (passNames call position names) := by
  induction names generalizing position with
  | nil => exact Mute.pure _
  | cons name rest ih =>
    by_cases hname : name = .nothing
    · subst hname
      exact ih _
    · rw [passNames]
      · exact Mute.get_bind (fun _ _ => rfl) fun _ =>
          (succeeds_mute _).bind fun _ => (ih _).ite (Mute.pure _)
      · exact hname

theorem describeColumns_mute (marking : Option SolverCall) (first : Int) (names : List Value) :
    Mute (describeColumns marking first names) := by
  have hnames (marked : Bool) :
      Mute (if marked then passNames .nameColumn first names else pure false) :=
    (passNames_mute _ _ _).ite (Mute.pure _)
  cases marking with
  | none => exact (Mute.pure true).bind hnames
  | some c => exact (succeeds_mute c).bind hnames

theorem addAndDescribe_mute (addition undo : SolverCall) {description : Acting Bool}
    (h : Mute description) : Mute (addAndDescribe addition undo description) :=
  (succeeds_mute _).bind fun _ => Mute.ite
    (h.bind fun _ => Mute.ite (Mute.pure _) ((callSolver_mute _).bind fun _ => Mute.pure _))
    (Mute.pure _)

theorem addNativeColumn_mute (objective lower upper : Value) (kind : VarKind) (name : Value) :
    Mute (addNativeColumn objective lower upper kind name) :=
  solverInstance_mute.bind fun _ => (Mute.ofExcept _).bind fun _ => (Mute.ofFault _).bind fun _ =>
    addAndDescribe_mute _ _ (describeColumns_mute _ _ _)

theorem addNativeColumns_mute (objectives lowers uppers : List Value) (kinds : List VarKind)
    (names : List Value) : Mute (addNativeColumns objectives lowers uppers kinds names) :=
  solverInstance_mute.bind fun _ => (Mute.ofExcept _).bind fun _ => (Mute.ofFault _).bind fun _ =>
    addAndDescribe_mute _ _ (describeColumns_mute _ _ _)

theorem addNativeRow_mute (indices values : List Value) (sense : Sense) (bound name : Value) :
    Mute (addNativeRow indices values sense bound name) :=
  solverInstance_mute.bind fun _ => (Mute.ofFault _).bind fun _ =>
    addAndDescribe_mute _ _ (passNames_mute _ _ _)

theorem addNativeRows_mute (begins indices values : List Value) (senses : List Sense)
    (bounds names : List Value) : Mute (addNativeRows begins indices values senses bounds names) :=
  solverInstance_mute.bind fun _ => (Mute.ofFault _).bind fun _ =>
    addAndDescribe_mute _ _ (passNames_mute _ _ _)

theorem solveNative_mute : Mute solveNative :=
  (change_mute _).bind fun _ => (callSolver_mute _).bind fun _ => solverInstance_mute.bind fun _ =>
    Mute.ite ((change_mute _).bind fun _ => Mute.pure _) ((change_mute _).bind fun _ => Mute.pure _)

theorem callScratch_mute (i : Nat) (c : SolverCall) : Mute (callScratch i c) :=
  Mute.of_perform fun _ _ => rfl

theorem silentSolver_mute : Mute silentSolver := Mute.of_perform fun _ _ => rfl

theorem addScratchRows_mute (i : Nat) (rows : List Row) (rs : List Nat) :
    Mute (addScratchRows i rows rs) := by
  induction rs with
  | nil => exact Mute.pure _
  | cons r rest ih =>
    unfold addScratchRows
    split
    · exact ih
    · exact (Mute.ofFault _).bind fun _ => (callScratch_mute _ _).bind fun _ => ih

theorem isFeasible_mute (rows : List Nat) : Mute (isFeasible rows) := by
  refine engine_mute.bind fun e => silentSolver_mute.bind fun i => ?_
  have hrows : Mute (do
      addScratchRows i e.rows rows
      let _ ← callScratch i .run
      let s ← get
      return !ModelState.isInfeasible (s.2.solver.instance? i).outcome.status : Acting Bool) :=
    (addScratchRows_mute _ _ _).bind fun _ => (callScratch_mute _ _).bind fun _ =>
      Mute.get_bind (fun _ _ => rfl) fun _ => Mute.pure _
  exact Mute.ite ((callScratch_mute _ _).bind fun _ =>
    Mute.ite ((callScratch_mute _ _).bind fun _ => hrows) hrows) hrows

theorem deletionFilter_mute (kept rs : List Nat) : Mute (deletionFilter kept rs) := by
  induction rs generalizing kept with
  | nil => exact Mute.pure _
  | cons r rest ih =>
    unfold deletionFilter
    exact (isFeasible_mute _).bind fun _ => (ih _).ite (ih _)

theorem computeNativeIis_mute : Mute computeNativeIis :=
  engine_mute.bind fun _ => (isFeasible_mute _).bind fun _ =>
    Mute.ite ((change_mute _).bind fun _ => Mute.pure _)
      ((deletionFilter_mute _ _).bind fun _ => (change_mute _).bind fun _ => Mute.pure _)

theorem setNativeParameter_mute (name value : Value) : Mute (setNativeParameter name value) := by
  have hset (option v : Value) : Mute (do
      if (← callSolver (.setOption option v)) = .error then return refused .invalidArgument
      storeParameter name v
      return accepted : Acting Value) :=
    (callSolver_mute _).bind fun _ =>
      Mute.ite (Mute.pure _) ((change_mute _).bind fun _ => Mute.pure _)
  have hoption : Mute (do
      let v ← if (optionName name).same (.text "output_flag") then .bool <$> isTrue value
        else pure value
      if (← callSolver (.setOption (optionName name) v)) = .error then
        return refused .invalidArgument
      storeParameter name v
      return accepted : Acting Value) :=
    Mute.ite (((isTrue_mute value).map _).bind fun v => hset _ v) (hset _ value)
  exact Mute.ite ((Mute.throw _).bind fun _ => hoption) hoption

/-! ## Engines side by side -/

theorem record_of_not_native {e : Engine} (h : e.isNative = false) (c : Call) :
    e.record c = { e with calls := e.calls ++ [c] } := by
  rw [record, h]
  rfl

/-- Whether an engine can solve its model. -/
def canSolve (e : Engine) : Bool := !(e.backend matches .store)

/-- The same model in another engine: with another log of calls, another name and something else
behind it. -/
def rehouse (e : Engine) (calls : List Call) (modelName : Value) (backend : Backend) : Engine :=
  { e with calls, modelName, backend }

/-- A change that concerns neither the log of calls nor the name nor what is behind an engine. -/
def Inner (f : Engine → Engine) : Prop :=
  ∀ e calls modelName backend, f (rehouse e calls modelName backend) =
    rehouse (f e) calls modelName backend

theorem Inner.eq_rehouse {f : Engine → Engine} (hf : Inner f) (e : Engine) :
    f e = rehouse (f e) e.calls e.modelName e.backend := hf e e.calls e.modelName e.backend

theorem Inner.backend {f : Engine → Engine} (hf : Inner f) (e : Engine) :
    (f e).backend = e.backend := by
  rw [hf.eq_rehouse]
  rfl

/-- A relation between engines that do the same work, whatever is recorded of it. -/
structure Parallel (R : Engine × Surroundings → Engine × Surroundings → Prop) : Prop where
  engine {s t : Engine × Surroundings} (h : R s t) :
    t.1 = rehouse s.1 t.1.calls t.1.modelName t.1.backend
  isNative {s t : Engine × Surroundings} (h : R s t) : t.1.isNative = s.1.isNative
  canSolve {s t : Engine × Surroundings} (h : R s t) : t.1.canSolve = s.1.canSolve
  change {s t : Engine × Surroundings} {f : Engine → Engine} (hf : Inner f) (h : R s t) :
    R (f s.1, s.2) (f t.1, t.2)
  /-- The native solver behind them does the same, if there is one. -/
  native {α : Type} {x : Acting α} (hx : Mute x) {s t : Engine × Surroundings} (h : R s t)
    (hs : s.1.isNative = true) :
    (x.perform s).1 = (x.perform t).1 ∧ R (x.perform s).2 (x.perform t).2

/-- A relation between engines that have the same order to fail for an operation, and go on having it
when it is counted down. -/
structure SharesOrder (operation : String)
    (R : Engine × Surroundings → Engine × Surroundings → Prop) : Prop where
  injected? {s t : Engine × Surroundings} (h : R s t) :
    t.1.injected? operation = s.1.injected? operation
  countDown {s t : Engine × Surroundings} (h : R s t) {f : InjectedFailure}
    {next : Option InjectedFailure} (hf : s.1.injected? operation = some f)
    (hnext : f.next = .ok next) : t.2.view = s.2.view ∧
      R (s.1.setInjected operation next, s.2) (t.1.setInjected operation next, t.2)

/-! ## Orders to fail -/

section

variable {e : Engine} {operation : String} {f : InjectedFailure}

theorem perform_injectedCode_ok {next : Option InjectedFailure}
    (hf : e.injected? operation = some f) (hnext : f.next = .ok next) (w : Surroundings) :
    (injectedCode operation).perform (e, w) = (.ok f.code, e.setInjected operation next, w) := by
  rw [injectedCode, perform_bind_of_ok perform_engine, hf]
  dsimp only
  rw [hnext]
  rfl

theorem perform_injectedCode_error {x : Failure} (hf : e.injected? operation = some f)
    (hnext : f.next = .error x) (w : Surroundings) :
    (injectedCode operation).perform (e, w) = (.error x, e, w) := by
  rw [injectedCode, perform_bind_of_ok perform_engine, hf]
  dsimp only
  rw [hnext]
  rfl

theorem perform_unlessInjected_fails {α : Type} {next : Option InjectedFailure} {w : Surroundings}
    (hf : e.injected? operation = some f) (hnext : f.next = .ok next)
    (htrue : f.code.truthy w.view = .ok true) (refuse : Value → α) (x : Acting α) :
    (unlessInjected operation refuse x).perform (e, w) =
      (.ok (refuse f.code), e.setInjected operation next, w) := by
  rw [unlessInjected, perform_bind_of_ok (perform_injectedCode_ok hf hnext w), perform_isTrue_bind,
    htrue]
  rfl

end

namespace SharesOrder

variable {R : Engine × Surroundings → Engine × Surroundings → Prop} {operation : String}
  (hR : SharesOrder operation R) {α : Type}
include hR

theorem lockstep_injectedCode : Lockstep R (injectedCode operation) := by
  rintro ⟨e, w⟩ ⟨e', w'⟩ h
  have hinjected := hR.injected? h
  cases hf : e.injected? operation with
  | none =>
    rw [perform_injectedCode_none hf, perform_injectedCode_none (hinjected.trans hf)]
    exact ⟨rfl, h⟩
  | some f =>
    cases hnext : f.next with
    | error x =>
      rw [perform_injectedCode_error hf hnext, perform_injectedCode_error (hinjected.trans hf) hnext]
      exact ⟨rfl, h⟩
    | ok next =>
      rw [perform_injectedCode_ok hf hnext, perform_injectedCode_ok (hinjected.trans hf) hnext]
      exact ⟨rfl, (hR.countDown h hf hnext).2⟩

/-- The code of an order counts as true in both runs, or in none of them. -/
theorem lockstep_unlessInjected (refuse : Value → α) {x : Acting α} (hx : Lockstep R x) :
    Lockstep R (unlessInjected operation refuse x) := by
  rintro ⟨e, w⟩ ⟨e', w'⟩ h
  have hinjected := hR.injected? h
  cases hf : e.injected? operation with
  | none =>
    rw [perform_unlessInjected hf, perform_unlessInjected (hinjected.trans hf)]
    exact hx _ _ h
  | some f =>
    cases hnext : f.next with
    | error x =>
      rw [unlessInjected, perform_bind_of_error (perform_injectedCode_error hf hnext _),
        perform_bind_of_error (perform_injectedCode_error (hinjected.trans hf) hnext _)]
      exact ⟨rfl, h⟩
    | ok next =>
      obtain ⟨hview, hset⟩ := hR.countDown h hf hnext
      have hview : w'.view = w.view := hview
      rw [unlessInjected, perform_bind_of_ok (perform_injectedCode_ok hf hnext _),
        perform_bind_of_ok (perform_injectedCode_ok (hinjected.trans hf) hnext _),
        perform_isTrue_bind, perform_isTrue_bind, hview]
      cases f.code.truthy w.view with
      | error _ => exact ⟨rfl, hset⟩
      | ok b =>
        cases b with
        | true => exact ⟨rfl, hset⟩
        | false => exact hx _ _ hset

end SharesOrder

/-! ## The work -/

/-- Engines solve their models with the native solver, by staying near zero, or not at all. -/
theorem optimize_eq : optimize = recorded .optimize (do
    let e ← engine
    if e.canSolve then if e.isNative then solveNative else solveNearestToZero
    else return refused .notSupported) := by
  unfold optimize
  refine congrArg (fun f => recorded .optimize (engine >>= f)) (funext fun e => ?_)
  obtain ⟨backend⟩ := e
  cases backend <;> rfl

namespace Parallel

variable {R : Engine × Surroundings → Engine × Surroundings → Prop} (hR : Parallel R) {α : Type}
include hR

omit hR in
/-- What is done with an engine that has just been looked at may rely on what it is. -/
theorem engine_bind_at {f : Engine → Acting α} (hf : ∀ s t, R s t → f t.1 = f s.1)
    (h : ∀ s t, R s t → ((f s.1).perform s).1 = ((f s.1).perform t).1 ∧
      R ((f s.1).perform s).2 ((f s.1).perform t).2) : Lockstep R (Engine.engine >>= f) := by
  intro s t hst
  rw [perform_bind_of_ok (perform_engine (e := s.1) (w := s.2)),
    perform_bind_of_ok (perform_engine (e := t.1) (w := t.2)), hf s t hst]
  exact h s t hst

/-- What follows looking at the engine makes no use of its log, its name and what is behind it. -/
theorem engine_bind {f : Engine → Acting α}
    (hf : ∀ e calls modelName backend, f (rehouse e calls modelName backend) = f e)
    (h : ∀ e, Lockstep R (f e)) : Lockstep R (Engine.engine >>= f) :=
  engine_bind_at (fun s t hst => by rw [hR.engine hst, hf]) fun s t hst => h _ s t hst

theorem lockstep_change {f : Engine → Engine} (hf : Inner f) : Lockstep R (Engine.change f) :=
  Agree.modify fun _ _ h => hR.change hf h

theorem lockstep_ifNative {x : Acting Bool} (hx : Mute x) : Lockstep R (ifNative x) := by
  intro s t h
  rw [ifNative, perform_bind_of_ok (perform_engine (e := s.1) (w := s.2)),
    perform_bind_of_ok (perform_engine (e := t.1) (w := t.2)), hR.isNative h]
  cases hs : s.1.isNative with
  | true => exact hR.native hx h hs
  | false => exact ⟨rfl, h⟩

/-! ### Additions -/

theorem lockstep_finishAddition : Lockstep R finishAddition :=
  (hR.lockstep_change fun _ _ _ _ => rfl).bind fun _ => Agree.pure _

/-- What is stored at the end of an addition has been read from the arguments. -/
theorem lockstep_store (r : Except Fault α) {f : α → Engine → Engine} (hf : ∀ a, Inner (f a)) :
    Lockstep R (do
      let a ← Action.ofFault r
      Engine.change (f a)
      finishAddition) :=
  (Agree.ofFault _).bind fun _ => (hR.lockstep_change (hf _)).bind fun _ =>
    hR.lockstep_finishAddition

theorem addVar_recorded (objective lower upper kind name : Value) :
    ∃ x, Lockstep R x ∧ addVar objective lower upper kind name =
      recorded (.addVar objective lower upper kind name) x := by
  refine ⟨_, (Agree.ofFault _).bind fun kind => ?_, rfl⟩
  split
  · exact Agree.pure _
  · refine (hR.lockstep_ifNative (addNativeColumn_mute _ _ _ _ _)).bind fun added => ?_
    exact Agree.ite (Agree.pure _)
      (hR.lockstep_store _ fun _ _ _ _ _ => rfl)

theorem lockstep_storeColumns (ds : List ColumnData) : Lockstep R (storeColumns ds) := by
  induction ds with
  | nil => exact Agree.pure _
  | cons d rest ih =>
    exact (Agree.ofFault _).bind fun _ =>
      (hR.lockstep_change fun _ _ _ _ => rfl).bind fun _ => ih

theorem addVars_recorded (count : Value) :
    ∃ x : Value → Value → Value → Value → Value → Acting Value,
      (∀ o l u k n, Lockstep R (x o l u k n)) ∧
        ∀ objectives lowers uppers kinds names,
          addVars count objectives lowers uppers kinds names = (do
            let o ← list objectives
            let l ← list lowers
            let u ← list uppers
            let k ← list kinds
            let n ← list names
            recorded (.addVars count o l u k n) (x o l u k n)) := by
  refine ⟨_, fun o l u k n => (Agree.ofExcept _).bind fun kinds => ?_, fun _ _ _ _ _ => rfl⟩
  split
  · exact Agree.pure _
  · refine (Agree.ofExcept _).bind fun names => ?_
    refine (hR.lockstep_ifNative (addNativeColumns_mute _ _ _ _ _)).bind fun added => ?_
    exact Agree.ite (Agree.pure _) ((Agree.ofFault _).bind fun _ =>
      (hR.lockstep_storeColumns _).bind fun _ => hR.lockstep_finishAddition)

theorem addConstraint_recorded (size sense bound name : Value) :
    ∃ x : Value → Value → Acting Value, (∀ i v, Lockstep R (x i v)) ∧
      ∀ indices values, addConstraint size indices values sense bound name = (do
        let i ← list indices
        let v ← list values
        recorded (.addConstraint size i v sense bound name) (x i v)) := by
  refine ⟨_, fun i v => (Agree.ofFault _).bind fun sense => ?_, fun _ _ => rfl⟩
  split
  · exact Agree.pure _
  · refine hR.engine_bind (fun _ _ _ _ => rfl) fun e => (Agree.ofExcept _).bind fun inRange => ?_
    exact Agree.ite (Agree.pure _) ((hR.lockstep_ifNative (addNativeRow_mute _ _ _ _ _)).bind
      fun added => Agree.ite (Agree.pure _)
        (hR.lockstep_store _ fun _ _ _ _ _ => rfl))

theorem lockstep_storeRows (indices values : List Value) (ds : List RowData) :
    Lockstep R (storeRows indices values ds) := by
  induction ds with
  | nil => exact Agree.pure _
  | cons d rest ih =>
    exact (Agree.ofFault _).bind fun _ =>
      (hR.lockstep_change fun _ _ _ _ => rfl).bind fun _ => ih

theorem addConstraints_recorded (count size : Value) :
    ∃ x : Value → Value → Value → Value → Value → Value → Acting Value,
      (∀ b i v s r n, Lockstep R (x b i v s r n)) ∧
        ∀ begins indices values senses bounds names,
          addConstraints count size begins indices values senses bounds names = (do
            let b ← list begins
            let i ← list indices
            let v ← list values
            let s ← list senses
            let r ← list bounds
            let n ← list names
            recorded (.addConstraints count size b i v s r n) (x b i v s r n)) := by
  refine ⟨_, fun b i v s r n => (Agree.ofExcept _).bind fun senses => ?_,
    fun _ _ _ _ _ _ => rfl⟩
  split
  · exact Agree.pure _
  · refine hR.engine_bind (fun _ _ _ _ => rfl) fun e => (Agree.ofExcept _).bind fun inRange => ?_
    refine Agree.ite (Agree.pure _) ((Agree.ofExcept _).bind fun names => ?_)
    refine (hR.lockstep_ifNative (addNativeRows_mute _ _ _ _ _ _)).bind fun added => ?_
    exact Agree.ite (Agree.pure _) ((Agree.ofFault _).bind fun _ =>
      (hR.lockstep_storeRows _ _ _).bind fun _ => hR.lockstep_finishAddition)

/-! ### Solving -/

theorem lockstep_solveNearestToZero : Lockstep R solveNearestToZero :=
  (hR.lockstep_change fun _ _ _ _ => rfl).bind fun _ => Agree.pure _

theorem optimize_recorded : ∃ x, Lockstep R x ∧ optimize = recorded .optimize x := by
  refine ⟨_, engine_bind_at (fun s t h => by rw [hR.canSolve h, hR.isNative h])
    fun s t h => ?_, optimize_eq⟩
  cases s.1.canSolve with
  | false => exact ⟨rfl, h⟩
  | true =>
    cases hs : s.1.isNative with
    | true => exact hR.native solveNative_mute h hs
    | false => exact hR.lockstep_solveNearestToZero s t h

theorem computeIis_recorded : ∃ x, Lockstep R x ∧ computeIis = recorded .computeIis x := by
  refine ⟨_, engine_bind_at (fun s t h => by rw [hR.isNative h]) fun s t h => ?_, rfl⟩
  cases hs : s.1.isNative with
  | true => exact hR.native computeNativeIis_mute h hs
  | false => exact ⟨rfl, h⟩

/-! ### Attributes, parameters and the end -/

theorem lockstep_setDirection (value : Value) : Lockstep R (setDirection value) := by
  refine hR.engine_bind (fun _ _ _ _ => rfl) fun e => (Agree.ofFault _).bind fun same => ?_
  have hset : Lockstep R (do
      let d ← Action.ofFault (directionOf value)
      if !(← ifNative (return (← callSolver (.setDirection d)) ≠ .error)) then
        return refused .engineFailure
      Engine.change fun e => { e with sense := value }
      Engine.change clearSolution
      return accepted : Acting Value) :=
    (Agree.ofFault _).bind fun d => (hR.lockstep_ifNative ((callSolver_mute _).bind fun _ =>
      Mute.pure _)).bind fun _ => Agree.ite (Agree.pure _)
        ((hR.lockstep_change fun _ _ _ _ => rfl).bind fun _ =>
          (hR.lockstep_change fun _ _ _ _ => rfl).bind fun _ => Agree.pure _)
  exact Agree.ite (Agree.pure _) hset

theorem setModelAttribute_recorded (attr value : Value) :
    ∃ x, Lockstep R x ∧
      setModelAttribute attr value = recorded (.setModelAttribute attr value) x :=
  ⟨_, (Agree.ofFault _).bind fun _ => Agree.ite
    ((Agree.ofFault _).bind fun _ => Agree.ite (hR.lockstep_setDirection _) (Agree.pure _))
    (Agree.pure _), rfl⟩

theorem lockstep_storeParameter (name value : Value) : Lockstep R (storeParameter name value) :=
  hR.lockstep_change fun _ _ _ _ => rfl

/-- What an engine without a solver does with a parameter. -/
theorem lockstep_keepParameter (name value : Value) : Lockstep R (do
    if !name.isKey then throw (.fault .wrongType)
    storeParameter name value
    return accepted : Acting Value) :=
  Agree.ite ((Agree.throw _).bind fun _ =>
    (hR.lockstep_storeParameter _ _).bind fun _ => Agree.pure _)
    ((hR.lockstep_storeParameter _ _).bind fun _ => Agree.pure _)

theorem finish_recorded : ∃ x, Lockstep R x ∧ finish = (do
    Engine.change (·.record .finish)
    x) := by
  refine ⟨do
    Engine.change fun e => { e with
      ended := true, backend := if e.isNative then .native none else e.backend }
    return accepted, fun s t h => ?_, rfl⟩
  cases hs : s.1.isNative with
  | true => exact hR.native ((change_mute _).bind fun _ => Mute.pure _) h hs
  | false =>
    have hend (u : Engine × Surroundings) (hu : u.1.isNative = false) : (do
        Engine.change fun e => { e with
          ended := true, backend := if e.isNative then .native none else e.backend }
        return accepted : Acting Value).perform u =
        (.ok accepted, { u.1 with ended := true }, u.2) := by
      show (Except.ok accepted, ({ u.1 with
        ended := true, backend := if u.1.isNative then .native none else u.1.backend } : Engine),
        u.2) = _
      rw [hu]
      rfl
    rw [hend s hs, hend t ((hR.isNative h).trans hs)]
    exact ⟨rfl, hR.change (f := fun e => { e with ended := true }) (fun _ _ _ _ => rfl) h⟩

/-! ### Readers -/

theorem getModelAttribute_read (attr : Value) :
    ∃ x, Lockstep R x ∧ getModelAttribute attr = readUnlessInjected "get_int_attr" x := by
  refine ⟨_, (Agree.ofFault _).bind fun a => ?_, rfl⟩
  split
  · exact hR.engine_bind (fun _ _ _ _ => rfl) fun _ => Agree.pure _
  · exact Agree.pure _

theorem getObjective_read (attr : Value) :
    ∃ x, Lockstep R x ∧ getObjective attr = readUnlessInjected "get_dbl_attr" x := by
  refine ⟨_, (Agree.ofFault _).bind fun _ => Agree.ite (Agree.pure _)
    (hR.engine_bind (fun _ _ _ _ => rfl) fun e => ?_), rfl⟩
  split
  · exact Agree.pure _
  · exact Agree.pure _

theorem getVarAttribute_read (attr index : Value) :
    ∃ x, Lockstep R x ∧ getVarAttribute attr index = readUnlessInjected "get_var_attr" x :=
  ⟨_, hR.engine_bind (fun _ _ _ _ => rfl) fun _ => (Agree.ofExcept _).bind fun _ =>
    Agree.ite (Agree.pure _) (Agree.ofFault _), rfl⟩

theorem getConstraintAttribute_read (attr index : Value) :
    ∃ x, Lockstep R x ∧
      getConstraintAttribute attr index = readUnlessInjected "get_constr_attr" x :=
  ⟨_, hR.engine_bind (fun _ _ _ _ => rfl) fun _ => (Agree.ofExcept _).bind fun _ =>
    Agree.ite (Agree.pure _) (Agree.ofFault _), rfl⟩

end Parallel

end Engine

end Milp

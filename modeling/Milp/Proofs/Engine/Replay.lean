import Milp.Proofs.Engine.Matching
import Milp.Proofs.Except
set_option autoImplicit false

/-! # Making recorded calls again

The log of an engine has the calls that were made to it, with their sequences as lists. What an
engine without a solver does with a call depends neither on its log nor on its surroundings, but
only on what is recorded of the call (`run_listed`). So a new engine to which all calls of the log
are made again becomes the same engine with the same log, as long as the sequences have really
become lists (`after_replay_iff`). An array without dimensions gives its element, which is recorded;
when it is passed again, it is refused before anything is recorded, or listed once more. -/

namespace Milp

open Milp.Action

/-! ## Calls -/

namespace Call

/-- Makes a call. -/
def run : Call → Engine.Acting Value
  | addVar objective lower upper kind name => Engine.addVar objective lower upper kind name
  | addVars count objectives lowers uppers kinds names =>
    Engine.addVars count objectives lowers uppers kinds names
  | addConstraint size indices values sense bound name =>
    Engine.addConstraint size indices values sense bound name
  | addConstraints count size begins indices values senses bounds names =>
    Engine.addConstraints count size begins indices values senses bounds names
  | updateModel => Engine.updateModel
  | optimize => Engine.optimize
  | computeIis => Engine.computeIis
  | write file => Engine.write file
  | setModelAttribute attr value => Engine.setModelAttribute attr value
  | setParameter name value => Engine.setParameter name value
  | finish => Engine.finish

/-- A call with its sequences as lists, as it is recorded. -/
def listed (view : View) : Call → Except Fault Call
  | addVars count objectives lowers uppers kinds names => do
    let o ← Engine.listed view objectives
    let l ← Engine.listed view lowers
    let u ← Engine.listed view uppers
    let k ← Engine.listed view kinds
    let n ← Engine.listed view names
    return addVars count o l u k n
  | addConstraint size indices values sense bound name => do
    let i ← Engine.listed view indices
    let v ← Engine.listed view values
    return addConstraint size i v sense bound name
  | addConstraints count size begins indices values senses bounds names => do
    let b ← Engine.listed view begins
    let i ← Engine.listed view indices
    let v ← Engine.listed view values
    let s ← Engine.listed view senses
    let r ← Engine.listed view bounds
    let n ← Engine.listed view names
    return addConstraints count size b i v s r n
  | c => .ok c

/-- The way to what a recorded call does: it is done unless the call is made to fail. Telling that all
changes have been made does nothing more, and the end cannot be made to fail. -/
def guarded (c : Call) (work : Engine.Acting Value) : Engine.Acting Value :=
  match c with
  | updateModel => Engine.injectedCode c.operation
  | finish => work
  | _ => Engine.unlessInjected c.operation id work

/-- The arguments of a call that are sequences. -/
def sequences : Call → List Value
  | addVars _ objectives lowers uppers kinds names => [objectives, lowers, uppers, kinds, names]
  | addConstraint _ indices values _ _ _ => [indices, values]
  | addConstraints _ _ begins indices values senses bounds names =>
    [begins, indices, values, senses, bounds, names]
  | _ => []

end Call

namespace Engine

/-- Whether a sequence is missing or a list already. -/
def isListed : Value → Bool
  | .nothing | .list _ => true
  | _ => false

/-- Only an array without dimensions is listed as something else, which is its element. -/
theorem listed_cases {view : View} {v u : Value} (h : listed view v = .ok u) :
    isListed u = true ∨ (∃ x, v = .number (.cell x) ∧ u = .number (Number.ofElement x)) ∨
      ∃ k, v = .cell k u := by
  -- what the elements of a sequence make is a list
  have hlist {x : Except Fault (List Value)} (h : Value.list <$> x = .ok u) :
      isListed u = true := by
    obtain ⟨xs, -, rfl⟩ := map_eq_ok_iff.1 h
    rfl
  cases v with
  | nothing | array k xs =>
    cases h
    exact .inl rfl
  | cell k x =>
    cases h
    exact .inr (.inr ⟨k, rfl⟩)
  | number x =>
    cases x with
    | cell x =>
      cases h
      exact .inr (.inl ⟨x, rfl, rfl⟩)
    | _ => exact .inl (hlist h)
  | _ => exact .inl (hlist h)

theorem listed_eq_self_iff (view : View) (v : Value) :
    listed view v = .ok v ↔ isListed v = true := by
  constructor
  · intro h
    rcases listed_cases h with hlisted | ⟨x, rfl, hx⟩ | ⟨k, hx⟩
    · exact hlisted
    · cases x <;> cases hx
    · exact absurd (congrArg sizeOf hx) (by simp)
  · intro h
    cases v with
    | nothing | list xs => rfl
    | _ => cases h

end Engine

namespace Call

/-- What a call that is made again is recorded as. -/
theorem listed_eq_self_iff (view : View) (c : Call) :
    c.listed view = .ok c ↔ c.sequences.all Engine.isListed = true := by
  cases c with
  | addVars count objectives lowers uppers kinds names =>
    simp only [listed, bind_eq_ok_iff, sequences, List.all_eq_true, List.forall_mem_cons,
      ← Engine.listed_eq_self_iff view]
    constructor
    · rintro ⟨o, ho, l, hl, u, hu, k, hk, n, hn, h⟩
      cases h
      exact ⟨ho, hl, hu, hk, hn, nofun⟩
    · rintro ⟨ho, hl, hu, hk, hn, -⟩
      exact ⟨_, ho, _, hl, _, hu, _, hk, _, hn, rfl⟩
  | addConstraint size indices values sense bound name =>
    simp only [listed, bind_eq_ok_iff, sequences, List.all_eq_true, List.forall_mem_cons,
      ← Engine.listed_eq_self_iff view]
    constructor
    · rintro ⟨i, hi, v, hv, h⟩
      cases h
      exact ⟨hi, hv, nofun⟩
    · rintro ⟨hi, hv, -⟩
      exact ⟨_, hi, _, hv, rfl⟩
  | addConstraints count size begins indices values senses bounds names =>
    simp only [listed, bind_eq_ok_iff, sequences, List.all_eq_true, List.forall_mem_cons,
      ← Engine.listed_eq_self_iff view]
    constructor
    · rintro ⟨b, hb, i, hi, v, hv, s, hs, r, hr, n, hn, h⟩
      cases h
      exact ⟨hb, hi, hv, hs, hr, hn, nofun⟩
    · rintro ⟨hb, hi, hv, hs, hr, hn, -⟩
      exact ⟨_, hb, _, hi, _, hv, _, hs, _, hr, _, hn, rfl⟩
  | _ => simp [listed, sequences]

/-- Listing sequences makes no other call of a call. -/
theorem operation_listed {view : View} {d c : Call} (h : d.listed view = .ok c) :
    c.operation = d.operation := by
  cases d with
  | addVars count objectives lowers uppers kinds names =>
    simp only [listed, bind_eq_ok_iff] at h
    obtain ⟨o, -, l, -, u, -, k, -, n, -, h⟩ := h
    cases h
    rfl
  | addConstraint size indices values sense bound name =>
    simp only [listed, bind_eq_ok_iff] at h
    obtain ⟨i, -, v, -, h⟩ := h
    cases h
    rfl
  | addConstraints count size begins indices values senses bounds names =>
    simp only [listed, bind_eq_ok_iff] at h
    obtain ⟨b, -, i, -, v, -, s, -, r, -, n, -, h⟩ := h
    cases h
    rfl
  | _ =>
    cases h
    rfl

theorem isWrite_listed {view : View} {d c : Call} (h : d.listed view = .ok c) :
    c.isWrite = d.isWrite := by
  have hname (c : Call) : c.isWrite = decide (c.operation = "write") := by
    cases c <;> simp [isWrite, operation]
  rw [hname, hname, operation_listed h]

end Call

/-! ## What a call does -/

namespace Engine

variable {α β : Type} {e : Engine} {w : Surroundings}

/-- A sequence is listed first. -/
theorem perform_list_bind {v : Value} {f : Value → Acting Value} {g : Value → Except Fault Call}
    {k : Call → Acting Value}
    (h : ∀ u, (f u).perform (e, w) = (ofFault (g u) >>= k).perform (e, w)) :
    (list v >>= f).perform (e, w) = (ofFault (listed w.view v >>= g) >>= k).perform (e, w) := by
  have hlist : (list v >>= f).perform (e, w) =
      (ofFault (listed w.view v) >>= f).perform (e, w) := rfl
  rw [hlist]
  cases listed w.view v with
  | ok u => exact h u
  | error x => rfl

/-- What a call does once it has been recorded, unless it is made to fail. Engines do it side by side,
but for writing files, which depends on the surroundings. -/
theorem Parallel.exists_work {R : Engine × Surroundings → Engine × Surroundings → Prop}
    (hR : Parallel R) : ∃ work : Call → Acting Value,
      (∀ c, c.isWrite = false → Lockstep R (work c)) ∧
      (∀ file, work (.write file) = writeLp file) ∧
      ∀ (d : Call) {e : Engine} {w : Surroundings}, e.isNative = false →
        d.run.perform (e, w) = (do
          let c ← ofFault (d.listed w.view)
          Engine.change (·.record c)
          c.guarded (work c)).perform (e, w) := by
  choose addsVar haddsVar addVar_eq using hR.addVar_recorded
  choose addsVars haddsVars addVars_eq using hR.addVars_recorded
  choose addsConstraint haddsConstraint addConstraint_eq using hR.addConstraint_recorded
  choose addsConstraints haddsConstraints addConstraints_eq using hR.addConstraints_recorded
  obtain ⟨optimizes, hoptimizes, optimize_eq⟩ := hR.optimize_recorded
  obtain ⟨computesIis, hcomputesIis, computeIis_eq⟩ := hR.computeIis_recorded
  choose setsAttribute hsetsAttribute setModelAttribute_eq using hR.setModelAttribute_recorded
  obtain ⟨finishes, hfinishes, finish_eq⟩ := hR.finish_recorded
  refine ⟨fun c => match c with
    | .addVar o l u k n => addsVar o l u k n
    | .addVars count o l u k n => addsVars count o l u k n
    | .addConstraint size i v sense bound name => addsConstraint size sense bound name i v
    | .addConstraints count size b i v s r n => addsConstraints count size b i v s r n
    | .updateModel => pure accepted
    | .optimize => optimizes
    | .computeIis => computesIis
    | .write file => writeLp file
    | .setModelAttribute attr value => setsAttribute attr value
    | .setParameter name value => do
        if !name.isKey then throw (.fault .wrongType)
        storeParameter name value
        return accepted
    | .finish => finishes, fun c hc => ?_, fun _ => rfl, fun d e w he => ?_⟩
  · cases c with
    | addVar o l u k n => exact haddsVar o l u k n
    | addVars count o l u k n => exact haddsVars count o l u k n
    | addConstraint size i v s r n => exact haddsConstraint size s r n i v
    | addConstraints count size b i v s r n => exact haddsConstraints count size b i v s r n
    | updateModel => exact Agree.pure _
    | optimize => exact hoptimizes
    | computeIis => exact hcomputesIis
    | write file => cases hc
    | setModelAttribute attr value => exact hsetsAttribute attr value
    | setParameter name value => exact hR.lockstep_keepParameter name value
    | finish => exact hfinishes
  · cases d with
    | addVar o l u k n =>
      rw [Call.run, addVar_eq]
      rfl
    | addVars count o l u k n =>
      rw [Call.run, addVars_eq]
      exact perform_list_bind fun _ => perform_list_bind fun _ => perform_list_bind fun _ =>
        perform_list_bind fun _ => perform_list_bind fun _ => rfl
    | addConstraint size i v s r n =>
      rw [Call.run, addConstraint_eq]
      exact perform_list_bind fun _ => perform_list_bind fun _ => rfl
    | addConstraints count size b i v s r n =>
      rw [Call.run, addConstraints_eq]
      exact perform_list_bind fun _ => perform_list_bind fun _ => perform_list_bind fun _ =>
        perform_list_bind fun _ => perform_list_bind fun _ => perform_list_bind fun _ => rfl
    | updateModel =>
      rw [Call.run, Engine.updateModel, perform_bind_of_ok perform_engine, he]
      rfl
    | optimize =>
      rw [Call.run, optimize_eq]
      rfl
    | computeIis =>
      rw [Call.run, computeIis_eq]
      rfl
    | write file =>
      rw [Call.run, Engine.write, perform_bind_of_ok perform_engine, he]
      rfl
    | setModelAttribute attr value =>
      rw [Call.run, setModelAttribute_eq]
      rfl
    | setParameter name value =>
      rw [Call.run, Engine.setParameter, perform_bind_of_ok perform_engine, he]
      rfl
    | finish =>
      rw [Call.run, finish_eq]
      rfl

/-- Engines with the same order for its operation carry out a recorded call alike. -/
theorem SharesOrder.lockstep_guarded {R : Engine × Surroundings → Engine × Surroundings → Prop}
    {c : Call} (hR : SharesOrder c.operation R) {work : Acting Value} (hwork : Lockstep R work) :
    Lockstep R (c.guarded work) := by
  cases c with
  | updateModel => exact hR.lockstep_injectedCode
  | finish => exact hwork
  | _ => exact hR.lockstep_unlessInjected id hwork

/-- Two engines without a solver that differ in their logs and names only, which are given ones. -/
def Twins (calls : List Call) (name : Value) (calls' : List Call) (name' : Value)
    (s t : Engine × Surroundings) : Prop :=
  ∃ e : Engine, e.IsBare ∧ s.1 = e.disguise calls name ∧ t.1 = e.disguise calls' name'

theorem IsBare.record_disguise (h : e.IsBare) (calls : List Call) (name : Value) (c : Call) :
    (e.disguise calls name).record c = e.disguise (calls ++ [c]) name :=
  have hbare : (e.disguise calls name).IsBare := h
  record_of_not_native hbare.isNative c

theorem twins_matching (calls : List Call) (name : Value) (calls' : List Call) (name' : Value) :
    Matching (Twins calls name calls' name') where
  engine := by
    rintro ⟨s, w⟩ ⟨t, w'⟩ ⟨e, -, rfl, rfl⟩
    exact ⟨calls', name', rfl⟩
  change := by
    rintro ⟨s, w⟩ ⟨t, w'⟩ f hf ⟨e, he, rfl, rfl⟩
    exact ⟨f e, hf.isBare he, hf.disguise e calls name, hf.disguise e calls' name'⟩
  view := by
    rintro ⟨s, w⟩ ⟨t, w'⟩ ⟨e, he, rfl, rfl⟩
    exact .inl he.injected?
  native := by
    rintro _ _ _ ⟨s, w⟩ ⟨t, w'⟩ ⟨e, he, rfl, rfl⟩ hnative
    have hnot : (e.disguise calls name).isNative = false := he.isNative
    rw [hnot] at hnative
    cases hnative

/-- Two calls that are recorded as the same one do the same to an engine, wherever they are made. -/
theorem run_listed {d d' c : Call} {w w' : Surroundings} (he : e.IsBare) (hd : d.isWrite = false)
    (h : d.listed w.view = .ok c) (h' : d'.listed w'.view = .ok c) (calls : List Call)
    (name : Value) (calls' : List Call) (name' : Value) :
    ∃ e' : Engine, e'.IsBare ∧
      (d.run.perform (e.disguise calls name, w)).2.1 = e'.disguise (calls ++ [c]) name ∧
      (d'.run.perform (e.disguise calls' name', w')).2.1 = e'.disguise (calls' ++ [c]) name' := by
  have htwins := twins_matching (calls ++ [c]) name (calls' ++ [c]) name'
  obtain ⟨work, hwork, -, hrun⟩ := htwins.parallel.exists_work
  have hc : c.isWrite = false := (Call.isWrite_listed h).trans hd
  have hbare (calls : List Call) (name : Value) : (e.disguise calls name).isNative = false :=
    he.isNative
  obtain ⟨-, e', he', hs, ht⟩ := (htwins.sharesOrder _).lockstep_guarded (hwork c hc)
    ((e.disguise calls name).record c, w) ((e.disguise calls' name').record c, w')
    ⟨e, he, he.record_disguise calls name c, he.record_disguise calls' name' c⟩
  rw [hrun d (hbare _ _), hrun d' (hbare _ _), h, h']
  exact ⟨e', he', hs, ht⟩

/-- Engines that are the same one go on being the same. -/
theorem parallel_eq : Parallel (fun s t => t = s) where
  engine := by
    rintro s t rfl
    rfl
  isNative := by
    rintro s t rfl
    rfl
  canSolve := by
    rintro s t rfl
    rfl
  change := by
    rintro s t f - rfl
    rfl
  native := by
    rintro α x - s t rfl -
    exact ⟨rfl, rfl⟩

/-- A call whose sequences cannot be listed fails before anything else. -/
theorem perform_run_unlisted {d : Call} {x : Fault} (he : e.isNative = false)
    (h : d.listed w.view = .error x) : d.run.perform (e, w) = (.error (.fault x), e, w) := by
  obtain ⟨work, -, -, hrun⟩ := parallel_eq.exists_work
  rw [hrun d he, h]
  rfl

/-- Of a call to write a file an engine keeps the record alone. -/
theorem run_write (he : e.IsBare) (file : Value) :
    ((Call.write file).run.perform (e, w)).2.1 = e.record (.write file) := by
  have hinjected : (e.record (.write file)).injected? "write" = none := by
    rw [record_of_not_native he.isNative]
    exact he.injected? "write"
  have hrun : (Call.write file).run.perform (e, w) =
      (writeLp file).perform (e.record (.write file), w) := by
    rw [Call.run, Engine.write, perform_bind_of_ok perform_engine, he.isNative]
    exact perform_unlessInjected hinjected id _
  rw [hrun]
  exact writeLp_maintains (I := fun s => s.1 = e.record (.write file)) (fun _ _ _ h => h) file _ rfl

theorem Reads.perform {x : Acting Answer} (hx : Reads x) (he : e.IsBare) :
    (x.perform (e, w)).2.1 = e := by
  obtain ⟨operation, y, hy, rfl⟩ := hx
  rw [readUnlessInjected, perform_unlessInjected (he.injected? operation)]
  exact hy (J := fun s => s.1 = e) _ rfl

/-! ## Sequences of calls -/

/-- What can be asked of an engine. -/
inductive Request where
  | call (d : Call)
  | modelAttribute (attr : Value)
  | objective (attr : Value)
  | varAttribute (attr index : Value)
  | constraintAttribute (attr index : Value)

namespace Request

/-- The engine after something has been asked of it. -/
def after (e : Engine) (w : Surroundings) : Request → Engine
  | call d => (d.run.perform (e, w)).2.1
  | modelAttribute attr => ((getModelAttribute attr).perform (e, w)).2.1
  | objective attr => ((getObjective attr).perform (e, w)).2.1
  | varAttribute attr index => ((getVarAttribute attr index).perform (e, w)).2.1
  | constraintAttribute attr index => ((getConstraintAttribute attr index).perform (e, w)).2.1

/-- The call that is recorded, if any is. -/
def recorded? (view : View) : Request → Option Call
  | call d => (d.listed view).toOption
  | _ => none

/-- What a request does to an engine without a solver. -/
theorem after_cases (he : e.IsBare) (r : Request) :
    (r.after e w = e ∧ r.recorded? w.view = none) ∨
    (∃ file, r.after e w = e.record (.write file) ∧ r.recorded? w.view = some (.write file)) ∨
    ∃ d c, r = call d ∧ d.isWrite = false ∧ d.listed w.view = .ok c := by
  cases r with
  | call d =>
    cases hd : d.isWrite with
    | true =>
      cases d with
      | write file => exact .inr (.inl ⟨file, run_write he file, rfl⟩)
      | _ => cases hd
    | false =>
      cases h : d.listed w.view with
      | ok c => exact .inr (.inr ⟨d, c, rfl, hd, h⟩)
      | error x =>
        have hafter : (call d).after e w = e :=
          congrArg (·.2.1) (perform_run_unlisted he.isNative h)
        exact .inl ⟨hafter, by rw [recorded?, h]; rfl⟩
  | modelAttribute attr => exact .inl ⟨(getModelAttribute_reads attr).perform he, rfl⟩
  | objective attr => exact .inl ⟨(getObjective_reads attr).perform he, rfl⟩
  | varAttribute attr index => exact .inl ⟨(getVarAttribute_reads attr index).perform he, rfl⟩
  | constraintAttribute attr index =>
    exact .inl ⟨(getConstraintAttribute_reads attr index).perform he, rfl⟩

/-- A request adds to the log what is recorded of it, and nothing else. -/
theorem after_calls (he : e.IsBare) (r : Request) (w : Surroundings) :
    (r.after e w).IsBare ∧ (r.after e w).calls = e.calls ++ (r.recorded? w.view).toList := by
  rcases after_cases he r (w := w) with ⟨h, hr⟩ | ⟨file, h, hr⟩ | ⟨d, c, rfl, hd, h⟩
  · rw [h, hr]
    exact ⟨he, (List.append_nil _).symm⟩
  · rw [h, hr, record_of_not_native he.isNative]
    exact ⟨he, rfl⟩
  · obtain ⟨e', he', hrun, -⟩ := run_listed he hd h h e.calls e.modelName e.calls e.modelName
    have hafter : (call d).after e w = e'.disguise (e.calls ++ [c]) e.modelName := hrun
    rw [hafter, recorded?, h]
    exact ⟨he', rfl⟩

end Request

/-- The engine after requests, each of which may find other surroundings. -/
def after (e : Engine) (steps : List (Request × Surroundings)) : Engine :=
  steps.foldl (fun e s => s.1.after e s.2) e

/-- What is recorded of requests. -/
def recordedOf (steps : List (Request × Surroundings)) : List Call :=
  steps.filterMap fun s => s.1.recorded? s.2.view

theorem recordedOf_cons (r : Request) (w : Surroundings) (rest : List (Request × Surroundings)) :
    recordedOf ((r, w) :: rest) = (r.recorded? w.view).toList ++ recordedOf rest := by
  rw [recordedOf, List.filterMap_cons]
  cases r.recorded? w.view <;> rfl

/-- The log has what was recorded, in order. -/
theorem after_calls (he : e.IsBare) (steps : List (Request × Surroundings)) :
    (e.after steps).calls = e.calls ++ recordedOf steps := by
  induction steps generalizing e with
  | nil => exact (List.append_nil _).symm
  | cons s rest ih =>
    obtain ⟨r, w⟩ := s
    obtain ⟨hbare, hcalls⟩ := r.after_calls he w
    show ((r.after e w).after rest).calls = _
    rw [ih hbare, hcalls, recordedOf_cons, List.append_assoc]

/-- Two engines without a solver stay the same but for their logs and names while requests are made
to one of them and the recorded calls to the other one, if these are recorded as they are. -/
theorem after_again (he : e.IsBare) {steps : List (Request × Surroundings)}
    {replay : List (Call × Surroundings)}
    (hreplay : replay.map Prod.fst = (recordedOf steps).filter (!·.isWrite))
    (hlisted : ∀ s ∈ replay, s.1.listed s.2.view = .ok s.1)
    (calls : List Call) (name : Value) (calls' : List Call) (name' : Value) :
    ∃ e' : Engine,
      (e.disguise calls name).after steps = e'.disguise (calls ++ recordedOf steps) name ∧
      (e.disguise calls' name').after (replay.map (Prod.map .call id)) =
        e'.disguise (calls' ++ replay.map Prod.fst) name' := by
  induction steps generalizing e replay calls calls' with
  | nil =>
    obtain rfl := List.map_eq_nil_iff.1 hreplay
    exact ⟨e, by simp [recordedOf, after], by simp [after]⟩
  | cons s rest ih =>
    obtain ⟨r, w⟩ := s
    have hbare : (e.disguise calls name).IsBare := he
    rw [recordedOf_cons] at hreplay ⊢
    have hcons : (e.disguise calls name).after ((r, w) :: rest) =
      (r.after (e.disguise calls name) w).after rest := rfl
    rcases r.after_cases hbare (w := w) with ⟨h, hr⟩ | ⟨file, h, hr⟩ | ⟨d, c, rfl, hd, h⟩
    · rw [hr] at hreplay ⊢
      rw [hcons, h]
      exact ih he hreplay hlisted calls calls'
    · -- the first engine records the call, and the other one never hears of it
      rw [hr] at hreplay ⊢
      rw [hcons, h, he.record_disguise, Option.toList_some, ← List.append_assoc]
      exact ih he hreplay hlisted (calls ++ [.write file]) calls'
    · have hr : (Request.call d).recorded? w.view = some c := by
        rw [Request.recorded?, h]
        rfl
      have hc : c.isWrite = false := (Call.isWrite_listed h).trans hd
      rw [hr, Option.toList_some, List.singleton_append, List.filter_cons_of_pos (by rw [hc]; rfl)]
        at hreplay
      obtain ⟨⟨c', w'⟩, replay', rfl, hc', hreplay'⟩ := List.map_eq_cons_iff.1 hreplay
      obtain rfl : c' = c := hc'
      obtain ⟨e₁, he₁, hs, ht⟩ := run_listed he hd h (hlisted _ List.mem_cons_self)
        calls name calls' name'
      obtain ⟨e', hs', ht'⟩ := ih he₁ hreplay'
        (fun s hs => hlisted s (List.mem_cons_of_mem _ hs)) (calls ++ [c']) (calls' ++ [c'])
      refine ⟨e', ?_, ?_⟩
      · rw [hcons, hr, Option.toList_some, ← List.append_assoc, ← hs']
        exact congrArg (after · rest) hs
      · rw [List.map_cons (f := Prod.fst), List.append_cons, ← ht']
        exact congrArg (after · (replay'.map (Prod.map .call id))) ht

/-- A list of as many results as there are elements has one of each. -/
theorem eq_some_of_filterMap {f : α → Option β} {g : α → β} {xs : List α}
    (h : xs.filterMap f = xs.map g) : ∀ x ∈ xs, f x = some (g x) := by
  induction xs with
  | nil => exact nofun
  | cons x rest ih =>
    rw [List.filterMap_cons] at h
    cases hx : f x with
    | none =>
      rw [hx] at h
      have hlength := List.length_filterMap_le f rest
      have hshort := congrArg List.length h
      simp only [List.length_map, List.length_cons] at hshort
      omega
    | some y =>
      rw [hx] at h
      obtain ⟨rfl, hrest⟩ := List.cons.inj h
      exact List.forall_mem_cons.2 ⟨hx, ih hrest⟩

/-- A new engine to which the recorded calls are made again, but for those that write files, becomes
the same engine with the same log, if every sequence in the log is missing or a list. Otherwise the
logs differ. -/
theorem after_replay_iff {backend : Backend}
    (hbackend : backend = .store ∨ backend = .nearestToZero) (name name' : Value)
    (steps : List (Request × Surroundings)) (replay : List (Call × Surroundings))
    (hreplay : replay.map Prod.fst =
      (after { backend, modelName := name } steps).calls.filter (!·.isWrite)) :
    after { backend, modelName := name' } (replay.map (Prod.map .call id)) =
        (after { backend, modelName := name } steps).disguise (replay.map Prod.fst) name' ↔
      ∀ c ∈ replay.map Prod.fst, c.sequences.all isListed = true := by
  have hnew : ({ backend } : Engine).IsBare := hbackend
  have hlog : (after { backend, modelName := name } steps).calls = recordedOf steps :=
    after_calls (e := { backend, modelName := name }) hbackend steps
  rw [hlog] at hreplay
  constructor
  · intro h
    have hcalls : recordedOf (replay.map (Prod.map .call id)) = replay.map Prod.fst := by
      rw [← List.nil_append (recordedOf _), ← after_calls (e := { backend, modelName := name' })
        hbackend, h]
      rfl
    rw [recordedOf, List.filterMap_map] at hcalls
    intro c hc
    obtain ⟨⟨c, w⟩, hmem, rfl⟩ := List.mem_map.1 hc
    have hsome : (c.listed w.view).toOption = some c := eq_some_of_filterMap hcalls _ hmem
    refine (Call.listed_eq_self_iff w.view c).1 ?_
    cases hlisted : c.listed w.view with
    | ok c' =>
      rw [hlisted] at hsome
      exact congrArg Except.ok (Option.some.inj hsome)
    | error x =>
      rw [hlisted] at hsome
      cases hsome
  · intro h
    have hlisted (s) (hs : s ∈ replay) : s.1.listed s.2.view = .ok s.1 :=
      (Call.listed_eq_self_iff _ _).2 (h _ (List.mem_map_of_mem hs))
    obtain ⟨e', hs, ht⟩ := after_again hnew hreplay hlisted [] name [] name'
    have hfirst : after { backend, modelName := name } steps =
        e'.disguise (recordedOf steps) name := hs
    rw [hfirst]
    exact ht

/-- A model that is built, solved, written and read. -/
def solving : List Request :=
  [.call (.addVar (.int 1) (.int 0) (.int 5) (.text "C") .nothing),
    .call (.addConstraint (.int 1) (.tuple [.int 0]) (.list [.int 1]) (.text "L") (.int 3)
      .nothing),
    .call .optimize, .call (.write (.text "m.lp")), .objective (.text objectiveAttribute)]

/-- The calls of `solving` that are made again. -/
def solvingAgain : List Call :=
  [.addVar (.int 1) (.int 0) (.int 5) (.text "C") .nothing,
    .addConstraint (.int 1) (.list [.int 0]) (.list [.int 1]) (.text "L") (.int 3) .nothing,
    .optimize]

theorem after_replay_iff_solving :
    after { backend := .nearestToZero, modelName := .text "again" }
        (solvingAgain.map fun c => (.call c, { view := .blank })) =
      (after { backend := .nearestToZero, modelName := .text "first" }
        (solving.map fun r => (r, { view := .blank }))).disguise solvingAgain (.text "again") := by
  have hlog : solvingAgain = ((after { backend := .nearestToZero, modelName := .text "first" }
      (solving.map fun r => (r, { view := .blank }))).calls.filter (!·.isWrite)) := by
    rw [after_calls (.inr rfl)]
    rfl
  exact (after_replay_iff (.inr rfl) (.text "first") (.text "again")
    (solving.map fun r => (r, { view := .blank }))
    (solvingAgain.map fun c => (c, { view := .blank })) hlog).2 (by decide)

/-- An array without dimensions is recorded as its element, and then refused in its place. -/
theorem element_again :
    (after { backend := .nearestToZero } [(.call (.addVars (.int 1) (.number (.cell (.signed 5)))
      (.list [.int 0]) (.list [.int 1]) (.list [.text "C"]) .nothing), { view := .blank })]).calls =
      [.addVars (.int 1) (.int 5) (.list [.int 0]) (.list [.int 1]) (.list [.text "C"]) .nothing] ∧
    (after { backend := .nearestToZero } [(.call (.addVars (.int 1) (.int 5)
      (.list [.int 0]) (.list [.int 1]) (.list [.text "C"]) .nothing), { view := .blank })]).calls =
      [] := by
  refine ⟨?_, ?_⟩
  · rw [after_calls (.inr rfl)]
    rfl
  · rw [after_calls (.inr rfl)]
    rfl

end Engine

end Milp

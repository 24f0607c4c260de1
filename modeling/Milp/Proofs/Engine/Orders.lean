import Milp.Proofs.Engine.Memory
import Milp.Proofs.Engine.Replay
set_option autoImplicit false

/-! # Orders to fail

A request of an operation for which an engine has an order to fail answers with the code of the order
and does nothing else (`Request.perform_run_fails`). Without such an order it does what an engine does
that stays near zero and takes no orders (`Request.perform_run_nearZero`), whatever is ordered for
other operations (`Request.overlooks`). -/

namespace Milp

open Milp.Action

/-- What is the same key as a text is the same as all that is the same as the text. -/
theorem Value.same_text_of_same {k v : Value} {s : String} (hk : k.same (.text s) = true)
    (hv : k.same v = true) : v.same (.text s) = true := by
  cases k with
  | text t | textItem t =>
    simp only [same, decide_eq_true_eq] at hk
    subst hk
    cases v with
    | text u | textItem u =>
      simp only [same, decide_eq_true_eq] at hv ⊢
      exact hv.symm
    | _ => simp [same] at hv
  | _ => simp [same] at hk

namespace Engine

/-- Whether an engine can be told to fail. -/
def TakesOrders (e : Engine) : Prop := ∃ fs, e.backend = .faulty fs

section

variable {e : Engine} {operation other : String} {f : InjectedFailure}
  {next : Option InjectedFailure}

theorem TakesOrders.isNative (he : e.TakesOrders) : e.isNative = false := by
  obtain ⟨fs, hfs⟩ := he
  rw [Engine.isNative, hfs]

theorem TakesOrders.of_backend {f : Engine} (he : e.TakesOrders) (h : f.backend = e.backend) :
    f.TakesOrders := by
  rwa [TakesOrders, h]

theorem takesOrders_setInjected (he : e.TakesOrders) :
    (e.setInjected operation next).TakesOrders := by
  obtain ⟨fs, hfs⟩ := he
  rw [TakesOrders, setInjected, hfs]
  exact ⟨_, rfl⟩

theorem takesOrders_failOn (he : e.TakesOrders) : (e.failOn f).TakesOrders := by
  obtain ⟨fs, hfs⟩ := he
  rw [TakesOrders, failOn, hfs]
  exact ⟨_, rfl⟩

theorem injected?_setInjected_self (he : e.TakesOrders)
    (hnext : ∀ order, next = some order → order.operation.same (.text operation) = true) :
    (e.setInjected operation next).injected? operation = next := by
  obtain ⟨backend⟩ := e
  obtain ⟨fs, rfl⟩ := he
  show List.find? _ (next.toList ++ fs.filter _) = next
  cases next with
  | none => simp
  | some order => simp [hnext order rfl]

/-- The order for an operation is the one that has been given last. -/
theorem injected?_failOn_self (he : e.TakesOrders) (h : f.operation.same (.text operation) = true) :
    (e.failOn f).injected? operation = some f := by
  obtain ⟨backend⟩ := e
  obtain ⟨fs, rfl⟩ := he
  show List.find? (fun order : InjectedFailure => order.operation.same (.text operation)) (f :: _) = _
  exact List.find?_cons_of_pos h

/-- An order for another operation makes no difference. -/
theorem injected?_failOn (h : f.operation.same (.text operation) = false) :
    (e.failOn f).injected? operation = e.injected? operation := by
  obtain ⟨backend⟩ := e
  cases backend with
  | faulty fs =>
    -- an order that the new one replaces is for the same operation, and so not for this one
    simp only [failOn, injected?]
    rw [List.find?_cons_of_neg (by simp [h]), List.find?_filter]
    congr 1
    funext order
    cases horder : order.operation.same (.text operation) with
    | false => simp
    | true =>
      cases hf : order.operation.same f.operation with
      | false => rfl
      | true => cases h.symm.trans (Value.same_text_of_same horder hf)
  | _ => rfl

theorem record_setInjected (c : Call) :
    (e.setInjected operation next).record c = (e.record c).setInjected operation next := by
  obtain ⟨backend⟩ := e
  cases backend <;> rfl

/-- Orders for two operations are dropped and replaced one by one. -/
theorem setInjected_comm (hne : other ≠ operation)
    (hnext : ∀ order, next = some order → order.operation.same (.text other) = true) :
    (e.setInjected operation none).setInjected other next =
      (e.setInjected other next).setInjected operation none := by
  obtain ⟨backend⟩ := e
  cases backend with
  | faulty fs =>
    have hkept : next.toList.filter (fun order => !order.operation.same (.text operation)) =
        next.toList := by
      cases next with
      | none => rfl
      | some order =>
        have hthis : order.operation.same (.text operation) = false := by
          rw [SettingsNode.same_text_of_same (hnext order rfl), decide_eq_false hne]
        simp [hthis]
    simp only [setInjected, Option.toList_none, List.nil_append, List.filter_append,
      List.filter_filter, hkept, Bool.and_comm]
  | _ => rfl

end

/-! ## Requests -/

namespace Request

/-- Makes a request. A call answers with its status alone. -/
def run : Request → Acting Answer
  | call d => do return (← d.run, .nothing)
  | modelAttribute attr => getModelAttribute attr
  | objective attr => getObjective attr
  | varAttribute attr index => getVarAttribute attr index
  | constraintAttribute attr index => getConstraintAttribute attr index

/-- The name of the operation, by which a request can be made to fail. -/
def operation : Request → String
  | call d => d.operation
  | modelAttribute _ => "get_int_attr"
  | objective _ => "get_dbl_attr"
  | varAttribute .. => "get_var_attr"
  | constraintAttribute .. => "get_constr_attr"

/-- Whether all sequences that a request is made with can be listed. If not, it fails before anything
else. -/
def isListable (view : View) : Request → Bool
  | call d => (d.listed view).isOk
  | _ => true

theorem run_after {e : Engine} {w : Surroundings} (r : Request) : (r.run.perform (e, w)).2.1 = r.after e w := by
  cases r with
  | call d =>
    rw [run, perform_bind, after]
    rcases d.run.perform (e, w) with ⟨o, t⟩
    cases o <;> rfl
  | _ => rfl

/-- A request that is no call is answered by a reader, unless it is made to fail, and never
recorded. -/
theorem exists_reader {R : Engine × Surroundings → Engine × Surroundings → Prop} (hR : Parallel R)
    (r : Request) : (∃ d, r = call d) ∨
      (∃ x, Lockstep R x ∧ r.run = readUnlessInjected r.operation x) ∧
        ∀ view, r.recorded? view = none := by
  cases r with
  | call d => exact .inl ⟨d, rfl⟩
  | modelAttribute attr => exact .inr ⟨hR.getModelAttribute_read attr, fun _ => rfl⟩
  | objective attr => exact .inr ⟨hR.getObjective_read attr, fun _ => rfl⟩
  | varAttribute attr index => exact .inr ⟨hR.getVarAttribute_read attr index, fun _ => rfl⟩
  | constraintAttribute attr index =>
    exact .inr ⟨hR.getConstraintAttribute_read attr index, fun _ => rfl⟩

end Request

/-! ## Requests that are made to fail -/

/-- A recorded call that is made to fail answers with the code of the order, which is counted down. -/
theorem perform_guarded_fails {e : Engine} {w : Surroundings} {c : Call} (hc : c.operation ≠ "end")
    {order : InjectedFailure} {next : Option InjectedFailure}
    (horder : e.injected? c.operation = some order) (hnext : order.next = .ok next)
    (htrue : order.code.truthy w.view = .ok true) (work : Acting Value) :
    (c.guarded work).perform (e, w) = (.ok order.code, e.setInjected c.operation next, w) := by
  cases c with
  | updateModel => exact perform_injectedCode_ok horder hnext w
  | finish => exact absurd rfl hc
  | _ => exact perform_unlessInjected_fails horder hnext htrue id work

namespace Request

variable {e : Engine} {w : Surroundings} {r : Request}

/-- A request that cannot be listed fails in the same way everywhere. -/
theorem exists_run_unlisted (h : r.isListable w.view = false) : ∃ x, ∀ e : Engine,
    e.isNative = false → r.run.perform (e, w) = (.error x, e, w) := by
  cases r with
  | call d =>
    cases hd : d.listed w.view with
    | error x => exact ⟨.fault x, fun e he => perform_bind_of_error (perform_run_unlisted he hd)⟩
    | ok c => simp [isListable, hd, Except.isOk, Except.toBool] at h
  | _ => cases h

/-- A request that is made to fail changes nothing but the log and the order. -/
theorem perform_run_fails (he : e.TakesOrders) (hr : r.operation ≠ "end")
    (hlisted : r.isListable w.view = true) {order : InjectedFailure}
    {next : Option InjectedFailure} (horder : e.injected? r.operation = some order)
    (hnext : order.next = .ok next) (htrue : order.code.truthy w.view = .ok true) :
    r.run.perform (e, w) = (.ok (order.code, .nothing),
      { e with calls := e.calls ++ (r.recorded? w.view).toList }.setInjected r.operation next,
      w) := by
  rcases exists_reader parallel_eq r with ⟨d, rfl⟩ | ⟨⟨x, -, hx⟩, hrecorded⟩
  · obtain ⟨work, -, -, hrun⟩ := parallel_eq.exists_work
    cases hd : d.listed w.view with
    | error x => simp [isListable, hd, Except.isOk, Except.toBool] at hlisted
    | ok c =>
      have hoperation : d.operation = c.operation := (Call.operation_listed hd).symm
      have hcalled : d.run.perform (e, w) = (.ok order.code,
          { e with calls := e.calls ++ [c] }.setInjected d.operation next, w) := by
        rw [operation, hoperation] at hr horder
        rw [hrun d he.isNative, hd, hoperation, ← record_of_not_native he.isNative]
        refine perform_guarded_fails (e := e.record c) hr ?_ hnext htrue (work c)
        rwa [record_of_not_native he.isNative]
      rw [run, perform_bind_of_ok hcalled, recorded?, hd]
      rfl
  · rw [hx, hrecorded, Option.toList_none, List.append_nil]
    exact perform_unlessInjected_fails horder hnext htrue _ x

end Request

/-! ## Requests beside each other -/

/-- Two engines in the same surroundings. -/
inductive Beside (S : Engine → Engine → Prop) :
    Engine × Surroundings → Engine × Surroundings → Prop
  | intro {e f : Engine} (h : S e f) (w : Surroundings) : Beside S (e, w) (f, w)

/-- A relation between engines with the same model and the same order for an operation. The first one
takes orders; the second one takes orders as well, or stays near zero without any. -/
structure Companion (operation : String) (S : Engine → Engine → Prop) : Prop where
  takesOrders {e f : Engine} (h : S e f) : e.TakesOrders
  kind {e f : Engine} (h : S e f) : f.backend = .nearestToZero ∨ f.TakesOrders
  same {e f : Engine} (h : S e f) : f = { e with backend := f.backend }
  change {e f : Engine} {g : Engine → Engine} (hg : Inner g) (h : S e f) : S (g e) (g f)
  record {e f : Engine} (c : Call) (h : S e f) : S (e.record c) (f.record c)
  injected? {e f : Engine} (h : S e f) : f.injected? operation = e.injected? operation
  countDown {e f : Engine} (h : S e f) {order : InjectedFailure} {next : Option InjectedFailure}
    (horder : e.injected? operation = some order) (hnext : order.next = .ok next) :
    S (e.setInjected operation next) (f.setInjected operation next)

namespace Companion

variable {operation : String} {S : Engine → Engine → Prop} (hS : Companion operation S)
include hS

theorem not_native {e f : Engine} (h : S e f) : e.isNative = false ∧ f.isNative = false := by
  refine ⟨(hS.takesOrders h).isNative, ?_⟩
  rcases hS.kind h with hf | hf
  · rw [Engine.isNative, hf]
  · exact hf.isNative

theorem parallel : Parallel (Beside S) where
  engine := by
    rintro _ _ ⟨h, w⟩
    show _ = rehouse _ _ _ _
    rw [hS.same h]
    rfl
  isNative := by
    rintro _ _ ⟨h, w⟩
    obtain ⟨he, hf⟩ := hS.not_native h
    exact hf.trans he.symm
  canSolve := by
    rintro _ _ ⟨h, w⟩
    obtain ⟨fs, he⟩ := hS.takesOrders h
    show Engine.canSolve _ = Engine.canSolve _
    rcases hS.kind h with hf | ⟨gs, hf⟩ <;> rw [Engine.canSolve, Engine.canSolve, he, hf]
  change := by
    rintro _ _ g hg ⟨h, w⟩
    exact ⟨hS.change hg h, w⟩
  native := by
    rintro _ _ - _ _ ⟨h, w⟩ hs
    cases hs.symm.trans (hS.not_native h).1

theorem sharesOrder : SharesOrder operation (Beside S) where
  injected? := by
    rintro _ _ ⟨h, w⟩
    exact hS.injected? h
  countDown := by
    rintro _ _ ⟨h, w⟩ order next horder hnext
    exact ⟨rfl, hS.countDown h horder hnext, w⟩

theorem lockstep_writePrinted (names : List String) :
    Lockstep (Beside S) (writePrinted names) := by
  rintro _ _ @⟨e, f, h, w⟩
  have hprinted : f.printed = e.printed := by
    rw [hS.same h]
    rfl
  rw [writePrinted, perform_get_bind, perform_get_bind]
  dsimp only
  rw [hprinted]
  generalize e.printed.text w.view (.int 1) = printing
  rw [perform_set_bind, perform_set_bind]
  cases printing.2 with
  | some f => exact ⟨rfl, h, _⟩
  | none => exact ⟨rfl, h, _⟩

theorem lockstep_writeFile (path : String) : Lockstep (Beside S) (writeFile path) := by
  rintro _ _ ⟨h, w⟩
  simp only [writeFile, perform_get_bind]
  split
  · exact hS.lockstep_writePrinted _ _ _ ⟨h, w⟩
  · exact ⟨rfl, h, w⟩
  · exact ⟨rfl, h, w⟩

/-- Both engines write the same file. -/
theorem lockstep_writeLp (file : Value) : Lockstep (Beside S) (writeLp file) := by
  refine Agree.get_bind ?_
  rintro _ _ ⟨h, w⟩
  refine Agree.ite (Agree.pure _) ?_ _ _ ⟨h, w⟩
  split
  · exact hS.lockstep_writeFile _
  · exact Agree.throw _

theorem lockstep_call {d : Call} (hd : d.operation = operation) :
    Lockstep (Beside S) d.run := by
  obtain ⟨work, hwork, hwrite, hrun⟩ := hS.parallel.exists_work
  have hworks (c : Call) : Lockstep (Beside S) (work c) := by
    cases c with
    | write file => exact hwrite file ▸ hS.lockstep_writeLp file
    | _ => exact hwork _ rfl
  rintro _ _ ⟨h, w⟩
  obtain ⟨he, hf⟩ := hS.not_native h
  rw [hrun d he, hrun d hf]
  -- both list the sequences of the call first, and see the same of them
  cases hlisted : d.listed w.view with
  | error x => exact ⟨rfl, h, w⟩
  | ok c =>
    have hshares : SharesOrder c.operation (Beside S) := by
      rw [Call.operation_listed hlisted, hd]
      exact hS.sharesOrder
    exact hshares.lockstep_guarded (hworks c) _ _ ⟨hS.record c h, w⟩

theorem lockstep_run {r : Request} (hr : r.operation = operation) :
    Lockstep (Beside S) r.run := by
  rcases Request.exists_reader hS.parallel r with ⟨d, rfl⟩ | ⟨⟨x, hx, hrun⟩, -⟩
  · exact (hS.lockstep_call hr).bind fun _ => Agree.pure _
  · rw [hrun, hr]
    exact hS.sharesOrder.lockstep_unlessInjected _ hx

end Companion

/-! ### An engine that cannot be made to fail -/

/-- A change of the model alone is the same with something else behind an engine. -/
theorem Inner.withBackend {g : Engine → Engine} (hg : Inner g) (e : Engine) (backend : Backend) :
    g { e with backend } = { g e with backend } :=
  calc g { e with backend }
      = rehouse (g e) e.calls e.modelName backend := hg e e.calls e.modelName backend
    _ = { rehouse (g e) e.calls e.modelName e.backend with backend } := rfl
    _ = { g e with backend } := by rw [← hg.eq_rehouse]

/-- The second engine holds the same as the first one, which has some orders, and takes none. -/
def Untroubled (fs : List InjectedFailure) (e f : Engine) : Prop :=
  e.backend = .faulty fs ∧ f = { e with backend := .nearestToZero }

/-- Where there is no order for an operation, the other orders make no difference. -/
theorem untroubled_companion {fs : List InjectedFailure} {operation : String}
    (h : (fs.find? fun order => order.operation.same (.text operation)) = none) :
    Companion operation (Untroubled fs) where
  takesOrders h := ⟨fs, h.1⟩
  kind := by
    rintro e _ ⟨-, rfl⟩
    exact .inl rfl
  same := by
    rintro e _ ⟨-, rfl⟩
    rfl
  change := by
    rintro e _ g hg ⟨he, rfl⟩
    exact ⟨(hg.backend e).trans he, hg.withBackend e .nearestToZero⟩
  record := by
    rintro e _ c ⟨he, rfl⟩
    have htakes : e.TakesOrders := ⟨fs, he⟩
    rw [record_of_not_native htakes.isNative]
    exact ⟨he, rfl⟩
  injected? := by
    rintro e _ ⟨he, rfl⟩
    rw [Engine.injected?.eq_def e, he]
    exact h.symm
  countDown := by
    rintro e _ ⟨he, rfl⟩ order next horder -
    rw [Engine.injected?, he] at horder
    cases h.symm.trans horder

/-- What an engine would do if it stayed near zero and could not be made to fail. -/
def nearZero {α : Type} (x : Acting α) : Acting α :=
  Action.within (fun e => { e with backend := .nearestToZero })
    (fun f e => { f with backend := e.backend }) x

theorem Request.perform_run_nearZero {e : Engine} {r : Request} (he : e.TakesOrders)
    (h : e.injected? r.operation = none) (w : Surroundings) :
    r.run.perform (e, w) = (nearZero r.run).perform (e, w) := by
  obtain ⟨fs, hfs⟩ := he
  have hnone : (fs.find? fun order => order.operation.same (.text r.operation)) = none := by
    rwa [Engine.injected?, hfs] at h
  obtain ⟨houtcome, hbeside⟩ := (untroubled_companion hnone).lockstep_run rfl (e, w) _
    ⟨⟨hfs, rfl⟩, w⟩
  -- what the request does near zero is all it does, as the orders stay what they are
  rw [nearZero, within_run]
  generalize r.run.perform (e, w) = s at houtcome hbeside ⊢
  generalize r.run.perform ({ e with backend := .nearestToZero }, w) = t at houtcome hbeside ⊢
  obtain ⟨o, s⟩ := s
  obtain ⟨o', t⟩ := t
  obtain rfl : o = o' := houtcome
  obtain @⟨e', _, ⟨hbackend, rfl⟩, w'⟩ := hbeside
  rw [hfs, ← hbackend]

/-! ### An engine without one of its orders -/

/-- The second engine holds the same as the first one, but for the order for an operation, which it
does not have. -/
def Relieved (operation : String) (order : Option InjectedFailure) (e f : Engine) : Prop :=
  e.TakesOrders ∧ e.injected? operation = order ∧ f = e.setInjected operation none

theorem setInjected_of_faulty {e : Engine} {fs : List InjectedFailure} (he : e.backend = .faulty fs)
    (operation : String) (next : Option InjectedFailure) :
    e.setInjected operation next = { e with
      backend := .faulty
        (next.toList ++ fs.filter fun order => !order.operation.same (.text operation)) } := by
  rw [setInjected, he]

/-- Where there is another order for an operation, an order makes no difference. -/
theorem relieved_companion {operation other : String} (hne : other ≠ operation)
    (order : Option InjectedFailure) : Companion other (Relieved operation order) where
  takesOrders h := h.1
  kind := by
    rintro e _ ⟨he, -, rfl⟩
    exact .inr (takesOrders_setInjected he)
  same := by
    rintro e _ ⟨⟨fs, hfs⟩, -, rfl⟩
    rw [setInjected_of_faulty hfs]
  change := by
    rintro e _ g hg ⟨⟨fs, hfs⟩, horder, rfl⟩
    have hbackend := hg.backend e
    refine ⟨⟨fs, hbackend.trans hfs⟩, ?_, ?_⟩
    · rw [← horder, Engine.injected?, Engine.injected?, hbackend]
    · rw [setInjected_of_faulty hfs, setInjected_of_faulty (hbackend.trans hfs), hg.withBackend]
  record := by
    rintro e _ c ⟨he, horder, rfl⟩
    refine ⟨?_, ?_, record_setInjected c⟩ <;> rw [record_of_not_native he.isNative]
    · exact he
    · exact horder
  injected? := by
    rintro e _ ⟨he, -, rfl⟩
    exact injected?_setInjected hne (by simp)
  countDown := by
    rintro e _ ⟨he, horder, rfl⟩ f next hf hnext
    -- the order that is counted down is for the other operation before and after
    have hnext' : ∀ order, next = some order → order.operation.same (.text other) = true := by
      rintro order rfl
      rw [operation_of_next hnext]
      exact operation_of_injected? hf
    exact ⟨takesOrders_setInjected he,
      (injected?_setInjected hne.symm hnext').trans horder, setInjected_comm hne hnext'⟩

/-- A request does what it would do without the order for an operation, which stays as it is. -/
structure Request.Overlooks (operation : String) (r : Request) (e : Engine) (w : Surroundings) :
    Prop where
  without : r.run.perform (e.setInjected operation none, w) =
    ((r.run.perform (e, w)).1, (r.run.perform (e, w)).2.1.setInjected operation none,
      (r.run.perform (e, w)).2.2)
  order : (r.run.perform (e, w)).2.1.injected? operation = e.injected? operation
  takesOrders : (r.run.perform (e, w)).2.1.TakesOrders

/-- An order makes no difference to requests of other operations. -/
theorem Request.overlooks {operation : String} {r : Request} (hr : r.operation ≠ operation)
    {e : Engine} (he : e.TakesOrders) (w : Surroundings) : r.Overlooks operation e w := by
  obtain ⟨houtcome, hbeside⟩ := (relieved_companion hr _).lockstep_run rfl (e, w) _
    ⟨⟨he, rfl, rfl⟩, w⟩
  generalize hs : r.run.perform (e, w) = s at houtcome hbeside
  generalize ht : r.run.perform (e.setInjected operation none, w) = t at houtcome hbeside
  obtain ⟨o, s⟩ := s
  obtain ⟨o', t⟩ := t
  obtain rfl : o = o' := houtcome
  obtain @⟨e', _, ⟨htakes, horder, rfl⟩, w'⟩ := hbeside
  refine ⟨?_, ?_, ?_⟩ <;> rw [hs]
  · exact ht
  · exact horder
  · exact htakes

end Engine

end Milp

import Milp.Proofs.Engine.Parallel
set_option autoImplicit false

/-! # What two engines do alike

What an engine does with its model depends neither on its log of calls nor on its name. So two engines
that differ in these only do the same in every operation. `Matching` says what is needed of a
relation between engines for that, and each operation is carried out in lockstep by engines that
match. -/

namespace Milp

/-- Whether a call asks for a file. -/
def Call.isWrite : Call → Bool
  | .write _ => true
  | _ => false

namespace Engine

open Milp.Action

/-! ## Engines that match -/

/-- The same engine with another log of calls, for a model of another name. -/
def disguise (e : Engine) (calls : List Call) (modelName : Value) : Engine :=
  { e with calls, modelName }

/-- An engine that neither has a solver nor can be told to fail. -/
def IsBare (e : Engine) : Prop := e.backend = .store ∨ e.backend = .nearestToZero

theorem IsBare.isNative {e : Engine} (h : e.IsBare) : e.isNative = false := by
  rw [Engine.isNative]
  rcases h with h | h <;> rw [h]

theorem IsBare.injected? {e : Engine} (h : e.IsBare) (operation : String) :
    e.injected? operation = none := by
  rw [Engine.injected?]
  rcases h with h | h <;> rw [h]

/-- A change to which neither the log of calls nor the name matters, and which puts nothing behind
an engine. -/
structure Plain (f : Engine → Engine) : Prop where
  disguise (e : Engine) (calls : List Call) (modelName : Value) :
    f (disguise e calls modelName) = disguise (f e) calls modelName
  backend (e : Engine) (h : e.IsBare) : (f e).backend = e.backend := by intros; rfl

/-- The log of calls stays as it is. -/
theorem Plain.calls {f : Engine → Engine} (hf : Plain f) (e : Engine) : (f e).calls = e.calls := by
  have hsame : f e = (f e).disguise e.calls e.modelName := hf.disguise e e.calls e.modelName
  rw [hsame]
  rfl

theorem Plain.isBare {f : Engine → Engine} (hf : Plain f) {e : Engine} (h : e.IsBare) :
    (f e).IsBare := by
  rwa [IsBare, hf.backend e h]

/-- A relation between engines that do the same with their models, whatever their logs and names. -/
structure Matching (R : Engine × Surroundings → Engine × Surroundings → Prop) : Prop where
  engine {s t : Engine × Surroundings} (h : R s t) :
    ∃ calls modelName, t.1 = disguise s.1 calls modelName
  change {s t : Engine × Surroundings} {f : Engine → Engine} (hf : Plain f) (h : R s t) :
    R (f s.1, s.2) (f t.1, t.2)
  /-- Orders to fail are read in the same way, if there are any. -/
  view {s t : Engine × Surroundings} (h : R s t) :
    (∀ operation, s.1.injected? operation = none) ∨ t.2.view = s.2.view
  /-- The native solver behind them does the same, if there is one. -/
  native {α : Type} {x : Acting α} (hx : Mute x) {s t : Engine × Surroundings} (h : R s t)
    (hs : s.1.isNative = true) :
    (x.perform s).1 = (x.perform t).1 ∧ R (x.perform s).2 (x.perform t).2

/-- Engines go on matching when both record a call. -/
structure Recording (R : Engine × Surroundings → Engine × Surroundings → Prop) : Prop
    extends Matching R where
  record {s t : Engine × Surroundings} {c : Call} (hc : c.isWrite = false) (h : R s t) :
    R (s.1.record c, s.2) (t.1.record c, t.2)

theorem sameButLog_recording (l l' : List LogRecord) : Recording (SameButLog l l') where
  engine := by
    rintro s _ ⟨-, rfl⟩
    exact ⟨s.1.calls, s.1.modelName, rfl⟩
  change := by
    rintro s _ f - ⟨hl, rfl⟩
    exact ⟨hl, rfl⟩
  record := by
    rintro s _ c - ⟨hl, rfl⟩
    exact ⟨hl, rfl⟩
  view := by
    rintro s _ ⟨-, rfl⟩
    exact .inr rfl
  native hx _ _ h _ := hx l l' _ _ h

/-- A change of the model alone is a plain one. -/
theorem Inner.plain {f : Engine → Engine} (hf : Inner f) : Plain f where
  disguise e calls modelName := by
    show f (e.rehouse calls modelName e.backend) = (f e).rehouse calls modelName (f e).backend
    rw [hf.backend]
    exact hf e calls modelName e.backend
  backend e _ := hf.backend e

namespace Matching

variable {R : Engine × Surroundings → Engine × Surroundings → Prop} (hR : Matching R) {α : Type}
include hR

/-- Engines that match do the same work. -/
theorem parallel : Parallel R where
  engine h := by
    obtain ⟨calls, modelName, ht⟩ := hR.engine h
    rw [ht]
    rfl
  isNative h := by
    obtain ⟨calls, modelName, ht⟩ := hR.engine h
    rw [ht]
    rfl
  canSolve h := by
    obtain ⟨calls, modelName, ht⟩ := hR.engine h
    rw [ht]
    rfl
  change hf h := hR.change hf.plain h
  native := hR.native

theorem injected?_eq {s t : Engine × Surroundings} (h : R s t) (operation : String) :
    t.1.injected? operation = s.1.injected? operation := by
  obtain ⟨calls, modelName, ht⟩ := hR.engine h
  rw [ht]
  rfl

omit hR in
theorem setInjected_plain (operation : String) (f : Option InjectedFailure) :
    Plain (·.setInjected operation f) where
  disguise := by
    rintro ⟨backend⟩ calls modelName
    cases backend <;> rfl
  backend := by
    rintro ⟨backend⟩ h
    rcases h with h | h <;> cases h <;> rfl

/-- Engines that match have the same orders to fail. -/
theorem sharesOrder (operation : String) : SharesOrder operation R where
  injected? h := hR.injected?_eq h operation
  countDown {s t} h f next hf hnext := by
    refine ⟨?_, hR.change (setInjected_plain operation next) h⟩
    rcases hR.view h with hnone | hview
    · exact absurd (hnone operation) (hf ▸ Option.some_ne_none f)
    · exact hview

end Matching

/-! ### Calls -/

namespace Recording

variable {R : Engine × Surroundings → Engine × Surroundings → Prop} (hR : Recording R)
include hR

theorem lockstep_recorded {c : Call} (hc : c.isWrite = false) {x : Acting Value}
    (hx : Lockstep R x) : Lockstep R (recorded c x) :=
  Agree.bind (Agree.modify fun _ _ h => hR.record hc h) fun _ =>
    (hR.sharesOrder _).lockstep_unlessInjected _ hx

theorem lockstep_addVar (objective lower upper kind name : Value) :
    Lockstep R (addVar objective lower upper kind name) := by
  obtain ⟨x, hx, heq⟩ := hR.parallel.addVar_recorded objective lower upper kind name
  exact heq ▸ hR.lockstep_recorded rfl hx

theorem lockstep_addVars (hlist : ∀ v, Lockstep R (list v))
    (count objectives lowers uppers kinds names : Value) :
    Lockstep R (addVars count objectives lowers uppers kinds names) := by
  obtain ⟨x, hx, heq⟩ := hR.parallel.addVars_recorded count
  rw [heq]
  exact (hlist _).bind fun _ => (hlist _).bind fun _ => (hlist _).bind fun _ => (hlist _).bind
    fun _ => (hlist _).bind fun _ => hR.lockstep_recorded rfl (hx _ _ _ _ _)

theorem lockstep_addConstraint (hlist : ∀ v, Lockstep R (list v))
    (size indices values sense bound name : Value) :
    Lockstep R (addConstraint size indices values sense bound name) := by
  obtain ⟨x, hx, heq⟩ := hR.parallel.addConstraint_recorded size sense bound name
  rw [heq]
  exact (hlist _).bind fun _ => (hlist _).bind fun _ => hR.lockstep_recorded rfl (hx _ _)

theorem lockstep_addConstraints (hlist : ∀ v, Lockstep R (list v))
    (count size begins indices values senses bounds names : Value) :
    Lockstep R (addConstraints count size begins indices values senses bounds names) := by
  obtain ⟨x, hx, heq⟩ := hR.parallel.addConstraints_recorded count size
  rw [heq]
  exact (hlist _).bind fun _ => (hlist _).bind fun _ => (hlist _).bind fun _ => (hlist _).bind
    fun _ => (hlist _).bind fun _ => (hlist _).bind fun _ =>
      hR.lockstep_recorded rfl (hx _ _ _ _ _ _)

theorem lockstep_updateModel : Lockstep R updateModel := by
  refine Parallel.engine_bind_at (fun s t h => by rw [hR.parallel.isNative h]) fun s t h => ?_
  exact Agree.ite (Agree.pure _) ((Agree.modify fun _ _ h => hR.record rfl h).bind fun _ =>
    (hR.sharesOrder _).lockstep_injectedCode) s t h

theorem lockstep_optimize : Lockstep R optimize := by
  obtain ⟨x, hx, heq⟩ := hR.parallel.optimize_recorded
  exact heq ▸ hR.lockstep_recorded rfl hx

theorem lockstep_computeIis : Lockstep R computeIis := by
  obtain ⟨x, hx, heq⟩ := hR.parallel.computeIis_recorded
  exact heq ▸ hR.lockstep_recorded rfl hx

theorem lockstep_setModelAttribute (attr value : Value) :
    Lockstep R (setModelAttribute attr value) := by
  obtain ⟨x, hx, heq⟩ := hR.parallel.setModelAttribute_recorded attr value
  exact heq ▸ hR.lockstep_recorded rfl hx

theorem lockstep_setParameter (name value : Value) : Lockstep R (setParameter name value) := by
  refine Parallel.engine_bind_at (fun s t h => by rw [hR.parallel.isNative h]) fun s t h => ?_
  cases hs : s.1.isNative with
  | true => exact hR.native (setNativeParameter_mute _ _) h hs
  | false => exact hR.lockstep_recorded rfl (hR.parallel.lockstep_keepParameter name value) s t h

theorem lockstep_finish : Lockstep R finish := by
  obtain ⟨x, hx, heq⟩ := hR.parallel.finish_recorded
  exact heq ▸ Agree.bind (Agree.modify fun _ _ h => hR.record rfl h) fun _ => hx

end Recording

end Engine

end Milp

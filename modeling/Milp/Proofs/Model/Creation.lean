import Milp.Proofs.Model.Change
set_option autoImplicit false

/-! # New models

A new model stores nothing and has a fresh engine, which has been given parameters: creating a model
comes to changes of such a model (`newModel_steps`). An engine that does not take its parameters is
told to finish, so none that a model gets has been (`newModel_ending`). -/

namespace Milp

open Milp.Action

/-! ## Fresh engines -/

/-- A fresh engine in its surroundings; one with the native solver behind it has a new instance that
has been told to print nothing. -/
inductive Engine.Fresh (w : Surroundings) : Engine × Surroundings → Prop
  | plain (backend : Backend) (modelName : Value) (h : ∀ i, backend ≠ .native i) :
      Fresh w ({ backend, modelName }, w)
  | native (modelName : Value) :
      Fresh w ({ backend := .native (some w.solver.instances.length), modelName },
        { w with
          solver := (w.solver.create.2.call w.solver.instances.length
            (.setOption (.text "output_flag") (.bool false))).2 })

theorem Backend.ofKey?_ne_native (key : String) (i : Option Nat) :
    Backend.ofKey? key ≠ some (.native i) := by
  unfold ofKey?
  split <;> simp

namespace EngineFactory

/-- The first engine that was made has changed aside only, and it was not told to finish. -/
def HasFirst (w : Surroundings) (t : List Engine × Surroundings) : Prop :=
  ∃ e s, t.1 = [e] ∧ Engine.Fresh w s ∧ Relation.ReflTransGen Engine.Aside s (e, t.2) ∧
    e.ending = s.1.ending

theorem keep_leads {w v : Surroundings} {e : Engine} (h : Engine.Fresh w (e, v)) :
    Leads (· = ([], v)) (keep e) (fun i t => i = 0 ∧ HasFirst w t) fun _ => True := by
  rintro _ rfl
  exact ⟨rfl, e, (e, v), rfl, h, .refl, rfl⟩

theorem makeNative_leads (w : Surroundings) (modelName : Value) :
    Leads (· = ([], w)) (makeNative modelName) (fun i t => i = 0 ∧ HasFirst w t)
      fun _ => True := by
  rintro _ rfl
  exact keep_leads (.native modelName) _ rfl

theorem make_leads (w : Surroundings) (key modelName : Value) :
    Leads (· = ([], w)) (make key modelName) (fun i t => i = 0 ∧ HasFirst w t)
      fun _ => True := by
  have hthrow (f : Failure) : Leads (· = ([], w)) (throw f : EngineFactory Nat)
      (fun i t => i = 0 ∧ HasFirst w t) fun _ => True := Leads.throw _ fun _ _ => trivial
  unfold make
  split
  · exact makeNative_leads w modelName
  · dsimp only
    split
    · exact makeNative_leads w modelName
    · split
      · rename_i backend hkey
        exact keep_leads (.plain backend modelName fun i hi => by
          rw [hi] at hkey
          exact Backend.ofKey?_ne_native _ _ hkey)
      · exact hthrow _
  · exact hthrow _
  · exact Leads.get_bind fun s hs => hs ▸ hthrow _

/-- Parameters are set aside, or the engine is told to finish and nothing comes of it. -/
theorem configure_leads (w : Surroundings) (ps : List (String × Value)) :
    Leads (HasFirst w) (configure 0 ps) (fun _ => HasFirst w) fun _ => True := by
  -- all parameters go to the engine at the first place, whatever they do to it
  have hfirst {α : Type} {x : Engine.Acting α} (hx : ∀ I, Engine.Patient I → Maintains I x) :
      Leads (HasFirst w) (onEngine 0 x) (fun _ => HasFirst w) fun _ => True := by
    refine (Leads.of_maintains (Maintains.within ?_)).mono (fun _ h => h) (fun _ _ h => h)
      fun _ _ => trivial
    rintro es v ⟨e, s, rfl, hs, he⟩
    have hI : Engine.Patient fun t =>
        Relation.ReflTransGen Engine.Aside s t ∧ t.1.ending = s.1.ending :=
      fun ha hending h => ⟨h.1.tail ha, hending.trans h.2⟩
    exact ⟨_, s, rfl, hs, hx _ hI (e, v) he⟩
  induction ps with
  | nil => exact Leads.pure fun _ h => h
  | cons p rest ih =>
    refine (hfirst fun I hI => Engine.setParameter_maintains hI _ _).bind fun status =>
      (hfirst fun I hI => Engine.isTrue_maintains status).bind fun b => ?_
    refine Leads.ite (fun _ => ?_) fun _ => ih
    refine Leads.bind (Q := fun _ _ => True) ?_ fun _ => Leads.throw _ fun _ _ => trivial
    exact (Leads.of_maintains (P := fun _ => True) fun _ _ => trivial).mono (fun _ _ => trivial)
      (fun _ _ h => h) fun _ h => h

theorem product_leads {x : EngineFactory Nat} {w : Surroundings}
    (hx : Leads (· = ([], w)) x (fun i t => i = 0 ∧ HasFirst w t) fun _ => True) :
    Leads (· = w) (product x) (fun e v => ∃ s, Engine.Fresh w s ∧
      Relation.ReflTransGen Engine.Aside s (e, v) ∧ e.ending = s.1.ending) fun _ => True := by
  rintro _ rfl
  rename_i v
  have hnew := hx ([], v) rfl
  have hproduct : (product x).perform v =
      ((x.perform ([], v)).1.map fun i => (x.perform ([], v)).2.1.getD i { backend := .store },
        (x.perform ([], v)).2.2) := rfl
  rw [hproduct]
  generalize x.perform ([], v) = r at hnew ⊢
  obtain ⟨outcome, engines, u⟩ := r
  cases outcome with
  | error f => trivial
  | ok i =>
    obtain ⟨rfl, e, s, hengines, hs, he⟩ := hnew
    cases (hengines : engines = [e])
    exact ⟨s, hs, he⟩

end EngineFactory

namespace Environment

theorem newEngine_leads (env : Environment) (settings : SettingsStore) (name : Value)
    (w : Surroundings) :
    Leads (· = ([], w)) (env.newEngine settings name)
      (fun i t => i = 0 ∧ EngineFactory.HasFirst w t) fun _ => True := by
  refine Leads.get_bind ?_
  rintro _ rfl
  have hagent : Leads (· = (([] : List Engine), w))
      (ofFault (env.solverAgent w.view settings) : EngineFactory Value) (fun _ t => t = ([], w))
      fun _ => True :=
    (Leads.ofFault _).mono (fun _ h => h) (fun _ _ h => h.2) fun _ _ => trivial
  refine hagent.bind fun agent => (EngineFactory.make_leads w agent name).bind fun i => ?_
  refine Leads.of_fact fun hi => ?_
  subst hi
  refine Leads.bind ((Leads.of_maintains (Maintains.ofExcept _)).mono (fun _ h => h)
    (fun _ _ h => h) fun _ _ => trivial) fun parameters => ?_
  refine (EngineFactory.configure_leads w parameters).bind fun _ => ?_
  exact Leads.pure fun _ h => ⟨rfl, h⟩

end Environment

namespace Model

/-- A history that begins with a model that stores nothing. -/
inductive History.Blank (w : Surroundings) : History → Prop
  | of {s : Engine × Surroundings} (name : Value) (environment : Nat) (handler : Handler)
      (hs : Engine.Fresh w s) :
      Blank w { model := { name, environment, handler, engine := s.1 }, surroundings := s.2 }

variable {Elsewhere : Surroundings → Surroundings → Prop}

/-- Changes aside of the engine are changes of the model. -/
theorem changes_of_aside (m : Model) {s t : Engine × Surroundings}
    (h : Relation.ReflTransGen Engine.Aside s t) :
    Changes Elsewhere ({ m with engine := s.1 }, s.2) ({ m with engine := t.1 }, t.2) := by
  induction h with
  | refl => exact .refl
  | tail _ ha ih => exact ih.tail (.aside ha)

theorem create_leads (Elsewhere : Surroundings → Surroundings → Prop) (name : Value)
    (environment : Nat) (level : Value) (engine : Engine) (w : Surroundings) :
    Leads (· = w) (create name environment level engine)
      (fun m w' => Changes Elsewhere
        ({ name, environment, handler := .ofValue level, engine }, w) (m, w') ∧
          m.ending = (false, engine.ending)) fun _ => True := by
  refine Leads.get_bind ?_
  rintro v rfl
  let m : Model := { name, environment, handler := .ofValue level, engine }
  have habiding : Abiding Elsewhere fun t => Changes Elsewhere (m, v) t ∧ t.1.ending = m.ending :=
    fun hc hending h => ⟨h.1.tail hc, hending.trans h.2⟩
  have hm := log_maintains habiding .trace
    (fun name => s!"Model {name} created with engine: {engine.name}") (m, v) ⟨.refl, rfl⟩
  revert hm
  dsimp only
  generalize (log .trace fun name => s!"Model {name} created with engine: {engine.name}").perform
    (m, v) = r
  obtain ⟨outcome, m', w'⟩ := r
  intro hm
  refine Leads.bind (Q := fun _ t => t = w') (fun _ _ => rfl) fun _ => ?_
  cases outcome with
  | error f => exact fun _ _ => trivial
  | ok _ =>
    rintro _ rfl
    exact hm

end Model

namespace Environment

theorem newModel_leads (Elsewhere : Surroundings → Surroundings → Prop) (env : Environment)
    (settings : SettingsStore) (place : Nat) (name : Value) (w : Surroundings) :
    Leads (· = w) (env.newModel settings place name)
      (fun m w' => ∃ b : Model.History, b.Blank w ∧
        Model.Changes Elsewhere (b.model, b.surroundings) (m, w') ∧ m.ending = b.model.ending)
      fun _ => True := by
  refine Leads.get_bind ?_
  rintro v rfl
  have hlevel : Leads (· = v) (ofFault (env.outputLevel v.view settings) : Action _ Value)
      (fun _ t => t = v) fun _ => True :=
    (Leads.ofFault _).mono (fun _ h => h) (fun _ _ h => h.2) fun _ _ => trivial
  refine hlevel.bind fun level => ?_
  have hengine := EngineFactory.product_leads (newEngine_leads env settings name v)
  refine hengine.bind fun e => ?_
  rintro u ⟨s, hs, he, hending⟩
  let b : Model := { name, environment := place, handler := .ofValue level, engine := s.1 }
  refine (Model.create_leads Elsewhere name place level e u).mono (fun _ h => h)
    (fun m w' hm => ?_) (fun _ h => h) u rfl
  refine ⟨_, .of name place (.ofValue level) hs, (Model.changes_of_aside b he).trans hm.1, ?_⟩
  exact hm.2.trans (congrArg (Prod.mk false) hending)

variable {env : Environment} {settings : SettingsStore} {place : Nat} {name : Value}
  {w w' : Surroundings} {m : Model}

/-- A new model comes to changes of a model that stores nothing. -/
theorem newModel_changes (Elsewhere : Surroundings → Surroundings → Prop)
    (h : (env.newModel settings place name).perform w = (.ok m, w')) :
    ∃ b : Model.History, b.Blank w ∧
      Model.Changes Elsewhere (b.model, b.surroundings) (m, w') := by
  obtain ⟨b, hb, hchanges, -⟩ :=
    (newModel_leads Elsewhere env settings place name w).of_ok rfl h
  exact ⟨b, hb, hchanges⟩

/-- Neither a new model nor its engine has ended. -/
theorem newModel_ending (h : (env.newModel settings place name).perform w = (.ok m, w')) :
    m.ended = false ∧ m.engine.ended = false ∧ m.engine.calls.countP Call.isFinish = 0 := by
  obtain ⟨b, hb, -, hending⟩ :=
    (newModel_leads (fun _ _ => True) env settings place name w).of_ok rfl h
  have hfresh : b.model.ended = false ∧ b.model.engine.ended = false ∧
      b.model.engine.calls.countP Call.isFinish = 0 := by
    cases hb with
    | of _ _ _ hs => cases hs <;> exact ⟨rfl, rfl, rfl⟩
  simp only [Model.ending, Engine.ending, Prod.mk.injEq, Engine.Ending.mk.injEq] at hending
  obtain ⟨hended, hengine, hreleases, -⟩ := hending
  rwa [hended, hengine, hreleases]

/-- The history of a new model comes to steps from a model that stores nothing. -/
theorem newModel_steps {Elsewhere : Surroundings → Surroundings → Prop}
    (h : (env.newModel settings place name).perform w = (.ok m, w')) {moves : List Model.Move}
    (hm : ∀ move ∈ moves, move.Spares Elsewhere) :
    ∃ b : Model.History, b.Blank w ∧
      b.Steps Elsewhere (Model.History.run { model := m, surroundings := w' } moves) := by
  obtain ⟨b, hb, hchanges⟩ := newModel_changes Elsewhere h
  refine ⟨b, hb, .trans ?_ (Model.History.steps_run _ hm)⟩
  have hsteps := Model.History.steps_of_changes b hchanges
  cases hb
  exact hsteps

/-- The first model of an environment whose settings are all the default ones. -/
def firstModel : Except Failure Model × Surroundings :=
  (newModel { settings := 1 } (SettingsStore.addDefault {}).2 0 .nothing).perform
    { view := .blank }

/-- The first model of an environment with the given engine, and otherwise with default settings. -/
def firstModelOn (agent : String) : Except Failure Model × Surroundings :=
  (newModel { settings := 1 }
    ((SettingsStore.addDefault {}).2.modify 0 (·.set (.text "agent") (.text agent))) 0 .nothing).perform
    { view := .blank }

/-- What holds of a model that can be made can be checked. -/
theorem exists_of_made {r : Except Failure Model × Surroundings} {p : Model → Surroundings → Bool}
    (h : (match r with
      | (.ok m, w) => p m w
      | _ => false) = true) : ∃ m w, r = (.ok m, w) ∧ p m w = true := by
  obtain ⟨outcome, w⟩ := r
  cases outcome with
  | error f => cases h
  | ok m => exact ⟨m, w, rfl, h⟩

/-- Such a model can be made, and what holds of it can be checked. -/
theorem exists_firstModel {p : Model → Surroundings → Bool}
    (h : (match firstModel with
      | (.ok m, w) => p m w
      | _ => false) = true) : ∃ m w, firstModel = (.ok m, w) ∧ p m w = true := exists_of_made h

end Environment

end Milp

import Mathlib.Data.List.Induction
import Milp.Proofs.Engine.Solution
import Milp.Proofs.Model.Creation
set_option autoImplicit false

/-! # Results are never stale

What a model tells about a solution is about what is committed at that time. Every change of a model
leaves the direction, what is committed and the results as they are, or there are no results any more
(`Change.results`). So where there are results, the model has been solved, and nothing has been
disturbed since (`History.solvedSince_or`). -/

namespace Milp

open Milp.Action Engine

namespace Solution

theorem SameResults.refl (s : Solution) : s.SameResults s := ⟨rfl, rfl, rfl⟩

theorem SameResults.trans {s t u : Solution} (h : s.SameResults t) (h' : t.SameResults u) :
    s.SameResults u :=
  ⟨h'.status.trans h.status, h'.objective.trans h.objective, h'.values.trans h.values⟩

/-- Whether something can be said of no solution, and of any results alike. -/
structure Vacant (B : Solution → Prop) : Prop where
  blank : B {}
  same {s t : Solution} (h : s.SameResults t) (hs : B s) : B t

theorem vacant_objective : Vacant fun s => s.objective = none :=
  ⟨rfl, fun h hs => h.objective.trans hs⟩

theorem vacant_status : Vacant fun s => s.status = ModelState.notSet :=
  ⟨rfl, fun h hs => h.status.trans hs⟩

end Solution

namespace Model

variable {Elsewhere : Surroundings → Surroundings → Prop} {B : Solution → Prop}

/-! ## Changes -/

/-- The committed entities and the direction are the same. -/
structure Undisturbed (m n : Model) : Prop where
  vars : n.vars = m.vars
  constraints : n.constraints = m.constraints
  sense : n.engine.sense = m.engine.sense

theorem Undisturbed.refl (m : Model) : Undisturbed m m := ⟨rfl, rfl, rfl⟩

theorem Undisturbed.trans {m n o : Model} (h : Undisturbed m n) (h' : Undisturbed n o) :
    Undisturbed m o :=
  ⟨h'.vars.trans h.vars, h'.constraints.trans h.constraints, h'.sense.trans h.sense⟩

/-- Nothing has been disturbed, and the results are the same. -/
structure Stands (m n : Model) : Prop where
  undisturbed : Undisturbed m n
  results : m.engine.solution.SameResults n.engine.solution

theorem Stands.refl (m : Model) : Stands m m := ⟨.refl m, .refl _⟩

theorem Stands.trans {m n o : Model} (h : Stands m n) (h' : Stands n o) : Stands m o :=
  ⟨h.undisturbed.trans h'.undisturbed, h.results.trans h'.results⟩

section Additions

variable {sense : Value} {solution : Solution} {x : Engine.Acting Value}

/-- An addition of variables makes the engine forget its solution, or leaves it as it was. -/
theorem varsCall_knows {vs : List Var} (h : varsCall vs = .ok x) :
    Leads (Knows sense solution) x
      (Answered (Knows sense solution) fun s => s.1.solution = {}) (Knows sense solution) :=
  varsCall_answered (L := fun _ => True) knows_heedless (fun _ _ _ => rfl) h
    (fun _ _ => ifNative_leads (fun _ => addNativeColumn_keeps _ _ _ _ _) knows_elsewhere)
    (fun _ _ => ifNative_leads (fun _ => addNativeColumns_keeps _ _ _ _ _) knows_elsewhere)
    (fun _ _ _ _ _ => trivial) fun _ _ _ hs => hs

theorem constraintsCall_knows {m : Model} {cs : List Constraint}
    (h : m.constraintsCall cs = .ok x) :
    Leads (Knows sense solution) x
      (Answered (Knows sense solution) fun s => s.1.solution = {}) (Knows sense solution) :=
  constraintsCall_answered (L := fun _ => True) knows_heedless (fun _ _ _ => rfl) h
    (fun _ _ => (ifNative_leads (fun _ => addNativeRow_keeps _ _ _ _ _) knows_elsewhere).mono
      (fun _ h => h.2) (fun _ _ h => h) fun _ h => h)
    (fun _ _ => (ifNative_leads (fun _ => addNativeRows_keeps _ _ _ _ _ _) knows_elsewhere).mono
      (fun _ h => h.2) (fun _ _ h => h) fun _ h => h)
    fun _ _ _ _ _ => trivial

end Additions

/-- A call that leaves the direction and the solution leaves everything as it is that results are
about. -/
theorem stands_of_knows {m : Model} {w : Surroundings} {x : Engine.Acting Value}
    (h : Knows m.engine.sense m.engine.solution (x.perform (m.engine, w)).2) :
    Stands m (afterCall m w x).1 := by
  refine ⟨⟨rfl, rfl, h.1⟩, ?_⟩
  rw [show (afterCall m w x).1.engine.solution = m.engine.solution from h.2]
  exact .refl _

/-- A change leaves everything as it is that results are about, or there are none. -/
theorem Change.results {s t : Model × Surroundings} (hc : Change Elsewhere s t) :
    Stands s.1 t.1 ∨ t.1.engine.solution = {} := by
  cases hc with
  | aside ha => exact ha.results.2.imp_left fun h => ⟨⟨rfl, rfl, ha.results.1⟩, h⟩
  | message => exact .inl ⟨⟨rfl, rfl, rfl⟩, .refl _⟩
  | ending => exact .inl ⟨⟨rfl, rfl, rfl⟩, .refl _⟩
  | elsewhere m => exact .inl (.refl m)
  | direction m w d =>
    by_cases hr : Accepted ((setDirection (.int d.number)).perform (m.engine, w))
    · have hturned := Answered.of_accepted (setDirection_answered _) ⟨rfl, rfl⟩ hr
      rcases hturned with ⟨-, hknows⟩ | ⟨-, -, hnone⟩
      · exact .inl (stands_of_knows hknows)
      · exact .inr hnone
    · have hrefused := Answered.of_not_accepted (setDirection_answered _) ⟨rfl, rfl⟩ hr
      exact .inl (stands_of_knows hrefused)
  | refuseVars hx hr =>
    exact .inl (stands_of_knows (Answered.of_not_accepted (varsCall_knows hx) ⟨rfl, rfl⟩ hr))
  | refuseConstraints hx hr =>
    have hrefused := Answered.of_not_accepted (constraintsCall_knows hx) ⟨rfl, rfl⟩ hr
    exact .inl (stands_of_knows hrefused)
  | @commitVars m w x _ hx hr =>
    rw [commitVars_engine]
    exact .inr (Answered.of_accepted (varsCall_knows hx) (s := (m.engine, w)) ⟨rfl, rfl⟩ hr)
  | @commitConstraints m w x _ hx hr =>
    rw [commitConstraints_engine]
    exact .inr (Answered.of_accepted (constraintsCall_knows hx) (s := (m.engine, w)) ⟨rfl, rfl⟩ hr)

/-- The results of a state stand, or `B` holds of what is known about a solution. -/
def Lasts (B : Solution → Prop) (s t : Model × Surroundings) : Prop :=
  Stands s.1 t.1 ∨ B t.1.engine.solution

theorem lasts_refl (B : Solution → Prop) (s : Model × Surroundings) : Lasts B s s :=
  .inl (.refl s.1)

theorem Lasts.stands (hB : Solution.Vacant B) {s t u : Model × Surroundings} (ht : Lasts B s t)
    (hu : Stands t.1 u.1) : Lasts B s u :=
  ht.imp (fun ht => ht.trans hu) (hB.same hu.results)

theorem lasts_steady (hB : Solution.Vacant B) (s : Model × Surroundings) :
    Steady Elsewhere (Lasts B s) := by
  intro t u hc ht
  rcases hc.results with hu | hnone
  · exact ht.stands hB hu
  · refine .inr ?_
    rw [hnone]
    exact hB.blank

/-! ## Solving -/

/-- Solving that does not get as far as the engine leaves results that last. -/
theorem optimize_lasts_of_update (hB : Solution.Vacant B) {s : Model × Surroundings}
    (h : (update.perform s).1 ≠ .ok ()) : Lasts B s (optimize.perform s).2 := by
  have hP : Steady (fun _ _ => True) (Lasts B s) := lasts_steady hB s
  have hupdate := update_maintains hP.abiding s (lasts_refl B s)
  -- a failed update is all there is of solving
  rcases hr : update.perform s with ⟨outcome, t⟩
  rw [hr] at h hupdate
  cases outcome with
  | ok _ => exact absurd rfl h
  | error f =>
    rw [optimize, perform_bind_of_error hr]
    exact hupdate

/-- Solving that fails leaves results that last, or no objective. -/
theorem optimize_lasts {s : Model × Surroundings} (h : (optimize.perform s).1 ≠ .ok ()) :
    Lasts (·.objective = none) s (optimize.perform s).2 := by
  have hP : Steady (fun _ _ => True) (Lasts (·.objective = none) s) :=
    lasts_steady Solution.vacant_objective s
  have hcall : Leads (Lasts (·.objective = none) s) (callEngine "optimize" Engine.optimize)
      (fun _ _ => True) (Lasts (·.objective = none) s) := by
    rintro ⟨m, w⟩ hs
    -- only a call that is not accepted makes solving fail here
    by_cases hx : Accepted (Engine.optimize.perform (m.engine, w))
    · rw [perform_callEngine hx]
      trivial
    · obtain ⟨f, t, ht, hmessages⟩ := callEngine_error hx "optimize"
      rw [ht]
      refine Abiding.messages hP.abiding hmessages ?_
      rcases Answered.of_not_accepted optimize_answered (.inl ⟨rfl, rfl⟩) hx with hknows | hnone
      · exact hs.stands Solution.vacant_objective (stands_of_knows hknows)
      · exact .inr hnone
  -- the update and the message before the call keep what lasts
  have hoptimize : Leads (Lasts (·.objective = none) s) optimize (fun _ _ => True)
      (Lasts (·.objective = none) s) :=
    (Leads.of_maintains (update_maintains hP.abiding)).bind fun _ =>
      (Leads.of_maintains model_maintains).bind fun _ =>
        (Leads.of_maintains (log_maintains hP.abiding _ _)).bind fun _ => hcall
  rcases hr : optimize.perform s with ⟨outcome, t⟩
  rw [hr] at h
  cases outcome with
  | ok _ => exact absurd rfl h
  | error f => exact hoptimize.of_error (lasts_refl _ s) hr

/-! ## Asking for results -/

theorem askEngine_leads {I E : Engine × Surroundings → Prop} {V : Value → Prop}
    {x : Engine.Acting Answer} (hx : Leads I x (Gives V) E) (operation : String) :
    Leads (fun s => I (s.1.engine, s.2)) (askEngine operation x) (fun v _ => V v)
      fun _ => True := by
  rintro ⟨m, w⟩ hs
  have hanswer := hx (m.engine, w) hs
  rcases hr : x.perform (m.engine, w) with ⟨outcome, e, v⟩
  rw [hr] at hanswer
  have hon : (onEngine x).perform (m, w) = (outcome, { m with engine := e }, v) := by
    rw [onEngine, within_run, hr]
  cases outcome with
  | error f =>
    rw [askEngine, perform_bind_of_error hon]
    trivial
  | ok answer =>
    rw [askEngine, perform_bind_of_ok hon]
    by_cases hfalse : answer.1.truthy v.view = .ok false
    · have hpassed := perform_checkStatus (s := ({ m with engine := e }, v)) hfalse operation
      rw [perform_bind_of_ok hpassed]
      exact hanswer.resolve_left fun htrue => by cases hfalse.symm.trans htrue
    · obtain ⟨f, t, ht, -⟩ := checkStatus_error (s := ({ m with engine := e }, v)) hfalse operation
      rw [perform_bind_of_error ht]
      trivial

/-- What is asked of an engine that is in use leaves no choice to the answer. -/
theorem aliveThen_leads {α : Type} {x : Acting α} {P : Model × Surroundings → Prop}
    {Q : α → Model × Surroundings → Prop} (hx : Leads P x Q fun _ => True) :
    Leads P (checkAlive >>= fun _ => x) Q fun _ => True :=
  ((Leads.of_maintains checkAlive_maintains).mono (fun _ h => h) (fun _ _ h => h)
    fun _ _ => trivial).bind fun _ => hx

/-- Without an objective none is answered. -/
theorem objectiveValue_leads (s : Model × Surroundings) (h : s.1.engine.solution.objective = none) :
    Leads (· = s) objectiveValue (fun _ _ => False) fun _ => True :=
  (aliveThen_leads (askEngine_leads (getObjective_gives _ h) _)).mono
    (fun t ht => by rw [ht]; exact ⟨rfl, rfl⟩) (fun _ _ h => h) fun _ h => h

theorem status_leads (s : Model × Surroundings) :
    Leads (· = s) status (fun v _ => v = .int s.1.engine.solution.status) fun _ => True :=
  (aliveThen_leads (askEngine_leads getStatus_gives _)).mono
    (fun t ht => by rw [ht]; exact ⟨rfl, rfl⟩) (fun _ _ h => h) fun _ h => h

/-- A model that is in use tells its status unless the engine is told to fail. -/
theorem perform_status {m : Model} {w : Surroundings} (hm : m.ended = false)
    (h : m.engine.injected? "get_int_attr" = none) :
    status.perform (m, w) = (.ok (.int m.engine.solution.status), m, w) := by
  rw [status, perform_bind_of_ok (perform_checkAlive hm)]
  exact perform_askEngine (perform_getModelAttribute .status h)

/-! ## Failures -/

/-- Committing a queue leaves the solution as it was if it fails. -/
theorem Commitment.Ends.solution {c : Commitment} {m : Model} {w : Surroundings} {f : Failure}
    {t : Model × Surroundings} (h : c.Ends m w (.error f, t))
    (hcall : ∀ x, c.call = .ok x → Leads (Knows m.engine.sense m.engine.solution) x
      (Answered (Knows m.engine.sense m.engine.solution) fun s => s.1.solution = {})
      (Knows m.engine.sense m.engine.solution)) :
    t.1.engine.solution = m.engine.solution := by
  cases h with
  | rejected => rfl
  | unencodable => rfl
  | refused _ _ hx hr _ ht =>
    rw [ht.engine]
    exact (Answered.of_not_accepted (hcall _ hx) (s := (m.engine, w)) ⟨rfl, rfl⟩ hr).2

/-- Setting the direction changes nothing that results are about unless it succeeds. -/
theorem setSense_leads (v : Value) (m : Model) (w : Surroundings) :
    Leads (· = (m, w)) (setSense v)
      (fun _ t => ∃ d, Direction.ofValue v = .ok d ∧
        Turned (.int d.number) m.engine.sense m.engine.solution (t.1.engine, t.2))
      fun t => Knows m.engine.sense m.engine.solution (t.1.engine, t.2) := by
  have halive : Leads (· = (m, w)) checkAlive (fun _ => (· = (m, w))) fun t =>
      Knows m.engine.sense m.engine.solution (t.1.engine, t.2) :=
    (Leads.of_maintains checkAlive_maintains).mono (fun _ h => h) (fun _ _ h => h) fun t ht => by
      rw [ht]
      exact ⟨rfl, rfl⟩
  refine halive.bind fun _ => ?_
  rintro _ rfl
  cases Direction.ofValue v with
  | ok d =>
    have hcall := callEngine_leads (m := m) (w := w)
      (setModelAttribute_answered (.text ModelAttribute.sense.name) (.int d.number))
      (fun _ _ _ h => h) ⟨rfl, rfl⟩ "set_int_attr"
    exact hcall.mono (fun _ h => h) (fun _ _ ht => ⟨d, rfl, ht⟩) (fun _ h => h) (m, w) rfl
  | error f => cases f <;> exact ⟨rfl, rfl⟩

/-- Operations that do not change what results are about leave the solution as it is. -/
structure KeepsSolution (s : Model × Surroundings) : Prop where
  /-- An addition that fails, be it to a queue or to the engine. -/
  queueing (place : Nat) (op : Operation) (f : Failure) (t : Model × Surroundings)
    (hop : op.isAdmission = true) (h : (op.run place).perform s = (.error f, t)) :
    t.1.engine.solution = s.1.engine.solution
  committingVars (f : Failure) (t : Model × Surroundings)
    (h : flushVars.perform s = (.error f, t)) : t.1.engine.solution = s.1.engine.solution
  committingConstraints (f : Failure) (t : Model × Surroundings)
    (h : flushConstraints.perform s = (.error f, t)) : t.1.engine.solution = s.1.engine.solution
  /-- A change of the direction that fails, or that is none. -/
  failedSense (v : Value) (f : Failure) (t : Model × Surroundings)
    (h : (setSense v).perform s = (.error f, t)) : t.1.engine.solution = s.1.engine.solution
  sameSense (v : Value) (d : Direction) (hd : Direction.ofValue v = .ok d)
    (h : (Value.int d.number).equals s.1.engine.sense = .ok true) :
    ((setSense v).perform s).2.1.engine.solution = s.1.engine.solution

theorem keepsSolution (s : Model × Surroundings) : KeepsSolution s where
  queueing place op f t hop h := by
    have hadmission := run_admission place hop s
    rw [h] at hadmission
    cases hadmission
    rfl
  committingVars f t h := (h ▸ flushVars_ends s.1 s.2).solution fun _ hx => varsCall_knows hx
  committingConstraints f t h :=
    (h ▸ flushConstraints_ends s.1 s.2).solution fun _ hx => constraintsCall_knows hx
  failedSense v f t h := ((setSense_leads v s.1 s.2).of_error rfl h).2
  sameSense v d hd h := by
    rcases hr : (setSense v).perform s with ⟨outcome, t⟩
    cases outcome with
    | error f => exact ((setSense_leads v s.1 s.2).of_error rfl hr).2
    | ok _ =>
      obtain ⟨d', hd', hturned⟩ := (setSense_leads v s.1 s.2).of_ok rfl hr
      cases hd.symm.trans hd'
      rcases hturned with ⟨-, hknows⟩ | ⟨hother, -⟩
      · exact hknows.2
      · cases h.symm.trans hother

/-! ## Histories -/

namespace History

/-- The model was solved among some moves, from a state as `Solves` says, and from then on nothing has
been disturbed. -/
def SolvedSince (h : History) (moves : List Move) (Solves : Model × Surroundings → Prop) : Prop :=
  ∃ before place after, moves = before ++ .operate place .optimize :: after ∧
    Solves (h.run before).state ∧
    ∀ mid, mid <+: after →
      Undisturbed (h.run (before ++ .operate place .optimize :: mid)).model (h.run moves).model

variable {h : History} {moves : List Move} {Solves : Model × Surroundings → Prop}

theorem solvedSince_optimize (place : Nat)
    (hs : Solves (h.run moves).state) :
    h.SolvedSince (moves ++ [.operate place .optimize]) Solves := by
  refine ⟨moves, place, [], rfl, hs, fun mid hmid => ?_⟩
  rw [List.prefix_nil.1 hmid]
  exact .refl _

theorem SolvedSince.next (hs : h.SolvedSince moves Solves) {move : Move}
    (hmove : Undisturbed (h.run moves).model (h.run (moves ++ [move])).model) :
    h.SolvedSince (moves ++ [move]) Solves := by
  obtain ⟨before, place, after, hmoves, hbefore, hafter⟩ := hs
  refine ⟨before, place, after ++ [move], ?_, hbefore, fun mid hmid => ?_⟩
  · rw [hmoves, List.append_assoc]
    rfl
  · rcases List.prefix_concat_iff.1 hmid with rfl | hmid
    · rw [hmoves, List.append_assoc]
      exact .refl _
    · exact (hafter mid hmid).trans hmove

/-- A move other than solving leaves results that last. -/
theorem next_lasts (hB : Solution.Vacant B) (h : History) {move : Move}
    (hmove : ∀ place, move ≠ .operate place .optimize) :
    Lasts B h.state (h.next move).state := by
  rw [next_state]
  -- what an admission queues is not known beforehand, so it is no `Change` like the other moves
  rcases move.admission_cases with ⟨place, op, rfl, hop⟩ | hop
  · have hadmission := run_admission place hop h.state
    show Lasts B _ ((op.run place).perform h.state).2
    generalize (op.run place).perform h.state = r at hadmission ⊢
    cases hadmission with
    | failed f => exact lasts_refl B _
    | var v => exact .inl ⟨⟨rfl, rfl, rfl⟩, .refl _⟩
    | constraint c => exact .inl ⟨⟨rfl, rfl, rfl⟩, .refl _⟩
  · exact Move.run_maintains (lasts_steady hB _) move.spares_any hop
      (fun place hoptimize => absurd hoptimize (hmove place)) _ (lasts_refl B _)

/-- Where `B` does not hold, the model was solved and nothing has been disturbed since. -/
theorem solvedSince_or (hB : Solution.Vacant B)
    (hsolve : ∀ s, ¬Solves s → Lasts B s (optimize.perform s).2) (hh : B h.model.engine.solution)
    (moves : List Move) : h.SolvedSince moves Solves ∨ B (h.run moves).model.engine.solution := by
  -- the last move either solves the model, or keeps or clears what is known
  induction moves using List.reverseRecOn with
  | nil => exact .inr hh
  | append_singleton moves move ih =>
    have hnext : h.run (moves ++ [move]) = (h.run moves).next move := run_append h moves [move]
    have hlasts : h.SolvedSince (moves ++ [move]) Solves ∨
        Lasts B (h.run moves).state
          ((h.run moves).next move).state := by
      by_cases hmove : ∃ place, move = .operate place .optimize
      · obtain ⟨place, rfl⟩ := hmove
        by_cases hs : Solves (h.run moves).state
        · exact .inl (solvedSince_optimize place hs)
        · rw [next_state]
          refine .inr ?_
          rw [show (Move.operate place .optimize).run = void optimize from rfl, perform_void]
          exact hsolve _ hs
      · exact .inr (next_lasts hB _ fun place hplace => hmove ⟨place, hplace⟩)
    rw [hnext]
    rcases hlasts with hsince | hstands | hnone
    · exact .inl hsince
    · exact ih.imp (fun hs => hs.next (hnext ▸ hstands.undisturbed)) (hB.same hstands.results)
    · exact .inr hnone

/-- Values and objective stay both known, or both not. -/
theorem complete_step {h k : History} (hstep : Step Elsewhere h k)
    (hh : h.model.engine.solution.Complete) : k.model.engine.solution.Complete := by
  cases hstep with
  | change hc =>
    rcases hc.results with hstands | hnone
    · rw [Solution.Complete, hstands.results.values, hstands.results.objective]
      exact hh
    · rw [hnone]
      rfl
  | solve hs => exact hs
  | queueVar v => exact hh
  | queueConstraint c => exact hh

theorem solution_blank {b : History} {w : Surroundings} (hb : b.Blank w) :
    b.model.engine.solution = {} := by
  cases hb with
  | of name environment handler hs =>
    cases hs with
    | plain backend modelName h => rfl
    | native modelName => rfl

/-- A new model knows of no solution. -/
theorem vacant_newModel {env : Environment} {settings : SettingsStore} {place : Nat} {name : Value}
    {w w' : Surroundings} {m : Model}
    (h : (env.newModel settings place name).perform w = (.ok m, w')) (hB : Solution.Vacant B) :
    B m.engine.solution := by
  obtain ⟨b, hb, hchanges⟩ := Environment.newModel_changes (fun _ _ => True) h
  have hlasts : Lasts B b.state (m, w') :=
    hchanges.maintains (lasts_steady hB _) (lasts_refl B _)
  rcases hlasts with hstands | hm
  · refine hB.same hstands.results ?_
    rw [solution_blank hb]
    exact hB.blank
  · exact hm

/-- What callers are told of a solution after some moves is about what is committed at that time. -/
structure Fresh (start : History) (moves : List Move) : Prop where
  /-- An objective value is told only if solving has succeeded and nothing was disturbed since. -/
  objective (v : Value) (t : Model × Surroundings)
    (h : objectiveValue.perform (start.run moves).state = (.ok v, t)) :
    start.SolvedSince moves fun s => (optimize.perform s).1 = .ok ()
  complete : (start.run moves).model.engine.solution.Complete
  /-- Unless the engine was called to solve and nothing was disturbed since, no status is set. -/
  unsolved (h : ¬start.SolvedSince moves fun s => (update.perform s).1 = .ok ()) :
    (∀ v t, status.perform (start.run moves).state = (.ok v, t) → v = .int ModelState.notSet) ∧
      ((start.run moves).model.ended = false →
        (start.run moves).model.engine.injected? "get_int_attr" = none →
        status.perform (start.run moves).state =
          (.ok (.int ModelState.notSet), (start.run moves).state))

theorem fresh_newModel {env : Environment} {settings : SettingsStore} {place : Nat} {name : Value}
    {w w' : Surroundings} {m : Model}
    (h : (env.newModel settings place name).perform w = (.ok m, w')) (moves : List Move) :
    Fresh { model := m, surroundings := w' } moves := by
  let s := (run { model := m, surroundings := w' } moves).state
  refine ⟨fun v t hv => ?_, ?_, fun hnever => ?_⟩
  · refine (solvedSince_or Solution.vacant_objective (fun _ hs => optimize_lasts hs)
      (vacant_newModel h Solution.vacant_objective) moves).resolve_right fun hnone => ?_
    exact (objectiveValue_leads s hnone).of_ok rfl hv
  · obtain ⟨b, hb, hsteps⟩ := Environment.newModel_steps h fun move _ => move.spares_any
    refine hsteps.maintains complete_step ?_
    rw [solution_blank hb]
    rfl
  · have hnotSet : s.1.engine.solution.status = ModelState.notSet :=
      (solvedSince_or Solution.vacant_status
        (fun _ hs => optimize_lasts_of_update Solution.vacant_status hs)
        (vacant_newModel h Solution.vacant_status) moves).resolve_left hnever
    refine ⟨fun v t hv => ?_, fun hm hinjected => ?_⟩
    · rw [(status_leads s).of_ok rfl hv, hnotSet]
    · rw [← hnotSet]
      exact perform_status hm hinjected

/-- In every state that a history of a new model leads to, whatever engine the model has and whatever
has failed on the way, results are about what is committed. Additions and changes of the direction
that fail leave the solution as it is, and so does setting the direction that the model has. -/
theorem run_results_fresh {env : Environment} {settings : SettingsStore} {place : Nat}
    {name : Value} {w w' : Surroundings} {m : Model}
    (h : (env.newModel settings place name).perform w = (.ok m, w')) (moves : List Move) :
    Fresh { model := m, surroundings := w' } moves ∧
      KeepsSolution (run { model := m, surroundings := w' } moves).state :=
  ⟨fresh_newModel h moves, keepsSolution _⟩

/-- A model that was solved in memory tells its objective value. -/
theorem run_results_fresh_solved : ∃ m w, Environment.firstModelOn "zero" = (.ok m, w) ∧
    let start : History := { model := m, surroundings := w }
    let moves : List Move := [.operate 0 (.newVar 0 {}), .operate 0 .optimize]
    (∃ v t, objectiveValue.perform (start.run moves).state = (.ok v, t)) ∧
      start.SolvedSince moves fun s => (optimize.perform s).1 = .ok () := by
  let moves : List Move := [.operate 0 (.newVar 0 {}), .operate 0 .optimize]
  obtain ⟨m, w, h, hp⟩ := Environment.exists_of_made (r := Environment.firstModelOn "zero")
    (p := fun m w =>
      (objectiveValue.perform (run { model := m, surroundings := w } moves).state).1.isOk)
    (by decide +kernel)
  have hvalue : ∃ v t,
      objectiveValue.perform (run { model := m, surroundings := w } moves).state = (.ok v, t) := by
    rcases hr : objectiveValue.perform (run { model := m, surroundings := w } moves).state with
      ⟨outcome, t⟩
    rw [hr] at hp
    cases outcome with
    | error f => cases hp
    | ok v => exact ⟨v, t, rfl⟩
  obtain ⟨v, t, ht⟩ := hvalue
  exact ⟨m, w, h, ⟨v, t, ht⟩, (run_results_fresh h moves).1.objective v t ht⟩

end History

end Model

end Milp

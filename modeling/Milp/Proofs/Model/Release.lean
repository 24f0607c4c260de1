import Mathlib.Data.List.Induction
import Milp.Proofs.Model.Ended
set_option autoImplicit false

/-! # The engine of a model is released once

There are several ways to end a model, and all of them come to the same switch. What shows of the
end of a model and of its engine behaves like a small machine of its own, of which each move is a
step (`Move.endingAfter`, `History.run_ending`): only the moves that end a model throw the switch, and
only the first of them tells the engine to finish. From then on nothing that is done with the model
reaches the engine: all of it would be the same with any other engine (`run_sparesEngine`). -/

namespace Milp

open Milp.Action

/-! ## Ending as a machine -/

/-- What shows of the end of an engine once it is told to finish. -/
def Engine.Ending.finish (v : Engine.Ending) : Engine.Ending :=
  { v with ended := true, releases := v.releases + v.logs.toNat }

theorem Engine.finish_ending (e : Engine) (w : Surroundings) :
    (Engine.finish.perform (e, w)).2.1.ending = e.ending.finish := by
  obtain ⟨backend, _, _, _, _, _, calls, _, _⟩ := e
  have hlogged : (calls ++ [Call.finish]).countP Call.isFinish = calls.countP Call.isFinish + 1 :=
    List.countP_append
  cases backend with
  | native solver => rfl
  | _ => exact congrArg (Engine.Ending.mk true · true) hlogged

namespace Model

variable {m : Model} {w : Surroundings}

/-- What shows of the end of a model and of its engine after a move. -/
def Move.endingAfter (v : Bool × Engine.Ending) : Move → Bool × Engine.Ending
  | operate _ .finish | finalize => if v.1 then v else (true, v.2.finish)
  | clearCalls => (v.1, { v.2 with releases := 0 })
  | _ => v

theorem Move.endingAfter_of_ending {move : Move} (h : move.isEnding = true)
    (v : Bool × Engine.Ending) :
    move.endingAfter v = if v.1 then v else (true, v.2.finish) := by
  cases move with
  | finalize => rfl
  | operate place op =>
    cases op with
    | finish => rfl
    | _ => cases h
  | _ => cases h

theorem Move.endingAfter_of_not_ending {move : Move} (h : move.isEnding = false)
    (hcalls : move ≠ .clearCalls) (v : Bool × Engine.Ending) : move.endingAfter v = v := by
  cases move with
  | finalize => cases h
  | clearCalls => exact absurd rfl hcalls
  | operate place op =>
    cases op with
    | finish => cases h
    | _ => rfl
  | _ => rfl

/-- A released model shows that it and its engine have ended. -/
theorem released_ending (m : Model) (w : Surroundings) :
    (afterCall { m with ended := true } w Engine.finish).1.ending = (true, m.engine.ending.finish) :=
  congrArg (Prod.mk true) (Engine.finish_ending m.engine w)

theorem finalize_ending (s : Model × Surroundings) :
    (finalize.perform s).2.1.ending = Move.finalize.endingAfter s.1.ending := by
  obtain ⟨m, w⟩ := s
  show _ = if m.ended then m.ending else (true, m.engine.ending.finish)
  cases h : m.ended with
  | false =>
    rw [perform_finalize h]
    exact released_ending m w
  | true =>
    rw [perform_finalize_of_ended h]
    rfl

theorem finish_ending (s : Model × Surroundings) :
    (finish.perform s).2.1.ending = Move.finalize.endingAfter s.1.ending := by
  obtain ⟨m, w⟩ := s
  show _ = if m.ended then m.ending else (true, m.engine.ending.finish)
  cases h : m.ended with
  | false =>
    obtain ⟨t, hmessages, ht⟩ := perform_finish (w := w) h
    rw [ht]
    refine (released_ending t.1 t.2).trans ?_
    rw [hmessages.engine]
    rfl
  | true =>
    rw [perform_finish_of_ended h]
    rfl

theorem abiding_ending (v : Bool × Engine.Ending) :
    Abiding (fun _ _ => True) fun s => s.1.ending = v := fun _ hending hs => hending.trans hs

/-- Each move is a step of that machine. -/
theorem Move.run_ending (move : Move) (s : Model × Surroundings) :
    (move.run.perform s).2.1.ending = move.endingAfter s.1.ending := by
  cases hending : move.isEnding with
  | true =>
    cases move with
    | finalize =>
      rw [show Move.finalize.run = void Model.finalize from rfl, perform_void]
      exact finalize_ending s
    | operate place op =>
      cases op with
      | finish =>
        rw [show (Move.operate place .finish).run = void Model.finish from rfl, perform_void]
        exact finish_ending s
      | _ => cases hending
    | _ => cases hending
  | false =>
    by_cases hcalls : move = .clearCalls
    · subst hcalls
      rfl
    rw [Move.endingAfter_of_not_ending hending hcalls]
    -- what an admission queues is not known beforehand, so it is no `Change` like the other moves
    rcases move.admission_cases with ⟨place, op, rfl, hop⟩ | hop
    · have hadmission := run_admission place hop s
      show ((op.run place).perform s).2.1.ending = s.1.ending
      generalize (op.run place).perform s = r at hadmission
      cases hadmission <;> rfl
    · have hsolvable : Solvable fun t => t.1.ending = s.1.ending := fun _ h => h
      exact Move.run_maintains_of_abiding (abiding_ending s.1.ending) move.spares_any hending hcalls
        hop (fun _ _ => hsolvable) s rfl

theorem History.run_ending (h : History) (moves : List Move) :
    (h.run moves).model.ending = moves.foldl Move.endingAfter h.model.ending := by
  induction moves generalizing h with
  | nil => rfl
  | cons move rest ih =>
    have hmove : (h.next move).model.ending = move.endingAfter h.model.ending := by
      show (h.next move).state.1.ending = _
      rw [next_state]
      exact move.run_ending h.state
    rw [List.foldl_cons, ← hmove]
    exact ih (h.next move)

/-- What the machine shows if nothing had ended before: whether the model was told to end, and at
most one call that told the engine to finish, which is still logged if the log was kept. -/
structure Shown (told : Bool) (kept : Prop) (v : Bool × Engine.Ending) : Prop where
  model : v.1 = told
  engine : v.2.ended = told
  releases_le : v.2.releases ≤ (told && v.2.logs).toNat
  releases (h : kept) : v.2.releases = (told && v.2.logs).toNat

theorem Shown.next {told : Bool} {kept : Prop} {v : Bool × Engine.Ending} (hv : Shown told kept v)
    (move : Move) :
    Shown (told || move.isEnding) (kept ∧ move ≠ .clearCalls) (move.endingAfter v) := by
  cases hending : move.isEnding with
  | true =>
    rw [Move.endingAfter_of_ending hending, hv.model, Bool.or_true]
    cases told with
    | true => exact ⟨hv.model, hv.engine, hv.releases_le, fun h => hv.releases h.1⟩
    | false =>
      -- this is the one call that tells the engine to finish
      have hnone : v.2.releases = 0 := Nat.le_zero.1 hv.releases_le
      have hone : v.2.finish.releases = v.2.logs.toNat := by
        rw [Engine.Ending.finish, hnone, Nat.zero_add]
      rw [if_neg Bool.false_ne_true]
      exact ⟨rfl, rfl, Nat.le_of_eq hone, fun _ => hone⟩
  | false =>
    rw [Bool.or_false]
    by_cases hcalls : move = .clearCalls
    · subst hcalls
      exact ⟨hv.model, hv.engine, Nat.zero_le _, fun h => absurd rfl h.2⟩
    · rw [Move.endingAfter_of_not_ending hending hcalls]
      exact ⟨hv.model, hv.engine, hv.releases_le, fun h => hv.releases h.1⟩

theorem shown_foldl {v : Bool × Engine.Ending} (hv : Shown false True v) (moves : List Move) :
    Shown (moves.any Move.isEnding) (∀ move ∈ moves, move ≠ .clearCalls)
      (moves.foldl Move.endingAfter v) := by
  induction moves using List.reverseRecOn with
  | nil => exact ⟨hv.model, hv.engine, hv.releases_le, fun _ => hv.releases trivial⟩
  | append_singleton moves move ih =>
    have hnext := ih.next move
    rw [List.foldl_append, List.any_append, List.any_cons, List.any_nil, Bool.or_false]
    refine ⟨hnext.model, hnext.engine, hnext.releases_le, fun h => hnext.releases ⟨?_, ?_⟩⟩
    · exact fun mv hmv => h mv (List.mem_append_left _ hmv)
    · exact h move (List.mem_append_right _ List.mem_cons_self)

/-! ## Nothing to do with the engine -/

/-- An action would do the same with any engine in the place of the model's, and leaves it as it is:
none of its entry points is called. -/
def SparesEngine {α : Type} (x : Acting α) (s : Model × Surroundings) : Prop :=
  ∀ e : Engine, x.perform ({ s.1 with engine := e }, s.2) =
    ((x.perform s).1, { (x.perform s).2.1 with engine := e }, (x.perform s).2.2)

section Sparing

variable {α : Type} {x : Acting α}

/-- What changes nothing, whatever the engine, has nothing to do with it. -/
theorem sparesEngine_of_unchanged (outcome : Except Failure α)
    (h : ∀ e, x.perform ({ m with engine := e }, w) = (outcome, { m with engine := e }, w)) :
    SparesEngine x (m, w) := by
  intro e
  have hown : x.perform (m, w) = (outcome, m, w) := h m.engine
  rw [h e, hown]

/-- What begins with looking whether the model has ended does not get as far as the engine. -/
theorem sparesEngine_of_checkAlive (h : m.ended = true) (f : Unit → Acting α) :
    SparesEngine (checkAlive >>= f) (m, w) :=
  sparesEngine_of_unchanged (.error (.ended m.name)) fun e =>
    perform_checkAlive_bind (m := { m with engine := e }) h f

theorem SparesEngine.void {x : Acting Unit} {s : Model × Surroundings} (h : SparesEngine x s) :
    SparesEngine (void x) s := by
  intro e
  have hx := h e
  have hvoid (t : Model × Surroundings) : (Model.void x).perform t =
      ((x.perform t).1.map fun _ => Value.nothing, (x.perform t).2) := by
    rw [Model.void, perform_bind]
    rcases x.perform t with ⟨outcome, u⟩
    cases outcome <;> rfl
  rw [hvoid, hvoid, hx]

theorem onHandler_sparesEngine (x : Handler.Acting α) (s : Model × Surroundings) :
    SparesEngine (onHandler x) s := fun _ => rfl

theorem query_sparesEngine (place : Nat) (q : Query) (s : Model × Surroundings) :
    SparesEngine ((Operation.query q).run place) s := by
  obtain ⟨m, w⟩ := s
  have hanswer (e : Engine) : q.answer place { m with engine := e } = q.answer place m := by
    cases q <;> rfl
  refine sparesEngine_of_unchanged ((ofFault (q.answer place m) : Acting Value).perform (m, w)).1 ?_
  intro e
  show (ofFault (q.answer place { m with engine := e }) : Acting Value).perform
    ({ m with engine := e }, w) = _
  rw [hanswer e]
  cases q.answer place m <;> rfl

end Sparing

/-- On a model that has ended no operation has anything to do with the engine. -/
theorem run_sparesEngine (h : m.ended = true) (place : Nat) (op : Operation) :
    SparesEngine (op.run place) (m, w) := by
  -- most operations are refused; the others are taken one by one
  cases hop : op.needsLife with
  | true =>
    exact sparesEngine_of_unchanged (.error (.ended m.name)) fun e =>
      run_of_ended (m := { m with engine := e }) h place hop
  | false =>
    cases op with
    | query q => exact query_sparesEngine place q (m, w)
    | add entity =>
      cases entity with
      | var _ => cases hop
      | constraint _ => cases hop
      | _ => exact fun _ => rfl
    | newVar id request =>
      show SparesEngine (Model.newVar id request) (m, w)
      unfold Model.newVar
      cases Var.ofValues id request with
      | error f => exact fun _ => rfl
      | ok v => exact sparesEngine_of_checkAlive h _
    | newConstraint id expr sense bound name =>
      show SparesEngine (Model.newConstraint id expr sense bound name) (m, w)
      unfold Model.newConstraint
      cases Constraint.ofValues id expr sense bound name with
      | error f => exact fun _ => rfl
      | ok c => exact sparesEngine_of_checkAlive h _
    | finish =>
      exact SparesEngine.void (sparesEngine_of_unchanged (.ok ()) fun e =>
        perform_finish_of_ended (m := { m with engine := e }) h)
    | iisConstraints =>
      let outcome : Except Failure Value :=
        if m.constraints = [] then .ok (.list []) else .error (.ended m.name)
      exact sparesEngine_of_unchanged outcome fun e =>
        iisConstraints_of_ended (m := { m with engine := e }) h
    | setOutputLevel level => exact onHandler_sparesEngine _ _
    | tell s message args => exact onHandler_sparesEngine _ _
    | _ => cases hop

/-- The moves that are made with the model itself, and neither with its engine nor elsewhere. -/
def Move.isOwn : Move → Bool
  | operate .. | flushVars | flushConstraints | finalize => true
  | _ => false

theorem Move.run_sparesEngine (h : m.ended = true) {move : Move} (hmove : move.isOwn = true) :
    SparesEngine move.run (m, w) := by
  cases move with
  | operate place op => exact Model.run_sparesEngine h place op
  | flushVars => exact SparesEngine.void (sparesEngine_of_checkAlive h _)
  | flushConstraints => exact SparesEngine.void (sparesEngine_of_checkAlive h _)
  | finalize =>
    exact SparesEngine.void (sparesEngine_of_unchanged (.ok ()) fun e =>
      perform_finalize_of_ended (m := { m with engine := e }) h)
  | _ => cases hmove

/-! ## Histories -/

/-- How a model and its engine stand after some moves. -/
structure ReleasedOnce (moves : List Move) (s : Model × Surroundings) : Prop where
  /-- The model has ended as soon as it was told to, or nobody could reach it any more. -/
  ended : s.1.ended = moves.any Move.isEnding
  /-- Whoever asks is told so. -/
  answer (place : Nat) : ((Operation.query .isEnded).run place).perform s =
    (.ok (.bool (moves.any Move.isEnding)), s)
  /-- The engine was told to finish exactly when the model ended. -/
  engine : s.1.engine.ended = moves.any Move.isEnding
  /-- No log shows that it was told so twice. -/
  releases_le : s.1.engine.calls.countP Call.isFinish ≤ 1
  /-- A log that was kept shows that it was told so once, or not yet. -/
  releases (hlog : s.1.engine.isNative = false) (hkept : ∀ move ∈ moves, move ≠ .clearCalls) :
    s.1.engine.calls.countP Call.isFinish = if moves.any Move.isEnding then 1 else 0
  /-- Ending a living model logs a message and then tells the engine to finish, and does nothing
  else. -/
  finish (halive : moves.any Move.isEnding = false) :
    ∃ t, OnlyMessages s t ∧
      finish.perform s = (.ok (), afterCall { t.1 with ended := true } t.2 Engine.finish)
  /-- Where nobody can reach the model any more, there is not even a message. -/
  finalize (halive : moves.any Move.isEnding = false) :
    finalize.perform s = (.ok (), afterCall { s.1 with ended := true } s.2 Engine.finish)
  /-- Once the model has ended, nothing that is done with it calls its engine. -/
  spares (hended : moves.any Move.isEnding = true) (move : Move) (hmove : move.isOwn = true) :
    SparesEngine move.run s

theorem Shown.releasedOnce {moves : List Move} {s : Model × Surroundings}
    (h : Shown (moves.any Move.isEnding) (∀ move ∈ moves, move ≠ .clearCalls) s.1.ending) :
    ReleasedOnce moves s := by
  obtain ⟨m, w⟩ := s
  have hended : m.ended = moves.any Move.isEnding := h.model
  have hreleases_le : m.engine.calls.countP Call.isFinish ≤
      (moves.any Move.isEnding && !m.engine.isNative).toNat := h.releases_le
  have hreleases (hkept : ∀ move ∈ moves, move ≠ .clearCalls) :
      m.engine.calls.countP Call.isFinish =
        (moves.any Move.isEnding && !m.engine.isNative).toNat := h.releases hkept
  refine ⟨hended, fun place => ?_, h.engine, ?_, fun hlog hkept => ?_, fun halive => ?_,
    fun halive => ?_, fun hall move hmove => ?_⟩
  · rw [← hended]
    rfl
  · exact Nat.le_trans hreleases_le (Bool.toNat_le _)
  · rw [hreleases hkept, hlog, Bool.not_false, Bool.and_true]
    cases moves.any Move.isEnding <;> rfl
  · exact perform_finish (hended.trans halive)
  · exact perform_finalize (hended.trans halive)
  · exact move.run_sparesEngine (hended.trans hall) hmove

namespace History

/-- In every history of a new model its engine is released at most once, namely as soon as the model
is ended in one way or another, and not called any more after that. Leaving a block, normally or with
a failure, is one of the ways: it ends the model like `Operation.finish`. -/
theorem run_released_once {env : Environment} {settings : SettingsStore} {place : Nat}
    {name : Value} {w w' : Surroundings} {m : Model}
    (h : (env.newModel settings place name).perform w = (.ok m, w')) (moves : List Move) :
    ReleasedOnce moves (run { model := m, surroundings := w' } moves).state := by
  obtain ⟨hended, hengine, hreleases⟩ := Environment.newModel_ending h
  have hstart : Shown false True m.ending :=
    ⟨hended, hengine, Nat.le_of_eq hreleases, fun _ => hreleases⟩
  have hshown := shown_foldl hstart moves
  rw [← run_ending { model := m, surroundings := w' } moves] at hshown
  exact hshown.releasedOnce

/-- A model in memory that is ended twice, with a call in between that is refused. -/
theorem run_released_once_twice : ∃ m w, Environment.firstModelOn "zero" = (.ok m, w) ∧
    let s := (run { model := m, surroundings := w }
      [.operate 0 .finish, .operate 0 .optimize, .operate 0 .finish, .finalize]).state
    s.1.ended = true ∧ s.1.engine.calls.countP Call.isFinish = 1 := by
  obtain ⟨m, w, h, hp⟩ := Environment.exists_of_made (r := Environment.firstModelOn "zero")
    (p := fun m w => !(run { model := m, surroundings := w }
      [.operate 0 .finish, .operate 0 .optimize, .operate 0 .finish, .finalize]).state.1.engine.isNative)
    (by decide +kernel)
  have hreleased := run_released_once h
    [.operate 0 .finish, .operate 0 .optimize, .operate 0 .finish, .finalize]
  refine ⟨m, w, h, hreleased.ended, hreleased.releases (Bool.not_eq_true' _ ▸ hp) ?_⟩
  intro move hmove
  rintro rfl
  simp only [List.mem_cons, List.not_mem_nil, or_false, reduceCtorEq] at hmove

end History

end Model

end Milp

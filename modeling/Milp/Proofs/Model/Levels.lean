import Milp.Proofs.Model.Creation
import Milp.Proofs.Model.TwoRuns
import Milp.Proofs.Settings.Way
set_option autoImplicit false

/-! # Output levels

Two models that are made in the same way, but for the output level in the settings of their
environment, do the same from then on. So do all that callers ask of them, whatever levels they set
on the way (`History.run_alike`): the outcomes, the models, their engines and their counters are the
same at every step, and the one at the higher level logs a part of what the other one does
(`Environment.newModel_levels`). -/

namespace Milp

open Milp.Action

variable {Quieter : Prop} {before : List LogRecord}

namespace Model

variable {s t : Model × Surroundings}

/-! ## Two runs -/

/-- A move in which nothing happens. -/
def Move.idle : Move := .elsewhere id

/-- What a run does is the same in another run, except that each of them may set its own level
whenever it wants to. -/
inductive Move.Alike : Move → Move → Prop
  | same {move : Move} (h : move.IsLevelFree) : Alike move move
  | levels (place : Nat) (level level' : Value) :
      Alike (.operate place (.setOutputLevel level)) (.operate place (.setOutputLevel level'))
  | first (place : Nat) (level : Value) : Alike (.operate place (.setOutputLevel level)) .idle
  | second (place : Nat) (level : Value) : Alike .idle (.operate place (.setOutputLevel level))

/-- The same model at another level. -/
def atLevel (m : Model) (level : OutputLevel) : Model :=
  { m with handler := { m.handler with level } }

/-- Setting levels leads to two runs again, if the first one stays the quieter one. -/
theorem TwoRuns.atLevel (h : TwoRuns Quieter before s t) {level level' : OutputLevel}
    (hlevel : Quieter → level'.rank ≤ level.rank) :
    TwoRuns Quieter before (s.1.atLevel level, s.2) (t.1.atLevel level', t.2) where
  model := congrArg (Model.atLevel · level') h.model
  messages :=
    { handler := congrArg (fun handler : Handler => { handler with level := level' })
        h.messages.handler
      surroundings := h.messages.surroundings
      log := h.messages.log
      level := hlevel }

/-- A move leads from two runs to two runs, with the same outcome. Where levels are set, the first
run must stay the quieter one. -/
theorem Move.Alike.step {move move' : Move} (h : move.Alike move')
    (hst : TwoRuns Quieter before s t)
    (hlevel : Quieter → (move'.run.perform t).2.1.handler.level.rank ≤
      (move.run.perform s).2.1.handler.level.rank) :
    (move.run.perform s).1 = (move'.run.perform t).1 ∧
      TwoRuns Quieter before (move.run.perform s).2 (move'.run.perform t).2 := by
  cases h with
  | same h => exact move_lockstep h _ _ hst
  | levels place level level' => exact ⟨rfl, hst.atLevel hlevel⟩
  | first place level => exact ⟨rfl, hst.atLevel hlevel⟩
  | second place level => exact ⟨rfl, hst.atLevel hlevel⟩

namespace History

/-- The outcomes of moves, one after the other. -/
def outcomes (h : History) : List Move → List (Except Failure Value)
  | [] => []
  | move :: rest => (move.run.perform h.state).1 :: (h.next move).outcomes rest

/-- The level of the model after some moves, as a number. -/
def levelAfter (h : History) (moves : List Move) : Nat := (h.run moves).model.handler.level.rank

/-- Two runs stay two runs, with the same outcomes, as long as the first one stays the quieter one.
-/
theorem run_alike {h k : History} (hstart : TwoRuns Quieter before h.state k.state)
    {moves moves' : List Move} (hmoves : List.Forall₂ Move.Alike moves moves')
    (hlevel : Quieter → ∀ n, k.levelAfter (moves'.take n) ≤ h.levelAfter (moves.take n)) :
    h.outcomes moves = k.outcomes moves' ∧
      TwoRuns Quieter before (h.run moves).state (k.run moves').state := by
  induction hmoves generalizing h k with
  | nil => exact ⟨rfl, hstart⟩
  | @cons move move' rest rest' hmove _ ih =>
    have hstep := hmove.step hstart fun hq => by
      have hone : (k.next move').state.1.handler.level.rank ≤
          (h.next move).state.1.handler.level.rank := hlevel hq 1
      rwa [next_state, next_state] at hone
    rw [← next_state, ← next_state] at hstep
    obtain ⟨houtcomes, hend⟩ := ih hstep.2 fun hq n => hlevel hq (n + 1)
    exact ⟨congrArg₂ List.cons hstep.1 houtcomes, hend⟩

/-- Two runs agree at every step, and up to each step the first one has logged a part of what the
second one has, if it has been the quieter one so far. -/
theorem run_alike_throughout {h k : History}
    (hstart : ∀ {Quieter : Prop}, (Quieter → k.levelAfter [] ≤ h.levelAfter []) →
      TwoRuns Quieter before h.state k.state)
    {moves moves' : List Move} (hmoves : List.Forall₂ Move.Alike moves moves') :
    h.outcomes moves = k.outcomes moves' ∧
      ∀ n, TwoRuns (∀ i ≤ n, k.levelAfter (moves'.take i) ≤ h.levelAfter (moves.take i)) before
        (h.run (moves.take n)).state (k.run (moves'.take n)).state := by
  refine ⟨(run_alike (hstart False.elim) hmoves False.elim).1, fun n => ?_⟩
  refine (run_alike (hstart fun hq => hq 0 (Nat.zero_le n)) (List.forall₂_take n hmoves) ?_).2
  intro hq i
  rw [List.take_take, List.take_take]
  exact hq _ (Nat.min_le_right i n)

end History

end Model

/-! ## Settings that differ in the level -/

namespace SettingsStore

variable {s : SettingsStore}

theorem node?_modify (s : SettingsStore) (i j : Nat) (f : SettingsNode → SettingsNode) :
    (s.modify i f).node? j = (s.node? j).map fun n => if i = j then f n else n :=
  List.getElem?_modify ..

theorem setting_set_of_ne (n : SettingsNode) {key name : String} (h : key ≠ name) (value : Value) :
    setting (n.set (.text key) value) name = setting n name := by
  unfold setting
  rw [SettingsNode.get?_set_of_ne n value h]
  rfl

/-- Setting a setting leaves all others as they are, wherever they are looked up. -/
theorem child_modify_set (view : View) (s : SettingsStore) (i : Nat) {key name : String}
    (h : key ≠ name) (value v : Value) :
    (s.modify i (·.set (.text key) value)).child view v name = s.child view v name := by
  cases v with
  | ref r =>
    cases r with
    | settings j =>
      rw [child, child, node?_modify]
      cases s.node? j with
      | none => rfl
      | some n =>
        show setting (if i = j then n.set (.text key) value else n) name = setting n name
        split
        · exact setting_set_of_ne n h value
        · rfl
    | _ => rfl
  | _ => rfl

/-- The settings with another output level in one of the nodes. -/
def withLevel (s : SettingsStore) (i : Nat) (level : Value) : SettingsStore :=
  s.modify i (·.set (.text "output_level") level)

theorem follow_withLevel (view : View) (s : SettingsStore) (i : Nat) (level : Value)
    {names : List String} (h : "output_level" ∉ names) (v : Value) :
    (s.withLevel i level).follow view v names = s.follow view v names := by
  induction names generalizing v with
  | nil => rfl
  | cons name rest ih =>
    rw [List.mem_cons, not_or] at h
    rw [follow, follow, List.foldlM_cons, List.foldlM_cons, withLevel,
      child_modify_set view s i h.1]
    exact bind_congr fun o => ih h.2 o

/-- A level that was set is found, unless the node takes no settings at all. -/
theorem child_withLevel (view : View) (s : SettingsStore) (i : Nat) :
    (∀ level, (s.withLevel i level).child view (.ref (.settings i)) "output_level" = .ok level) ∨
      ∃ f, ∀ level,
        (s.withLevel i level).child view (.ref (.settings i)) "output_level" = .error f := by
  have hnode (level : Value) : (s.withLevel i level).node? i =
      (s.node? i).map (·.set (.text "output_level") level) := by
    rw [withLevel, node?_modify]
    simp only [if_pos]
  simp only [child, hnode]
  cases s.node? i with
  | none => exact .inr ⟨.missingMember, fun _ => rfl⟩
  | some n =>
    have hname : ¬"output_level".startsWith "__" = true := by decide +kernel
    have hset (level : Value) : setting (n.set (.text "output_level") level) "output_level" =
        if n.kind = .plain || "output_level" ∈ n.kind.operations then .error .missingMember
        else .ok level := by
      rw [setting, SettingsNode.get?_set, if_neg hname]
      rfl
    simp only [Option.map_some, hset]
    split
    · exact .inr ⟨_, fun _ => rfl⟩
    · exact .inl fun _ => rfl

end SettingsStore

namespace Environment

open SettingsStore

/-- The level of an environment is the one that was set in its settings, if they take any. -/
theorem outputLevel_withLevel (view : View) (env : Environment) (s : SettingsStore) :
    (∀ level, env.outputLevel view (s.withLevel env.settings level) = .ok level) ∨
      ∃ f, ∀ level, env.outputLevel view (s.withLevel env.settings level) = .error f := by
  have hchild (s : SettingsStore) : env.outputLevel view s =
      s.child view (.ref (.settings env.settings)) "output_level" := bind_pure _
  simp only [hchild]
  exact child_withLevel view s env.settings

/-- Which settings there are for engines does not depend on the level. -/
theorem parametersOf_withLevel (view : View) (s : SettingsStore) (i : Nat) (level v : Value) :
    parametersOf view (s.withLevel i level) v = parametersOf view s v := by
  have hengine (v : Value) : engineParameters view ((s.withLevel i level).child view v) =
      engineParameters view (s.child view v) := by
    unfold engineParameters withLevel
    simp only [ne_eq, String.reduceEq, not_false_eq_true, child_modify_set]
  cases v with
  | ref r =>
    cases r with
    | settings j =>
      rw [parametersOf, parametersOf, hengine, withLevel, node?_modify]
      cases s.node? j with
      | none => rfl
      | some n =>
        obtain ⟨kind, entries⟩ := n
        dsimp only [Option.map]
        split_ifs <;> cases kind <;> rfl
    | _ => rfl
  | _ => rfl

/-- What engines are made of has nothing to do with the level. -/
theorem newEngine_withLevel (env : Environment) (s : SettingsStore) (i : Nat) (level name : Value) :
    env.newEngine (s.withLevel i level) name = env.newEngine s name := by
  have hagent (view : View) : env.solverAgent view (s.withLevel i level) = env.solverAgent view s :=
    follow_withLevel view s i level (by decide) _
  have hsolver (view : View) :
      env.setting view (s.withLevel i level) ["solver"] = env.setting view s ["solver"] :=
    follow_withLevel view s i level (by decide) _
  unfold newEngine
  simp only [hagent, hsolver, parametersOf_withLevel]

/-! ## New models -/

/-- Making an engine leaves the log as it is. -/
theorem product_log {x : EngineFactory Nat} (hx : Mute x) (w : Surroundings) :
    ((EngineFactory.product x).perform w).2.log = w.log :=
  (hx w.log w.log ([], w) _ ⟨rfl, rfl⟩).2.1

/-- A model that has just been made, in surroundings where that was reported. -/
def created (name : Value) (place : Nat) (level : Value) (engine : Engine) (w : Surroundings) :
    Model.History where
  model := { name, environment := place, handler := .ofValue level, engine }
  surroundings := w.addLog ((Handler.ofValue level).printed .trace
    s!"Model {name.display w.view} created with engine: {engine.name}")

theorem perform_create (name : Value) (place : Nat) (level : Value) (engine : Engine)
    (w : Surroundings) :
    (Model.create name place level engine).perform w =
      (.ok (created name place level engine w).model,
        (created name place level engine w).surroundings) := by
  have hlog (m : Model) (text : String → String) : (Model.log .trace text).perform (m, w) =
      (.ok (), m, w.addLog (m.handler.printed .trace (text (m.name.display w.view)))) := by
    rw [Model.log, perform_bind_of_ok Model.perform_model, Model.onHandler, within_run,
      Handler.perform_report_printed]
    rfl
  rw [Model.create, perform_get_bind]
  dsimp only
  rw [hlog]
  rfl

theorem created_twoRuns (name : Value) (place : Nat) {level level' : Value} (engine : Engine)
    (w : Surroundings)
    (hlevel : Quieter → (Handler.ofValue level').level.rank ≤ (Handler.ofValue level).level.rank) :
    Model.TwoRuns Quieter w.log (created name place level engine w).state
      (created name place level' engine w).state where
  model := rfl
  messages :=
    { handler := rfl
      surroundings := rfl
      log := ⟨_, _, rfl, rfl, fun hq => Handler.printed_sublist (hlevel hq) _ _⟩
      level := hlevel }

/-- Two models are made with different output levels in the settings of their environment, and then
the same is asked of them, apart from levels that each of them may be set to at any time. Either
neither of them can be made, for the same reason, or all outcomes are the same, and at every step
the models are the same but for the level, and all surroundings but for the log: what the first one
has logged is a part of what the second one has, as long as its level has been as high all the time.
-/
theorem newModel_levels (env : Environment) (s : SettingsStore) (w : Surroundings) (place : Nat)
    (name level level' : Value) {moves moves' : List Model.Move}
    (hmoves : List.Forall₂ Model.Move.Alike moves moves') :
    match (env.newModel (s.withLevel env.settings level) place name).perform w,
      (env.newModel (s.withLevel env.settings level') place name).perform w with
    | (.ok m, v), (.ok m', v') =>
      let h : Model.History := { model := m, surroundings := v }
      let k : Model.History := { model := m', surroundings := v' }
      h.outcomes moves = k.outcomes moves' ∧
        ∀ n, Model.TwoRuns (∀ i ≤ n, k.levelAfter (moves'.take i) ≤ h.levelAfter (moves.take i)) w.log
          (h.run (moves.take n)).state (k.run (moves'.take n)).state
    | (.error f, v), (.error f', v') => f = f' ∧ v = v'
    | _, _ => False := by
  have hnew (level : Value) : (env.newModel (s.withLevel env.settings level) place name).perform w =
      (Action.ofFault (env.outputLevel w.view (s.withLevel env.settings level)) >>= fun level =>
        EngineFactory.product (env.newEngine s name) >>= fun engine =>
          Model.create name place level engine : Action Surroundings Model).perform w := by
    rw [newModel, perform_get_bind, newEngine_withLevel]
  rw [hnew, hnew]
  rcases outputLevel_withLevel w.view env s with hok | ⟨f, herror⟩
  · rw [hok, hok, perform_bind_of_ok (perform_ofFault_ok _ _),
      perform_bind_of_ok (perform_ofFault_ok _ _), perform_bind, perform_bind]
    have hlog := product_log (newEngine_mute env s name) w
    generalize (EngineFactory.product (env.newEngine s name)).perform w = made at hlog ⊢
    obtain ⟨_ | engine, v⟩ := made
    · exact ⟨rfl, rfl⟩
    · dsimp only
      rw [perform_create, perform_create, ← show v.log = w.log from hlog]
      exact Model.History.run_alike_throughout
        (fun hlevel => created_twoRuns name place engine v hlevel) hmoves
  · rw [herror, herror]
    exact ⟨rfl, rfl⟩

/-- A first model with the given level in the settings of its environment, which are the default
ones otherwise. -/
def firstModelAt (level : String) : Except Failure Model × Surroundings :=
  let env : Environment := { settings := 1 }
  let settings := (SettingsStore.addDefault {}).2.withLevel env.settings (.text level)
  (env.newModel settings 0 .nothing).perform { view := .blank }

/-- A model that is told to print errors only, and one that prints everything: both fail with the
same fatal message, which is all that the first one has logged. -/
theorem newModel_levels_fatal :
    let add : Model.Move := .operate 0 (.newVar 0 {})
    let fatal : Model.Move := .operate 0 (.tell .fatal (.text "stop") .nothing)
    let moves := [add, .operate 0 (.setOutputLevel (.text "error")), .operate 0 .optimize, fatal]
    let moves' := [add, .idle, .operate 0 .optimize, fatal]
    ∃ m v m' v', firstModelAt "warning" = (.ok m, v) ∧ firstModelAt "trace" = (.ok m', v') ∧
      let h : Model.History := { model := m, surroundings := v }
      let k : Model.History := { model := m', surroundings := v' }
      h.outcomes moves = k.outcomes moves' ∧
        Model.TwoRuns True [] (h.run moves).state (k.run moves').state ∧
        (h.run moves).surroundings.log.length = 1 ∧ (k.run moves').surroundings.log.length = 4 := by
  intro add fatal moves moves'
  have hmoves : List.Forall₂ Model.Move.Alike moves moves' :=
    .cons (.same rfl) (.cons (.first 0 _) (.cons (.same rfl) (.cons (.same rfl) .nil)))
  let v' := (firstModelAt "trace").2
  obtain ⟨m, v, hm, hp⟩ := exists_of_made (r := firstModelAt "warning") (p := fun m v =>
    (firstModelAt "trace").1.toOption.any fun m' =>
      let h : Model.History := { model := m, surroundings := v }
      let k : Model.History := { model := m', surroundings := v' }
      decide ((∀ i ∈ List.range 5, k.levelAfter (moves'.take i) ≤ h.levelAfter (moves.take i)) ∧
        (h.run moves).surroundings.log.length = 1 ∧ (k.run moves').surroundings.log.length = 4))
    (by decide +kernel)
  obtain ⟨m', hmade, hp'⟩ := exists_ok_of_any hp
  have hm' : firstModelAt "trace" = (.ok m', v') := Prod.ext hmade rfl
  obtain ⟨hquieter, hlogs⟩ := of_decide_eq_true hp'
  have hlevels := newModel_levels { settings := 1 } (SettingsStore.addDefault {}).2
    { view := .blank } 0 .nothing (.text "warning") (.text "trace") hmoves
  refine ⟨m, v, m', v', hm, hm', ?_⟩
  rw [firstModelAt] at hm hm'
  rw [hm, hm'] at hlevels
  refine ⟨hlevels.1, ?_, hlogs⟩
  have hfour : (∀ i ≤ 4, _) = True := eq_true fun i hi =>
    hquieter i (List.mem_range.2 (Nat.lt_succ_of_le hi))
  exact hfour ▸ hlevels.2 4

end Environment

end Milp

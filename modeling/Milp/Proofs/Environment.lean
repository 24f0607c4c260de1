import Milp.Construction
import Milp.Environment
import Milp.Proofs.Engine.Attribute
import Milp.Proofs.Except
set_option autoImplicit false

/-! # Engines of environments

An engine that is made by an environment is at work, and each parameter is either stored or refused with
a code; if one is refused, the engine is released (`EngineFactory.configure_ends`). So whoever asks for an
engine gets one with all parameters of the environment, or else no engine is left at work, unless the
parameters themselves could not be made out of the settings (`Environment.newEngine_ends`): the engine
has been made by then, and nobody releases it. -/

namespace Milp

open Milp.Action

namespace Engine

/-! ## Engines at work -/

/-- An engine that has not been released. Nothing makes its operations fail, and if the native solver is
behind it, it has an instance. -/
structure AtWork (e : Engine) : Prop where
  unended : e.ended = false
  unreleased : e.calls.countP Call.isFinish = 0
  solver : e.backend ≠ .native none
  obedient (fs : List InjectedFailure) (h : e.backend = .faulty fs) : fs = []

/-- The engine after it is released. -/
def released (e : Engine) : Engine :=
  let e := e.record .finish
  { e with ended := true, backend := if e.isNative then .native none else e.backend }

variable {e : Engine} {w : Surroundings}

theorem perform_finish : finish.perform (e, w) = (.ok accepted, e.released, w) := rfl

/-- What shows of an engine that has been released once: the log has exactly one release, if there is a
log, and the native solver is gone. -/
structure ReleasedOnce (e : Engine) : Prop where
  ended : e.ended = true
  once : e.calls.countP Call.isFinish = (!e.isNative).toNat
  solver : ∀ i, e.backend ≠ .native (some i)

theorem AtWork.released (h : e.AtWork) : e.released.ReleasedOnce := by
  have hunreleased := h.unreleased
  obtain ⟨backend, _, _, _, _, _, _, _, _⟩ := e
  refine ⟨rfl, ?_, ?_⟩
  all_goals cases backend <;> simp_all [Engine.released, Engine.record, isNative, Call.isFinish]

theorem AtWork.injected? (h : e.AtWork) (operation : String) : e.injected? operation = none := by
  unfold Engine.injected?
  split
  · rename_i fs hfs
    rw [h.obedient fs hfs]
    rfl
  · rfl

theorem AtWork.record (h : e.AtWork) {c : Call} (hc : c.isFinish = false) : (e.record c).AtWork := by
  rw [Engine.record]
  split
  · exact h
  · refine ⟨h.unended, ?_, h.solver, h.obedient⟩
    rw [List.countP_append, h.unreleased, List.countP_singleton, hc]
    rfl

theorem AtWork.store (h : e.AtWork) (parameters : List (Value × Value)) :
    { e with parameters }.AtWork :=
  ⟨h.unended, h.unreleased, h.solver, h.obedient⟩

/-- A parameter of the kind that settings give: the output flag is a truth value. -/
def IsParameter (p : String × Value) : Prop :=
  (∃ b, p = ("log_output", .bool b)) ∨ (∃ x, p = ("time_limit", .float x)) ∨
    ∃ x, p = ("mip_gap", .float x)

/-- The native solver is told the value that is stored. -/
theorem perform_nativeValue {p : String × Value} (hp : IsParameter p) (k : Value → Acting Value) :
    (if (optionName (.text p.1)).same (.text "output_flag") then (.bool <$> isTrue p.2) >>= k
      else pure p.2 >>= k).perform (e, w) = (k p.2).perform (e, w) := by
  rcases hp with ⟨b, rfl⟩ | ⟨x, rfl⟩ | ⟨x, rfl⟩
  · have htrue : (Value.bool <$> isTrue (.bool b)).perform (e, w) = (.ok (.bool b), e, w) := by
      show (ofFault (Value.truthy w.view (.bool b)) >>= fun b => pure (.bool b) :
        Acting Value).perform (e, w) = _
      rw [Value.truthy_bool]
      rfl
    exact perform_bind_of_ok htrue
  · rfl
  · rfl

/-- The native solver takes a parameter, or it refuses it and nothing is stored. -/
theorem setNativeParameter_ends {i : Nat} (h : e.backend = .native (some i)) (w : Surroundings)
    {p : String × Value} (hp : IsParameter p) :
    ∃ w', (setNativeParameter (.text p.1) p.2).perform (e, w) =
        (.ok accepted, { e with parameters := Value.insert e.parameters (.text p.1) p.2 }, w') ∨
      (setNativeParameter (.text p.1) p.2).perform (e, w) =
        (.ok (refused .invalidArgument), e, w') := by
  let c : SolverCall := .setOption (optionName (.text p.1)) p.2
  have hcall : (callSolver c).perform (e, w) =
      (.ok (w.solver.call i c).1, e, { w with solver := (w.solver.call i c).2 }) := by
    rw [perform_callSolver, h]
  refine ⟨{ w with solver := (w.solver.call i c).2 }, ?_⟩
  have hset : (setNativeParameter (.text p.1) p.2).perform (e, w) =
      (if (w.solver.call i c).1 = .error then return refused .invalidArgument else do
        storeParameter (.text p.1) p.2
        return accepted : Acting Value).perform
        (e, { w with solver := (w.solver.call i c).2 }) := by
    rw [setNativeParameter, if_neg (show ¬(!(Value.text p.1).isKey) = true from nofun)]
    dsimp only
    rw [perform_nativeValue hp, perform_bind_of_ok hcall]
  rw [hset]
  split
  · exact .inr rfl
  · exact .inl rfl

/-- An engine at work with one more parameter, or a code that says that it is refused. -/
theorem setParameter_ends (h : e.AtWork) (w : Surroundings) {p : String × Value}
    (hp : IsParameter p) :
    ∃ e' w' status, (setParameter (.text p.1) p.2).perform (e, w) = (.ok status, e', w') ∧
      e'.AtWork ∧
      (status = accepted ∧ e'.parameters = Value.insert e.parameters (.text p.1) p.2 ∨
        status = refused .invalidArgument) := by
  rw [setParameter, perform_bind_of_ok perform_engine]
  cases hnative : e.isNative with
  | false =>
    have hrecorded := h.record (c := .setParameter (.text p.1) p.2) rfl
    have hparameters : (e.record (.setParameter (.text p.1) p.2)).parameters = e.parameters := by
      rw [record, hnative]
      rfl
    refine ⟨{ e.record (.setParameter (.text p.1) p.2) with
        parameters := Value.insert e.parameters (.text p.1) p.2 }, w, accepted, ?_,
      hrecorded.store _, .inl ⟨rfl, rfl⟩⟩
    rw [if_neg Bool.false_ne_true, recorded, change, perform_modify_bind,
      perform_unlessInjected (hrecorded.injected? _), ← hparameters]
    rfl
  | true =>
    obtain ⟨i, hi⟩ : ∃ i, e.backend = .native (some i) := by
      have hsolver := h.solver
      unfold isNative at hnative
      split at hnative
      · rename_i solver hbackend
        cases solver with
        | none => exact absurd hbackend hsolver
        | some i => exact ⟨i, hbackend⟩
      · cases hnative
    rw [if_pos rfl]
    obtain ⟨w', hset | hset⟩ := setNativeParameter_ends hi w hp
    · exact ⟨_, w', accepted, hset, h.store _, .inl ⟨rfl, rfl⟩⟩
    · exact ⟨e, w', _, hset, h, .inr rfl⟩

end Engine

namespace EngineFactory

open Engine

variable {es : List Engine} {e : Engine} {w : Surroundings}

/-- An action on the engine that was made last. -/
theorem perform_onEngine {α : Type} (x : Engine.Acting α) :
    (onEngine es.length x).perform (es ++ [e], w) =
      ((x.perform (e, w)).1, es ++ [(x.perform (e, w)).2.1], (x.perform (e, w)).2.2) := by
  rw [onEngine, within_run]
  simp

/-! ## New engines -/

theorem atWork_of_key {key : String} {backend : Backend} (h : Backend.ofKey? key = some backend)
    (modelName : Value) : AtWork { backend, modelName } := by
  refine ⟨rfl, rfl, ?_, ?_⟩ <;> unfold Backend.ofKey? at h
  · split at h <;> cases h <;> exact nofun
  · intro fs hfs
    split at h <;> cases h <;> cases hfs
    rfl

/-- Either an engine is made, or nothing is. -/
theorem make_ends (key modelName : Value) (es : List Engine) (w : Surroundings) :
    (∃ e w', (make key modelName).perform (es, w) = (.ok es.length, es ++ [e], w') ∧ e.AtWork ∧
        e.parameters = []) ∨
      ∃ f w', (make key modelName).perform (es, w) = (.error f, es, w') := by
  have hnative : ∃ e w', (makeNative modelName).perform (es, w) =
      (.ok es.length, es ++ [e], w') ∧ e.AtWork ∧ e.parameters = [] :=
    ⟨_, _, rfl, ⟨rfl, rfl, nofun, nofun⟩, rfl⟩
  unfold make
  split
  · exact .inl hnative
  · dsimp only
    split
    · exact .inl hnative
    · split
      · rename_i backend hkey
        exact .inl ⟨_, w, rfl, atWork_of_key hkey modelName, rfl⟩
      · exact .inr ⟨_, w, rfl⟩
  · exact .inr ⟨_, w, rfl⟩
  · exact .inr ⟨_, w, rfl⟩

/-- An engine at work gets all parameters, or it refuses one and is released. -/
theorem configure_ends (h : e.AtWork) (es : List Engine) (w : Surroundings)
    {ps : List (String × Value)} (hps : ∀ p ∈ ps, IsParameter p) :
    (∃ e' w', (configure es.length ps).perform (es ++ [e], w) = (.ok (), es ++ [e'], w') ∧
        e'.AtWork ∧
        e'.parameters = ps.foldl (fun t p => Value.insert t (.text p.1) p.2) e.parameters) ∨
      ∃ (e' : Engine) (w' : Surroundings), (configure es.length ps).perform (es ++ [e], w) =
        (.error (.engine (refused .invalidArgument) (.text "set_parameter")),
          es ++ [e'.released], w') ∧ e'.AtWork := by
  induction ps generalizing e w with
  | nil => exact .inl ⟨e, w, rfl, h, rfl⟩
  | cons p rest ih =>
    obtain ⟨e', w', status, hset, hatWork, hstatus⟩ :=
      setParameter_ends h w (hps p List.mem_cons_self)
    have hfirst : (onEngine es.length (setParameter (.text p.1) p.2)).perform (es ++ [e], w) =
        (.ok status, es ++ [e'], w') := by
      rw [perform_onEngine, hset]
    have htrue : (onEngine es.length (isTrue status)).perform (es ++ [e'], w') =
        (ofFault (status.truthy w'.view) : EngineFactory Bool).perform (es ++ [e'], w') := by
      have hstatus : (isTrue status).perform (e', w') =
          (ofFault (status.truthy w'.view) : Acting Bool).perform (e', w') := rfl
      rw [perform_onEngine, hstatus]
      cases status.truthy w'.view <;> rfl
    rw [configure, perform_bind_of_ok hfirst, perform_bind, htrue]
    rcases hstatus with ⟨rfl, hparameters⟩ | rfl
    · rw [Value.truthy_accepted]
      have hrest := ih hatWork w' fun p hp => hps p (List.mem_cons_of_mem _ hp)
      rw [hparameters] at hrest
      exact hrest
    · have hrefused : (refused .invalidArgument).truthy w'.view = .ok true :=
        Value.truthy_refusal _ _
      rw [hrefused]
      refine .inr ⟨e', w', ?_, hatWork⟩
      have hfinish : (onEngine es.length finish).perform (es ++ [e'], w') =
          (.ok accepted, es ++ [e'.released], w') := by
        rw [perform_onEngine, perform_finish]
      show ((onEngine es.length finish) >>= _).perform (es ++ [e'], w') = _
      rw [perform_bind_of_ok hfinish]
      rfl

end EngineFactory

/-! ## Tables of parameters -/

namespace Value

theorem insert_of_new {entries : List (Value × Value)} {key : Value}
    (h : ∀ e ∈ entries, e.1.same key = false) (value : Value) :
    insert entries key value = entries ++ [(key, value)] := by
  induction entries with
  | nil => rfl
  | cons e rest ih =>
    rw [insert, h e List.mem_cons_self, if_neg Bool.false_ne_true,
      ih fun e he => h e (List.mem_cons_of_mem _ he)]
    rfl

/-- Entries with names of their own stand in a table in their order. -/
theorem foldl_insert (before after : List (String × Value))
    (h : ((before ++ after).map Prod.fst).Nodup) :
    after.foldl (fun t p => insert t (.text p.1) p.2)
        (before.map fun p => (.text p.1, p.2)) =
      (before ++ after).map fun p => (.text p.1, p.2) := by
  induction after generalizing before with
  | nil => rw [List.append_nil, List.foldl_nil]
  | cons p rest ih =>
    have hnew : ∀ e ∈ before.map fun p => (Value.text p.1, p.2), e.1.same (.text p.1) = false := by
      rw [List.map_append, List.nodup_append] at h
      intro e he
      obtain ⟨q, hq, rfl⟩ := List.mem_map.1 he
      exact decide_eq_false
        (h.2.2 _ (List.mem_map_of_mem hq) _ (List.mem_map_of_mem List.mem_cons_self))
    rw [List.foldl_cons, insert_of_new hnew]
    have hrest := ih (before ++ [p]) (by rwa [List.append_assoc, List.singleton_append])
    rw [List.map_append, List.append_assoc] at hrest
    exact hrest

end Value

/-! ## Settings of parameters -/

/-- The truth value that a setting stands for: a word for it, or whether a value that is no text counts
as true. -/
inductive StandsForTruth (view : View) : Value → Bool → Prop where
  | yes {v : Value} {word : String} : v.text? = some word →
      Text.lower word ∈ ["1", "yes", "true", "on"] → StandsForTruth view v true
  | no {v : Value} {word : String} : v.text? = some word →
      Text.lower word ∈ ["0", "no", "false", "off", "none"] → StandsForTruth view v false
  | counts {v : Value} {b : Bool} : v.text? = none → v.truthy view = .ok b → StandsForTruth view v b

/-- The limit that a setting stands for: none if it reads as the word for nothing, or a number. -/
inductive StandsForLimit (view : View) : Value → Option Double → Prop where
  | none {v : Value} : Text.lower (v.display view) = "none" → StandsForLimit view v none
  | some {v : Value} {x : Double} : Text.lower (v.display view) ≠ "none" → v.toDouble = .ok x →
      StandsForLimit view v (some x)

theorem boolOfWord?_eq_some {word : String} {b : Bool} (h : boolOfWord? word = some b) :
    word ∈ if b then ["1", "yes", "true", "on"] else ["0", "no", "false", "off"] := by
  unfold boolOfWord? at h
  split at h
  case h_9 => cases h
  all_goals
    cases h
    decide

theorem standsForTruth {view : View} {v : Value} {b : Bool} (h : truthOfSetting view v = .ok b) :
    StandsForTruth view v b := by
  unfold truthOfSetting at h
  split at h
  · rename_i word hword
    dsimp only at h
    split at h
    · rename_i hnone
      cases h
      exact .no hword (by rw [hnone]; decide)
    · split at h
      · rename_i hbool
        cases h
        have hmem := boolOfWord?_eq_some hbool
        cases b
        · exact .no hword (List.mem_append_left ["none"] hmem)
        · exact .yes hword hmem
      · cases h
  · rename_i hword
    refine .counts hword ?_
    cases htruthy : v.truthy view with
    | ok b' =>
      rw [htruthy] at h
      cases h
      rfl
    | error f =>
      rw [htruthy] at h
      cases h

theorem standsForLimit {view : View} {v : Value} {x : Option Double}
    (h : numberOfSetting view v = .ok x) : StandsForLimit view v x := by
  unfold numberOfSetting at h
  split at h
  · rename_i hnone
    cases h
    exact .none hnone
  · rename_i hnone
    cases hnumber : v.toDouble with
    | ok y =>
      rw [hnumber] at h
      cases h
      exact .some hnone hnumber
    | error f =>
      rw [hnumber] at h
      cases h

/-- The parameters that settings stand for: whether the output is logged, and the limits that there
are. -/
inductive StandForParameters (view : View) (setting : String → Except Fault Value) :
    List (String × Value) → Prop where
  | intro {log time gap : Value} {b : Bool} {limit tolerance : Option Double} :
      setting "log_output" = .ok log → StandsForTruth view log b →
      setting "time_limit" = .ok time → StandsForLimit view time limit →
      setting "mip_gap" = .ok gap → StandsForLimit view gap tolerance →
      StandForParameters view setting (("log_output", .bool b) ::
        ((limit.map fun x => ("time_limit", Value.float x)).toList ++
          (tolerance.map fun x => ("mip_gap", Value.float x)).toList))

theorem standForParameters {view : View} {setting : String → Except Fault Value}
    {ps : List (String × Value)} (h : engineParameters view setting = .ok ps) :
    StandForParameters view setting ps := by
  unfold engineParameters at h
  obtain ⟨log, hlog, h⟩ := bind_eq_ok_iff.1 h
  obtain ⟨b, hb, h⟩ := bind_eq_ok_iff.1 h
  obtain ⟨time, htime, h⟩ := bind_eq_ok_iff.1 h
  obtain ⟨limit, hlimit, h⟩ := bind_eq_ok_iff.1 h
  obtain ⟨gap, hgap, h⟩ := bind_eq_ok_iff.1 h
  obtain ⟨tolerance, htolerance, h⟩ := bind_eq_ok_iff.1 h
  cases h
  exact .intro (Failure.lift_eq_ok.1 hlog) (standsForTruth hb) (Failure.lift_eq_ok.1 htime)
    (standsForLimit hlimit) (Failure.lift_eq_ok.1 hgap) (standsForLimit htolerance)

theorem StandForParameters.are_parameters {view : View} {setting : String → Except Fault Value}
    {ps : List (String × Value)} (h : StandForParameters view setting ps) :
    (∀ p ∈ ps, Engine.IsParameter p) ∧ (ps.map Prod.fst).Nodup := by
  cases h with
  | @intro _ _ _ b limit tolerance =>
    constructor
    · intro p hp
      rcases List.mem_cons.1 hp with rfl | hp
      · exact .inl ⟨b, rfl⟩
      · rcases List.mem_append.1 hp with hp | hp
        · cases limit with
          | none => cases hp
          | some x => exact .inr (.inl ⟨x, List.mem_singleton.1 hp⟩)
        · cases tolerance with
          | none => cases hp
          | some x => exact .inr (.inr ⟨x, List.mem_singleton.1 hp⟩)
    · cases limit <;> cases tolerance <;> simp

namespace Environment

/-- The parameters that an environment gives to its engines. -/
def parameters (view : View) (env : Environment) (s : SettingsStore) :
    Except Failure (List (String × Value)) :=
  Failure.lift (env.setting view s ["solver"]) >>= parametersOf view s

/-- They are what the settings of the environment for engines stand for. -/
theorem standForParameters_of_parameters {view : View} {env : Environment} {s : SettingsStore}
    {ps : List (String × Value)} (h : env.parameters view s = .ok ps) :
    StandForParameters view (fun name => env.setting view s ["solver", name]) ps := by
  obtain ⟨v, hv, h⟩ := bind_eq_ok_iff.1 h
  have hsetting : (fun name => env.setting view s ["solver", name]) = s.child view v := by
    funext name
    have hsplit : env.setting view s ["solver", name] =
        (env.setting view s ["solver"] >>= fun v => s.child view v name) := by
      show (s.child view _ "solver" >>= fun v => s.child view v name >>= pure) =
        (s.child view _ "solver" >>= pure) >>= fun v => s.child view v name
      rw [bind_pure]
      exact bind_congr fun v => bind_pure _
    rw [hsplit, Failure.lift_eq_ok.1 hv]
    rfl
  rw [hsetting]
  unfold parametersOf at h
  split at h
  · split at h
    · exact standForParameters h
    · cases h
    · cases h
  · cases h

/-- An engine that is asked for is at work with all parameters of the environment: whether its output
is logged, and the limits on the time and on the gap that have a value. If there is none, then nothing
was made, or what was made has been released once, as it refused a parameter, or the settings do not
give parameters and the engine that was made before is still at work. -/
theorem newEngine_ends (env : Environment) (s : SettingsStore) (modelName : Value)
    (es : List Engine) (w : Surroundings) :
    match (env.newEngine s modelName).perform (es, w) with
    | (.ok i, es', _) => ∃ (e : Engine) (ps : List (String × Value)), i = es.length ∧
        es' = es ++ [e] ∧ e.AtWork ∧ env.parameters w.view s = .ok ps ∧
        StandForParameters w.view (fun name => env.setting w.view s ["solver", name]) ps ∧
        e.parameters = ps.map fun p => (.text p.1, p.2)
    | (.error f, es', _) =>
      es' = es ∨
        (∃ (e : Engine) (ps : List (String × Value)), es' = es ++ [e.released] ∧ e.AtWork ∧
          e.released.ReleasedOnce ∧ env.parameters w.view s = .ok ps ∧
          StandForParameters w.view (fun name => env.setting w.view s ["solver", name]) ps ∧
          f = .engine (Engine.refused .invalidArgument) (.text "set_parameter")) ∨
        ∃ e : Engine, es' = es ++ [e] ∧ e.AtWork ∧ env.parameters w.view s = .error f := by
  rw [newEngine, perform_get_bind]
  dsimp only
  cases hagent : env.solverAgent w.view s with
  | error f => exact .inl rfl
  | ok agent =>
    rw [perform_bind_of_ok (perform_ofFault_ok _ _)]
    rcases EngineFactory.make_ends agent modelName es w with
      ⟨e, w', hmake, hatWork, hparameters⟩ | ⟨f, w', hmake⟩
    · rw [perform_bind_of_ok hmake]
      have hrest : (do
          let ps ← Action.ofExcept do parametersOf w.view s (← Failure.lift (env.setting w.view s ["solver"]))
          EngineFactory.configure es.length ps
          return es.length : EngineFactory Nat) =
          (Action.ofExcept (env.parameters w.view s) >>= fun ps =>
            EngineFactory.configure es.length ps >>= fun _ => pure es.length) := rfl
      rw [hrest]
      cases hps : env.parameters w.view s with
      | error f => exact .inr (.inr ⟨e, rfl, hatWork, rfl⟩)
      | ok ps =>
        rw [perform_bind_of_ok (perform_ofExcept_ok _ _)]
        have hstand := standForParameters_of_parameters hps
        obtain ⟨hkinds, hnames⟩ := hstand.are_parameters
        rcases EngineFactory.configure_ends hatWork es w' hkinds with
          ⟨e', w'', hconfigure, hatWork', hparameters'⟩ | ⟨e', w'', hconfigure, hatWork'⟩
        · rw [perform_bind_of_ok hconfigure]
          refine ⟨e', ps, rfl, rfl, hatWork', rfl, hstand, ?_⟩
          rw [hparameters', hparameters]
          exact Value.foldl_insert [] ps hnames
        · rw [perform_bind_of_error hconfigure]
          exact .inr (.inl ⟨e', ps, rfl, hatWork', hatWork'.released, rfl, hstand, rfl⟩)
    · rw [perform_bind_of_error hmake]
      exact .inl rfl

/-- A limit on the time that is no number comes to light when the engine has been made. -/
theorem newEngine_leaves_engine :
    let s := ((SettingsStore.addDefault {}).2.modify 0 (·.set (.text "agent") (.text "zero"))).modify
      0 (·.set (.text "time_limit") (.text "abc"))
    (match (newEngine { settings := 1 } s .nothing).perform ([], { view := .blank }) with
      | (.error (.fault .wrongValue), [e], _) => !e.ended && e.calls.countP Call.isFinish == 0
      | _ => false) = true := by
  decide +kernel

end Environment

end Milp

import Milp.Environment
import Milp.Proofs.Engine.Matching
set_option autoImplicit false

/-! # Engines and the log of messages

No operation of an engine reads the log of messages or adds to it, and neither does making an engine
and giving it its parameters: all of these are mute. -/

namespace Milp

open Milp.Action

namespace Engine

variable {α : Type}

theorem list_mute (v : Value) : Mute (list v) :=
  Mute.get_bind (fun _ _ => rfl) fun _ => Mute.ofFault _

/-! ## Operations that change the model -/

theorem addVar_mute (objective lower upper kind name : Value) :
    Mute (addVar objective lower upper kind name) := fun l l' =>
  (sameButLog_recording l l').lockstep_addVar _ _ _ _ _

theorem addVars_mute (count objectives lowers uppers kinds names : Value) :
    Mute (addVars count objectives lowers uppers kinds names) := fun l l' =>
  (sameButLog_recording l l').lockstep_addVars (fun v => list_mute v l l') _ _ _ _ _ _

theorem addConstraint_mute (size indices values sense bound name : Value) :
    Mute (addConstraint size indices values sense bound name) := fun l l' =>
  (sameButLog_recording l l').lockstep_addConstraint (fun v => list_mute v l l') _ _ _ _ _ _

theorem addConstraints_mute (count size begins indices values senses bounds names : Value) :
    Mute (addConstraints count size begins indices values senses bounds names) := fun l l' =>
  (sameButLog_recording l l').lockstep_addConstraints (fun v => list_mute v l l') _ _ _ _ _ _ _ _

theorem updateModel_mute : Mute updateModel := fun l l' =>
  (sameButLog_recording l l').lockstep_updateModel

theorem optimize_mute : Mute optimize := fun l l' => (sameButLog_recording l l').lockstep_optimize

theorem computeIis_mute : Mute computeIis := fun l l' =>
  (sameButLog_recording l l').lockstep_computeIis

theorem setModelAttribute_mute (attr value : Value) : Mute (setModelAttribute attr value) :=
  fun l l' => (sameButLog_recording l l').lockstep_setModelAttribute _ _

theorem setParameter_mute (name value : Value) : Mute (setParameter name value) := fun l l' =>
  (sameButLog_recording l l').lockstep_setParameter _ _

theorem finish_mute : Mute finish := fun l l' => (sameButLog_recording l l').lockstep_finish

/-! ## Readers -/

theorem unlessInjected_mute (operation : String) (refuse : Value → α) {x : Acting α}
    (hx : Mute x) : Mute (unlessInjected operation refuse x) := fun l l' =>
  ((sameButLog_recording l l').sharesOrder operation).lockstep_unlessInjected _ (hx l l')

/-- A reader is mute if what it does is, unless it is made to fail. -/
theorem read_mute {x : Acting Answer} {operation : String}
    (h : ∀ l l', ∃ y, Lockstep (SameButLog l l') y ∧ x = readUnlessInjected operation y) :
    Mute x := by
  intro l l'
  obtain ⟨y, hy, rfl⟩ := h l l'
  exact ((sameButLog_recording l l').sharesOrder operation).lockstep_unlessInjected _ hy

theorem getModelAttribute_mute (attr : Value) : Mute (getModelAttribute attr) :=
  read_mute fun l l' => (sameButLog_recording l l').parallel.getModelAttribute_read attr

theorem getObjective_mute (attr : Value) : Mute (getObjective attr) :=
  read_mute fun l l' => (sameButLog_recording l l').parallel.getObjective_read attr

theorem getVarAttribute_mute (attr index : Value) : Mute (getVarAttribute attr index) :=
  read_mute fun l l' => (sameButLog_recording l l').parallel.getVarAttribute_read attr index

theorem getConstraintAttribute_mute (attr index : Value) :
    Mute (getConstraintAttribute attr index) :=
  read_mute fun l l' => (sameButLog_recording l l').parallel.getConstraintAttribute_read attr index

/-! ## Files -/

theorem writePrinted_mute (names : List String) : Mute (writePrinted names) := by
  refine Mute.of_perform ?_
  rintro ⟨e, w⟩ l
  rw [writePrinted, perform_get_bind, perform_get_bind]
  dsimp only [withLog]
  generalize e.printed.text w.view (.int 1) = printing
  rw [perform_set_bind, perform_set_bind]
  cases printing.2 with
  | some f => rfl
  | none => rfl

theorem writeFile_mute (path : String) : Mute (writeFile path) := by
  refine Mute.get_bind (fun _ _ => rfl) ?_
  rintro ⟨e, w⟩
  dsimp only
  split
  · exact writePrinted_mute _
  · exact Mute.throw _
  · exact Mute.pure _

theorem writeLp_mute (file : Value) : Mute (writeLp file) := by
  refine Mute.get_bind (fun _ _ => rfl) fun s => Mute.ite (Mute.pure _) ?_
  split
  · exact writeFile_mute _
  · exact Mute.throw _

theorem writeNative_mute (file : Value) : Mute (writeNative file) :=
  Mute.get_bind (fun _ _ => rfl) fun _ =>
    (callSolver_mute _).bind fun _ => Mute.ite (Mute.pure _) (Mute.pure _)

theorem write_mute (file : Value) : Mute (write file) :=
  engine_mute.bind fun _ => Mute.ite (writeNative_mute file)
    ((change_mute _).bind fun _ => unlessInjected_mute _ _ (writeLp_mute file))

end Engine

/-! ## New engines -/

namespace EngineFactory

theorem keep_mute (e : Engine) : Mute (keep e) := Mute.of_perform fun _ _ => rfl

theorem onEngine_mute {α : Type} (i : Nat) {x : Engine.Acting α} (hx : Mute x) :
    Mute (onEngine i x) := Mute.within hx

theorem makeNative_mute (modelName : Value) : Mute (makeNative modelName) :=
  Mute.of_perform fun _ _ => rfl

theorem make_mute (key modelName : Value) : Mute (make key modelName) := by
  unfold make
  split
  · exact makeNative_mute _
  · dsimp only
    split
    · exact makeNative_mute _
    · split
      · exact keep_mute _
      · exact Mute.throw _
  · exact Mute.throw _
  · exact Mute.get_bind (fun _ _ => rfl) fun _ => Mute.throw _

theorem configure_mute (i : Nat) (ps : List (String × Value)) : Mute (configure i ps) := by
  induction ps with
  | nil => exact Mute.pure _
  | cons p rest ih =>
    exact (onEngine_mute i (Engine.setParameter_mute _ _)).bind fun _ =>
      (onEngine_mute i (Engine.isTrue_mute _)).bind fun _ =>
        Mute.ite ((onEngine_mute i Engine.finish_mute).bind fun _ => Mute.throw _) ih

end EngineFactory

theorem Environment.newEngine_mute (env : Environment) (s : SettingsStore) (modelName : Value) :
    Mute (env.newEngine s modelName) :=
  Mute.get_bind (fun _ _ => rfl) fun _ => (Mute.ofFault _).bind fun _ =>
    (EngineFactory.make_mute _ _).bind fun _ => (Mute.ofExcept _).bind fun _ =>
      (EngineFactory.configure_mute _ _).bind fun _ => Mute.pure _

end Milp

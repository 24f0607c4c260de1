import Milp.Proofs.Action
import Milp.Surroundings
set_option autoImplicit false

/-! # Actions in two runs

Two actions agree on a relation between states if from related states they have the same outcome and
lead to related states again (`Agree`). Agreement is closed under everything that actions are built
from, so that it has to be checked only where the states are looked at or changed. The simplest
relation is that of states with the same parts and surroundings, but for the log: actions that
neither read the log nor add to it are mute (`Mute`). -/

namespace Milp.Action

variable {σ τ ω υ α β : Type}

/-- From related states two actions have the same outcome, and lead to related states again. -/
def Agree (R : σ → τ → Prop) (x : Action σ α) (y : Action τ α) : Prop :=
  ∀ s t, R s t → (x.perform s).1 = (y.perform t).1 ∧ R (x.perform s).2 (y.perform t).2

/-- An action does the same in two runs. -/
abbrev Lockstep (R : σ → σ → Prop) (x : Action σ α) : Prop := Agree R x x

namespace Agree

variable {R : σ → τ → Prop} {x : Action σ α} {y : Action τ α} {f : α → Action σ β}
  {g : α → Action τ β}

protected theorem pure (a : α) : Agree R (pure a) (pure a) := fun _ _ h => ⟨rfl, h⟩

protected theorem throw (e : Failure) : Agree R (throw e : Action σ α) (throw e) :=
  fun _ _ h => ⟨rfl, h⟩

protected theorem ofFault (r : Except Fault α) : Agree R (ofFault r) (ofFault r) := by
  cases r with
  | ok a => exact Agree.pure a
  | error f => exact Agree.throw _

protected theorem ofExcept (r : Except Failure α) : Agree R (ofExcept r) (ofExcept r) := by
  cases r with
  | ok a => exact Agree.pure a
  | error f => exact Agree.throw f

protected theorem bind (hx : Agree R x y) (hf : ∀ a, Agree R (f a) (g a)) :
    Agree R (x >>= f) (y >>= g) := by
  intro s t h
  obtain ⟨houtcome, hst⟩ := hx s t h
  rw [perform_bind, perform_bind]
  rcases hs : x.perform s with ⟨o, s'⟩
  rcases ht : y.perform t with ⟨o', t'⟩
  rw [hs, ht] at houtcome hst
  obtain rfl : o = o' := houtcome
  cases o with
  | ok a => exact hf a s' t' hst
  | error e => exact ⟨rfl, hst⟩

protected theorem map (hx : Agree R x y) (h : α → β) : Agree R (h <$> x) (h <$> y) := by
  rw [← bind_pure_comp, ← bind_pure_comp]
  exact hx.bind fun a => Agree.pure (h a)

protected theorem ite {c : Prop} [Decidable c] {x' : Action σ α} {y' : Action τ α}
    (hx : Agree R x y) (hy : Agree R x' y') :
    Agree R (if c then x else x') (if c then y else y') := by
  split
  · exact hx
  · exact hy

/-- What is done with states that have just been looked up may rely on their relation. -/
protected theorem get_bind {f : σ → Action σ β} {g : τ → Action τ β}
    (h : ∀ s t, R s t → ((f s).perform s).1 = ((g t).perform t).1 ∧
      R ((f s).perform s).2 ((g t).perform t).2) : Agree R (get >>= f) (get >>= g) := h

protected theorem modify {f : σ → σ} {g : τ → τ} (h : ∀ s t, R s t → R (f s) (g t)) :
    Agree R (modify f : Action σ PUnit) (modify g) := fun s t hst => ⟨rfl, h s t hst⟩

end Agree

/-! ## The log -/

/-- The same state with another log. -/
def withLog (s : σ × Surroundings) (l : List LogRecord) : σ × Surroundings :=
  (s.1, { s.2 with log := l })

/-- Two states that differ in the log alone, which is a given one in each of them. -/
def SameButLog (l l' : List LogRecord) (s t : σ × Surroundings) : Prop :=
  s.2.log = l ∧ t = withLog s l'

/-- An action that has nothing to do with the log. -/
def Mute (x : Action (σ × Surroundings) α) : Prop := ∀ l l', Lockstep (SameButLog l l') x

namespace Mute

variable {x : Action (σ × Surroundings) α} {f : α → Action (σ × Surroundings) β}

protected theorem pure (a : α) : Mute (pure a : Action (σ × Surroundings) α) :=
  fun _ _ => Agree.pure a

protected theorem throw (e : Failure) : Mute (throw e : Action (σ × Surroundings) α) :=
  fun _ _ => Agree.throw e

protected theorem ofFault (r : Except Fault α) :
    Mute (ofFault r : Action (σ × Surroundings) α) := fun _ _ => Agree.ofFault r

protected theorem ofExcept (r : Except Failure α) :
    Mute (ofExcept r : Action (σ × Surroundings) α) := fun _ _ => Agree.ofExcept r

protected theorem bind (hx : Mute x) (hf : ∀ a, Mute (f a)) : Mute (x >>= f) :=
  fun l l' => (hx l l').bind fun a => hf a l l'

protected theorem map (hx : Mute x) (h : α → β) : Mute (h <$> x) := fun l l' => (hx l l').map h

protected theorem ite {c : Prop} [Decidable c] {y : Action (σ × Surroundings) α} (hx : Mute x)
    (hy : Mute y) : Mute (if c then x else y) := fun l l' => (hx l l').ite (hy l l')

/-- An action whose outcome is the same with another log, which it leaves as it is. -/
theorem of_perform
    (h : ∀ s l, x.perform (withLog s l) = ((x.perform s).1, withLog (x.perform s).2 l)) :
    Mute x := by
  rintro l l' s _ ⟨rfl, rfl⟩
  have hkept : (x.perform s).2.2.log = s.2.log :=
    congrArg (fun r : Except Failure α × σ × Surroundings => r.2.2.log) (h s s.2.log)
  rw [h]
  exact ⟨rfl, hkept, rfl⟩

protected theorem modify {g : σ × Surroundings → σ × Surroundings}
    (h : ∀ s l, g (withLog s l) = withLog (g s) l) :
    Mute (modify g : Action (σ × Surroundings) PUnit) :=
  of_perform fun s l => congrArg (Prod.mk (Except.ok PUnit.unit)) (h s l)

/-- What follows looking up the state makes no use of the log. -/
protected theorem get_bind {f : σ × Surroundings → Action (σ × Surroundings) β}
    (hf : ∀ s l, f (withLog s l) = f s) (h : ∀ s, Mute (f s)) : Mute (get >>= f) := by
  rintro l l' s _ ⟨hl, rfl⟩
  rw [perform_get_bind, perform_get_bind, hf]
  exact h s l l' s _ ⟨hl, rfl⟩

/-- A mute action on a part is mute. -/
protected theorem within {part : τ → σ} {put : σ → τ → τ} (hx : Mute x) :
    Mute (within part put x) := by
  rintro l l' ⟨s, w⟩ _ ⟨hl, rfl⟩
  obtain ⟨houtcome, hlog, hstate⟩ := hx l l' (part s, w) _ ⟨hl, rfl⟩
  have hrun : (Action.within part put x).perform (withLog (s, w) l') =
      ((x.perform (withLog (part s, w) l')).1, put (x.perform (withLog (part s, w) l')).2.1 s,
        (x.perform (withLog (part s, w) l')).2.2) := rfl
  rw [hrun, within_run, houtcome, hstate]
  exact ⟨rfl, hlog, rfl⟩

end Mute

end Milp.Action

import Milp.Action
set_option autoImplicit false

/-! # What actions do to a state

How the parts of an action make up its outcome and the state after it (`perform_bind`), and what it
means that an action maintains an invariant (`Maintains`): every state that satisfies the invariant is
left in one that does, whether the action succeeds or fails. Maintaining is closed under everything
that actions are built from, so that an invariant has to be checked only where the state is
changed. Where success and failure lead to different states, `Leads` says so, with the same closure
properties. -/

namespace Milp.Action

variable {σ τ ω α β : Type}

/-! ## Outcomes -/

@[simp] theorem perform_pure (a : α) (s : σ) : (pure a : Action σ α).perform s = (.ok a, s) := rfl

@[simp] theorem perform_throw (f : Failure) (s : σ) :
    (throw f : Action σ α).perform s = (.error f, s) := rfl

@[simp] theorem perform_get (s : σ) : (get : Action σ σ).perform s = (.ok s, s) := rfl

@[simp] theorem perform_set (s t : σ) : (set t : Action σ PUnit).perform s = (.ok ⟨⟩, t) := rfl

@[simp] theorem perform_modify (f : σ → σ) (s : σ) :
    (modify f : Action σ PUnit).perform s = (.ok ⟨⟩, f s) := rfl

/-- The second part of an action runs only if the first one succeeds. -/
theorem perform_bind (x : Action σ α) (f : α → Action σ β) (s : σ) :
    (x >>= f).perform s =
      match x.perform s with
      | (.ok a, t) => (f a).perform t
      | (.error e, t) => (.error e, t) := by
  show (ExceptT.bind x f).run.run s = _
  unfold perform
  rcases h : x.run.run s with ⟨o, t⟩
  have hx : x s = (o, t) := h
  cases o with
  | ok a =>
    simp only [ExceptT.bind, ExceptT.bindCont, ExceptT.run, ExceptT.mk, StateT.run, bind,
      StateT.bind, hx]
  | error e =>
    simp only [ExceptT.bind, ExceptT.bindCont, ExceptT.run, ExceptT.mk, StateT.run, bind,
      StateT.bind, hx]
    rfl

theorem perform_bind_of_ok {x : Action σ α} {f : α → Action σ β} {s t : σ} {a : α}
    (h : x.perform s = (.ok a, t)) : (x >>= f).perform s = (f a).perform t := by
  rw [perform_bind, h]

theorem perform_bind_of_error {x : Action σ α} {f : α → Action σ β} {s t : σ} {e : Failure}
    (h : x.perform s = (.error e, t)) : (x >>= f).perform s = (.error e, t) := by
  rw [perform_bind, h]

/-- An action that succeeds does so in both of its parts. -/
theorem of_perform_bind {x : Action σ α} {f : α → Action σ β} {s t : σ} {b : β}
    (h : (x >>= f).perform s = (.ok b, t)) :
    ∃ a u, x.perform s = (.ok a, u) ∧ (f a).perform u = (.ok b, t) := by
  rw [perform_bind] at h
  rcases hx : x.perform s with ⟨o, u⟩
  rw [hx] at h
  cases o with
  | ok a => exact ⟨a, u, rfl, h⟩
  | error e => cases h

@[simp] theorem perform_pure_bind (a : α) (f : α → Action σ β) (s : σ) :
    ((pure a : Action σ α) >>= f).perform s = (f a).perform s := rfl

@[simp] theorem perform_throw_bind (e : Failure) (f : α → Action σ β) (s : σ) :
    ((throw e : Action σ α) >>= f).perform s = (.error e, s) := rfl

@[simp] theorem perform_get_bind (f : σ → Action σ β) (s : σ) :
    ((get : Action σ σ) >>= f).perform s = (f s).perform s := rfl

@[simp] theorem perform_set_bind (t : σ) (f : PUnit → Action σ β) (s : σ) :
    ((set t : Action σ PUnit) >>= f).perform s = (f ⟨⟩).perform t := rfl

@[simp] theorem perform_modify_bind (g : σ → σ) (f : PUnit → Action σ β) (s : σ) :
    ((modify g : Action σ PUnit) >>= f).perform s = (f ⟨⟩).perform (g s) := rfl

@[simp] theorem perform_ofFault_ok (a : α) (s : σ) :
    (ofFault (.ok a) : Action σ α).perform s = (.ok a, s) := rfl

@[simp] theorem perform_ofFault_error (f : Fault) (s : σ) :
    (ofFault (.error f) : Action σ α).perform s = (.error (.fault f), s) := rfl

@[simp] theorem perform_ofExcept_ok (a : α) (s : σ) :
    (ofExcept (.ok a) : Action σ α).perform s = (.ok a, s) := rfl

@[simp] theorem perform_ofExcept_error (f : Failure) (s : σ) :
    (ofExcept (.error f) : Action σ α).perform s = (.error f, s) := rfl

/-- A check of the arguments leaves the state as it is. -/
theorem perform_ofFault (x : Except Fault α) (s : σ) :
    ((ofFault x : Action σ α).perform s).2 = s := by
  cases x <;> rfl

theorem perform_ofExcept (x : Except Failure α) (s : σ) :
    ((ofExcept x : Action σ α).perform s).2 = s := by
  cases x <;> rfl

/-- A check of the arguments that succeeds gives its result to what comes next, and nothing else. -/
theorem of_ofFault_bind {x : Except Fault α} {f : α → Action σ β} {s t : σ} {b : β}
    (h : (ofFault x >>= f).perform s = (.ok b, t)) :
    ∃ a, x = .ok a ∧ (f a).perform s = (.ok b, t) := by
  cases x with
  | error e => cases h
  | ok a => exact ⟨a, rfl, h⟩

theorem of_ofExcept_bind {x : Except Failure α} {f : α → Action σ β} {s t : σ} {b : β}
    (h : (ofExcept x >>= f).perform s = (.ok b, t)) :
    ∃ a, x = .ok a ∧ (f a).perform s = (.ok b, t) := by
  cases x with
  | error e => cases h
  | ok a => exact ⟨a, rfl, h⟩

/-! ## Invariants -/

/-- Whatever an action does, it leads from states with an invariant to such states. -/
def Maintains (I : σ → Prop) (x : Action σ α) : Prop := ∀ s, I s → I (x.perform s).2

namespace Maintains

variable {I : σ → Prop} {x : Action σ α} {f : α → Action σ β}

protected theorem pure (a : α) : Maintains I (pure a : Action σ α) := fun _ h => h

protected theorem throw (e : Failure) : Maintains I (throw e : Action σ α) := fun _ h => h

protected theorem ofFault (x : Except Fault α) : Maintains I (ofFault x : Action σ α) := by
  intro s h
  rwa [perform_ofFault]

protected theorem ofExcept (x : Except Failure α) : Maintains I (ofExcept x : Action σ α) := by
  intro s h
  rwa [perform_ofExcept]

protected theorem bind (hx : Maintains I x) (hf : ∀ a, Maintains I (f a)) :
    Maintains I (x >>= f) := by
  intro s h
  have ht := hx s h
  rw [perform_bind]
  cases hs : x.perform s with
  | mk o t =>
    rw [hs] at ht
    cases o with
    | ok a => exact hf a t ht
    | error e => exact ht

protected theorem ite {c : Prop} [Decidable c] {y : Action σ α} (hx : Maintains I x)
    (hy : Maintains I y) : Maintains I (if c then x else y) := by
  split
  · exact hx
  · exact hy

/-- What is done with a state that has just been looked up may rely on the invariant. -/
protected theorem get_bind {f : σ → Action σ β}
    (hf : ∀ s, I s → I ((f s).perform s).2) : Maintains I (get >>= f) :=
  fun s h => hf s h

protected theorem modify {g : σ → σ} (hg : ∀ s, I s → I (g s)) :
    Maintains I (modify g : Action σ PUnit) := fun s h => hg s h

/-- An action on a part maintains what the whole needs of that part. -/
protected theorem within {part : σ → τ} {put : τ → σ → σ} {J : σ × ω → Prop}
    {x : Action (τ × ω) α}
    (hx : ∀ s w, J (s, w) → J (put (x.perform (part s, w)).2.1 s, (x.perform (part s, w)).2.2)) :
    Maintains J (within part put x) := by
  rintro ⟨s, w⟩ h
  rw [within_run]
  exact hx s w h

end Maintains

/-! ## Where actions lead to -/

/-- From states with `P` an action either succeeds with a state as `Q` says, or fails with one as `E`
says. -/
def Leads (P : σ → Prop) (x : Action σ α) (Q : α → σ → Prop) (E : σ → Prop) : Prop :=
  ∀ s, P s →
    match x.perform s with
    | (.ok a, t) => Q a t
    | (.error _, t) => E t

namespace Leads

variable {P : σ → Prop} {x : Action σ α} {Q : α → σ → Prop} {E : σ → Prop}
  {f : α → Action σ β} {R : β → σ → Prop}

theorem of_maintains (h : Maintains P x) : Leads P x (fun _ => P) P := by
  intro s hs
  have ht := h s hs
  rcases hx : x.perform s with ⟨o, t⟩
  rw [hx] at ht
  cases o <;> exact ht

theorem maintains (h : Leads P x (fun _ => P) P) : Maintains P x := by
  intro s hs
  have ht := h s hs
  rcases hx : x.perform s with ⟨o, t⟩
  rw [hx] at ht
  cases o <;> exact ht

protected theorem pure {a : α} (h : ∀ s, P s → Q a s) : Leads P (pure a : Action σ α) Q E := h

protected theorem throw (e : Failure) (h : ∀ s, P s → E s) :
    Leads P (throw e : Action σ α) Q E := h

protected theorem ofFault (x : Except Fault α) :
    Leads P (ofFault x : Action σ α) (fun a s => x = .ok a ∧ P s) P := by
  intro s hs
  cases x with
  | ok a => exact ⟨rfl, hs⟩
  | error f => exact hs

protected theorem ofExcept (x : Except Failure α) :
    Leads P (ofExcept x : Action σ α) (fun a s => x = .ok a ∧ P s) P := by
  intro s hs
  cases x with
  | ok a => exact ⟨rfl, hs⟩
  | error f => exact hs

theorem ofFault_bind {a : α} (h : Leads P (f a) R E) :
    Leads P ((ofFault (.ok a) : Action σ α) >>= f) R E := h

/-- What follows a check of the arguments may rely on its result. -/
theorem ofFault_then {x : Except Fault α} (hE : ∀ s, P s → E s)
    (h : ∀ a, x = .ok a → Leads P (f a) R E) : Leads P ((ofFault x : Action σ α) >>= f) R E := by
  cases x with
  | ok a => exact h a rfl
  | error _ => exact hE

theorem ofExcept_then {x : Except Failure α} (hE : ∀ s, P s → E s)
    (h : ∀ a, x = .ok a → Leads P (f a) R E) : Leads P ((ofExcept x : Action σ α) >>= f) R E := by
  cases x with
  | ok a => exact h a rfl
  | error _ => exact hE

theorem ofExcept_bind {a : α} (h : Leads P (f a) R E) :
    Leads P ((ofExcept (.ok a) : Action σ α) >>= f) R E := h

protected theorem bind (hx : Leads P x Q E) (hf : ∀ a, Leads (Q a) (f a) R E) :
    Leads P (x >>= f) R E := by
  intro s hs
  have ht := hx s hs
  rw [perform_bind]
  rcases h : x.perform s with ⟨o, t⟩
  rw [h] at ht
  cases o with
  | ok a => exact hf a t ht
  | error e => exact ht

protected theorem modify {g : σ → σ} {Q : PUnit → σ → Prop} (h : ∀ s, P s → Q ⟨⟩ (g s)) :
    Leads P (modify g : Action σ PUnit) Q E := h

/-- What is done with a state that has just been looked up starts from that state. -/
protected theorem get_bind {f : σ → Action σ β} (h : ∀ s, P s → Leads (· = s) (f s) R E) :
    Leads P (get >>= f) R E := fun s hs => h s hs s rfl

protected theorem ite {c : Prop} [Decidable c] {y : Action σ α} (hx : c → Leads P x Q E)
    (hy : ¬c → Leads P y Q E) : Leads P (if c then x else y) Q E := by
  split
  · rename_i h
    exact hx h
  · rename_i h
    exact hy h

theorem mono {P' : σ → Prop} {Q' : α → σ → Prop} {E' : σ → Prop} (h : Leads P x Q E)
    (hP : ∀ s, P' s → P s) (hQ : ∀ a s, Q a s → Q' a s) (hE : ∀ s, E s → E' s) :
    Leads P' x Q' E' := by
  intro s hs
  have ht := h s (hP s hs)
  rcases hx : x.perform s with ⟨o, t⟩
  rw [hx] at ht
  cases o with
  | ok a => exact hQ a t ht
  | error e => exact hE t ht

/-- A fact that does not depend on the state may be used throughout. -/
theorem of_fact {c : Prop} (h : c → Leads P x Q E) : Leads (fun s => c ∧ P s) x Q E :=
  fun s hs => h hs.1 s hs.2

theorem of_ok {s t : σ} {a : α} (h : Leads P x Q E) (hs : P s) (hx : x.perform s = (.ok a, t)) :
    Q a t := by
  have ht := h s hs
  rwa [hx] at ht

theorem of_error {s t : σ} {e : Failure} (h : Leads P x Q E) (hs : P s)
    (hx : x.perform s = (.error e, t)) : E t := by
  have ht := h s hs
  rwa [hx] at ht

end Leads

end Milp.Action

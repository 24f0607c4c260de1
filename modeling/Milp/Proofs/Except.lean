import Mathlib.Data.List.Forall2
set_option autoImplicit false

/-! # Computations that succeed

A sequence of computations succeeds exactly if each of them does, and its results stand in the same
order (`mapM_eq_ok_iff`). -/

namespace Milp

variable {ε α β : Type}

theorem bind_eq_ok_iff {x : Except ε α} {f : α → Except ε β} {b : β} :
    x >>= f = .ok b ↔ ∃ a, x = .ok a ∧ f a = .ok b := by
  cases x with
  | error e =>
    constructor
    · intro h
      cases h
    · rintro ⟨a, h, -⟩
      cases h
  | ok a =>
    constructor
    · exact fun h => ⟨a, rfl, h⟩
    · rintro ⟨a', h, hf⟩
      cases h
      exact hf

theorem map_eq_ok_iff {x : Except ε α} {f : α → β} {b : β} :
    f <$> x = .ok b ↔ ∃ a, x = .ok a ∧ f a = b := by
  cases x with
  | error e =>
    constructor
    · intro h
      cases h
    · rintro ⟨a, h, -⟩
      cases h
  | ok a =>
    constructor
    · exact fun h => ⟨a, rfl, Except.ok.inj h⟩
    · rintro ⟨a', h, rfl⟩
      cases h
      rfl

/-- What is seen to succeed with a result of some kind has such a result. -/
theorem exists_ok_of_any {x : Except ε α} {p : α → Bool} (h : x.toOption.any p = true) :
    ∃ a, x = .ok a ∧ p a = true := by
  cases x with
  | error e => cases h
  | ok a => exact ⟨a, rfl, h⟩

/-- The same where the result comes with a state. -/
theorem exists_ok_of_isOk {σ : Type} {r : Except ε α × σ} (h : r.1.isOk = true) :
    ∃ a s, r = (.ok a, s) := by
  obtain ⟨outcome, s⟩ := r
  cases outcome with
  | error e => cases h
  | ok a => exact ⟨a, s, rfl⟩

theorem mapM_eq_ok_iff {f : α → Except ε β} {xs : List α} {ys : List β} :
    xs.mapM f = .ok ys ↔ List.Forall₂ (fun x y => f x = .ok y) xs ys := by
  induction xs generalizing ys with
  | nil =>
    rw [List.mapM_nil, List.forall₂_nil_left_iff]
    exact ⟨fun h => (Except.ok.inj h).symm, fun h => h ▸ rfl⟩
  | cons x rest ih =>
    rw [List.mapM_cons, List.forall₂_cons_left_iff]
    constructor
    · intro h
      obtain ⟨y, hy, h⟩ := bind_eq_ok_iff.1 h
      obtain ⟨zs, hzs, h⟩ := bind_eq_ok_iff.1 h
      exact ⟨y, zs, hy, ih.1 hzs, (Except.ok.inj h).symm⟩
    · rintro ⟨y, zs, hy, hzs, rfl⟩
      exact bind_eq_ok_iff.2 ⟨y, hy, bind_eq_ok_iff.2 ⟨zs, ih.2 hzs, rfl⟩⟩

theorem mapM_cons_eq_ok {f : α → Except ε β} {x : α} {y : β} {xs : List α} {ys : List β}
    (h : f x = .ok y) (hs : xs.mapM f = .ok ys) : (x :: xs).mapM f = .ok (y :: ys) :=
  mapM_eq_ok_iff.2 (.cons h (mapM_eq_ok_iff.1 hs))

theorem of_mapM_cons {f : α → Except ε β} {x : α} {xs : List α} {ys : List β}
    (h : (x :: xs).mapM f = .ok ys) : ∃ y zs, f x = .ok y ∧ xs.mapM f = .ok zs ∧ ys = y :: zs := by
  obtain ⟨y, zs, hy, hzs, rfl⟩ := List.forall₂_cons_left_iff.1 (mapM_eq_ok_iff.1 h)
  exact ⟨y, zs, hy, mapM_eq_ok_iff.2 hzs, rfl⟩

theorem mapM_map_eq_ok {γ : Type} {f : α → β} {g : β → Except ε γ} {k : α → γ}
    (h : ∀ x, g (f x) = .ok (k x)) (xs : List α) : (xs.map f).mapM g = .ok (xs.map k) := by
  induction xs with
  | nil => rfl
  | cons x rest ih =>
    rw [List.map_cons, List.mapM_cons, h, ih]
    rfl

theorem mapM_append_eq_ok {f : α → Except ε β} {xs xs' : List α} {ys ys' : List β}
    (h : xs.mapM f = .ok ys) (h' : xs'.mapM f = .ok ys') :
    (xs ++ xs').mapM f = .ok (ys ++ ys') :=
  mapM_eq_ok_iff.2 (List.rel_append (mapM_eq_ok_iff.1 h) (mapM_eq_ok_iff.1 h'))

/-- Lists that are read one by one are read as one list. -/
theorem mapM_flatten {f : α → Except ε β} {xss : List (List α)} {yss : List (List β)}
    (h : xss.mapM (·.mapM f) = .ok yss) : xss.flatten.mapM f = .ok yss.flatten := by
  induction xss generalizing yss with
  | nil =>
    cases h
    rfl
  | cons xs rest ih =>
    obtain ⟨ys, zss, hys, hrest, rfl⟩ := of_mapM_cons h
    exact mapM_append_eq_ok hys (ih hrest)

theorem exists_mapM_eq_ok {f : α → Except ε β} {xs : List α} (h : ∀ x ∈ xs, ∃ y, f x = .ok y) :
    ∃ ys, xs.mapM f = .ok ys := by
  induction xs with
  | nil => exact ⟨[], rfl⟩
  | cons x rest ih =>
    obtain ⟨y, hy⟩ := h x List.mem_cons_self
    obtain ⟨ys, hys⟩ := ih fun x' hx' => h x' (List.mem_cons_of_mem x hx')
    exact ⟨y :: ys, mapM_cons_eq_ok hy hys⟩

/-- A sequence of computations that can fail in one way only succeeds or fails in this way. -/
theorem mapM_cases {f : α → Except ε β} {e : ε} {p : α → Prop} {xs : List α}
    (h : ∀ x ∈ xs, (¬p x ∧ ∃ y, f x = .ok y) ∨ (p x ∧ f x = .error e)) :
    ((¬∃ x ∈ xs, p x) ∧ ∃ ys, xs.mapM f = .ok ys) ∨ ((∃ x ∈ xs, p x) ∧ xs.mapM f = .error e) := by
  induction xs with
  | nil => exact .inl ⟨fun ⟨x, hx, _⟩ => List.not_mem_nil hx, [], rfl⟩
  | cons x rest ih =>
    rw [List.mapM_cons]
    rcases h x List.mem_cons_self with ⟨hx, y, hy⟩ | ⟨hx, hy⟩
    · rcases ih fun z hz => h z (List.mem_cons_of_mem x hz) with ⟨hrest, ys, hys⟩ | ⟨hrest, hys⟩
      · refine .inl ⟨?_, y :: ys, by rw [hy, hys]; rfl⟩
        rintro ⟨z, hz, hpz⟩
        rcases List.mem_cons.1 hz with rfl | hz
        · exact hx hpz
        · exact hrest ⟨z, hz, hpz⟩
      · obtain ⟨z, hz, hpz⟩ := hrest
        exact .inr ⟨⟨z, List.mem_cons_of_mem x hz, hpz⟩, by rw [hy, hys]; rfl⟩
    · exact .inr ⟨⟨x, List.mem_cons_self, hx⟩, by rw [hy]; rfl⟩

/-- Each result is the result of an element. -/
theorem exists_of_mapM {f : α → Except ε β} {xs : List α} {ys : List β} (h : xs.mapM f = .ok ys)
    {y : β} (hy : y ∈ ys) : ∃ x ∈ xs, f x = .ok y := by
  rw [mapM_eq_ok_iff] at h
  induction h with
  | nil => cases hy
  | @cons x z _ _ hxz _ ih =>
    rcases List.mem_cons.1 hy with rfl | hy
    · exact ⟨x, List.mem_cons_self, hxz⟩
    · obtain ⟨x', hx', hxy⟩ := ih hy
      exact ⟨x', List.mem_cons_of_mem x hx', hxy⟩

/-- Each element has its result at its own place. -/
theorem getElem?_of_mapM {f : α → Except ε β} {xs : List α} {ys : List β}
    (h : xs.mapM f = .ok ys) {i : Nat} {x : α} (hx : xs[i]? = some x) :
    ∃ y, f x = .ok y ∧ ys[i]? = some y := by
  rw [mapM_eq_ok_iff] at h
  induction h generalizing i with
  | nil => cases hx
  | @cons x' y _ _ hy _ ih =>
    cases i with
    | zero =>
      cases hx
      exact ⟨y, hy, rfl⟩
    | succ i => exact ih hx

/-- What related elements have in common. -/
theorem map_eq_map {γ : Type} {R : α → β → Prop} {f : α → γ} {g : β → γ} {xs : List α}
    {ys : List β} (h : List.Forall₂ R xs ys) (hfg : ∀ x y, R x y → f x = g y) :
    xs.map f = ys.map g := by
  induction h with
  | nil => rfl
  | cons hxy _ ih => rw [List.map_cons, List.map_cons, ih, hfg _ _ hxy]

end Milp

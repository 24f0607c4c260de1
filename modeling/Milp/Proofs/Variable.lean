import Milp.Construction
import Milp.Proofs.Except
set_option autoImplicit false

/-! # Variables that were made

A variable that was made of what a caller asked for has bounds as its domain wants them, which do not
cross (`Var.of_ofValues`): those of a binary variable are 0 or 1, whatever was asked for
(`Var.Built.binary`). -/

namespace Milp

/-- A variable that was made of what a caller asked for. -/
def Var.Built (v : Var) : Prop := ∃ id request, Var.ofValues id request = .ok v

/-- A number that is one of the bounds of binary variables. -/
def Number.IsBinary (x : Number) : Prop := x = .int 0 ∨ x = .int 1

namespace Domain

theorem lowerFor_binary {d : Domain} (hd : d.kind = .binary) {x y : Number}
    (h : d.lowerFor x = .ok y) : y.IsBinary := by
  rw [lowerFor, hd] at h
  obtain ⟨b, -, h⟩ := bind_eq_ok_iff.1 h
  cases h
  cases b
  · exact .inr rfl
  · exact .inl rfl

theorem upperFor_binary {d : Domain} (hd : d.kind = .binary) {x y : Number}
    (h : d.upperFor x = .ok y) : y.IsBinary := by
  rw [upperFor, hd] at h
  obtain ⟨b, -, h⟩ := bind_eq_ok_iff.1 h
  cases h
  cases b
  · exact .inl rfl
  · exact .inr rfl

theorem ofParts_kind {kind : VarKind} {infinity : Value} {d : Domain}
    (h : ofParts kind infinity = .ok d) : d.kind = kind := by
  obtain ⟨x, -, h⟩ := bind_eq_ok_iff.1 h
  cases h
  rfl

/-- What a bound that was asked for becomes, if it can be used. -/
theorem bound_eq_ok (use : Domain → Except Fault Number) {kind : VarKind} {infinity v : Value}
    {x : Number}
    (h : (Value.number <$> Failure.lift (do use (← ofParts kind infinity))) = .ok v)
    (hx : v.toNumber = .ok x) : ∃ d : Domain, d.kind = kind ∧ use d = .ok x := by
  cases hd : ofParts kind infinity with
  | error f =>
    rw [hd] at h
    cases h
  | ok d =>
    rw [hd] at h
    change (Value.number <$> Failure.lift (use d)) = .ok v at h
    cases hu : use d with
    | error f =>
      rw [hu] at h
      cases h
    | ok y =>
      rw [hu] at h
      cases h
      cases hx
      exact ⟨d, ofParts_kind hd, hu⟩

theorem lowerOfValue_binary {infinity request v : Value} {x : Number}
    (h : lowerOfValue .binary infinity request = .ok v) (hx : v.toNumber = .ok x) : x.IsBinary := by
  obtain ⟨bound, -, h⟩ := bind_eq_ok_iff.1 h
  cases bound with
  | none =>
    cases h
    exact .inl (Except.ok.inj hx).symm
  | some y =>
    obtain ⟨d, hd, hy⟩ := bound_eq_ok (·.lowerFor y) h hx
    exact lowerFor_binary hd hy

theorem upperOfValue_binary {infinity request v : Value} {x : Number}
    (h : upperOfValue .binary infinity request = .ok v) (hx : v.toNumber = .ok x) : x.IsBinary := by
  obtain ⟨bound, -, h⟩ := bind_eq_ok_iff.1 h
  cases bound with
  | none =>
    cases h
    exact .inr (Except.ok.inj hx).symm
  | some y =>
    obtain ⟨d, hd, hy⟩ := bound_eq_ok (·.upperFor y) h hx
    exact upperFor_binary hd hy

end Domain

namespace Var

variable {v : Var}

/-- What a variable was made of: its domain with the bounds that were used, which do not cross. -/
theorem of_ofValues {id : Nat} {r : Var.Request} (h : Var.ofValues id r = .ok v) :
    ∃ infinity lower upper, Domain.partsOfValue r.domain = .ok (v.kind, infinity) ∧
      Domain.lowerOfValue v.kind infinity r.lower = .ok lower ∧ lower.toNumber = .ok v.lower ∧
      Domain.upperOfValue v.kind infinity r.upper = .ok upper ∧ upper.toNumber = .ok v.upper ∧
      v.upper.lt v.lower = .ok false := by
  obtain ⟨name, -, h⟩ := bind_eq_ok_iff.1 h
  obtain ⟨⟨kind, infinity⟩, hparts, h⟩ := bind_eq_ok_iff.1 h
  obtain ⟨objective, -, h⟩ := bind_eq_ok_iff.1 h
  obtain ⟨lower, hlower, h⟩ := bind_eq_ok_iff.1 h
  obtain ⟨l, hl, h⟩ := bind_eq_ok_iff.1 h
  obtain ⟨upper, hupper, h⟩ := bind_eq_ok_iff.1 h
  obtain ⟨u, hu, h⟩ := bind_eq_ok_iff.1 h
  obtain ⟨domain, hdomain, h⟩ := bind_eq_ok_iff.1 h
  obtain ⟨empty, hempty, h⟩ := bind_eq_ok_iff.1 h
  cases empty
  · cases h
    obtain rfl : domain.kind = kind := Domain.ofParts_kind (Failure.lift_eq_ok.1 hdomain)
    exact ⟨infinity, lower, upper, hparts, hlower, Failure.lift_eq_ok.1 hl, hupper,
      Failure.lift_eq_ok.1 hu, Failure.lift_eq_ok.1 hempty⟩
  · cases h

/-- The bounds of a binary variable are 0 or 1, whatever was asked for. -/
theorem Built.binary (h : v.Built) (hk : v.kind = .binary) :
    v.lower.IsBinary ∧ v.upper.IsBinary := by
  obtain ⟨id, r, h⟩ := h
  obtain ⟨infinity, lower, upper, -, hlower, hl, hupper, hu, -⟩ := of_ofValues h
  rw [hk] at hlower hupper
  exact ⟨Domain.lowerOfValue_binary hlower hl, Domain.upperOfValue_binary hupper hu⟩

end Var

end Milp

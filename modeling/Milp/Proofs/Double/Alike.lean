import Milp.Proofs.Canonical
import Milp.Proofs.Nearest
set_option autoImplicit false

/-! # Doubles up to the sign of a zero

There are two zeros, and which of them a sum or a product gives depends on the signs of zeros in it
alone. Two doubles that are equal but for the sign of a zero stand at one place (`alike_iff`), and sums
and opposites of such doubles are such doubles again (`Alike.add`, `Alike.neg`). Up to the sign of a
zero, nothing is changed by adding a zero (`add_alike_self`), and one of two opposite finite doubles
takes the other away (`add_neg_eq_zero`). -/

namespace Milp.Double

/-- Equal up to the sign of a zero. -/
def Alike (x y : Double) : Prop := x = y ∨ (x.eq zero = true ∧ y.eq zero = true)

variable {x y z : Double}

/-! ## Places -/

theorem eq_zero_iff : x.eq zero = true ↔ x.place? = some (.point 0) := by
  rw [eq_eq_any, place?_zero]
  cases x.place? <;> simp

theorem eq_zero_eq_decide (x : Double) : x.eq zero = decide (x.place? = some (.point 0)) :=
  Bool.eq_iff_iff.2 (eq_zero_iff.trans decide_eq_true_iff.symm)

theorem signed_eq_zero_iff {negative : Bool} {n : Nat} : signed negative n = 0 ↔ n = 0 := by
  cases negative <;> simp [signed]

theorem signed_injective {s t : Bool} {m n : Nat} (hm : signed s m ≠ 0)
    (h : signed s m = signed t n) : s = t ∧ m = n := by
  cases s <;> cases t <;> simp [signed] at * <;> omega

theorem infinite_injective {s t : Bool} (h : (infinite s).place? = (infinite t).place?) : s = t := by
  cases s <;> cases t
  · rfl
  · cases h
  · cases h
  · rfl

theorem alike_iff : Alike x y ↔ x.place? = y.place? := by
  constructor
  · rintro (rfl | ⟨hx, hy⟩)
    · rfl
    · rw [eq_zero_iff.1 hx, eq_zero_iff.1 hy]
  · intro h
    by_cases hx : x.eq zero = true
    · exact .inr ⟨hx, eq_zero_iff.2 (h ▸ eq_zero_iff.1 hx)⟩
    -- only zeros share their place with another double
    refine .inl ?_
    rw [eq_zero_iff] at hx
    cases x with
    | nan =>
      cases y with
      | nan => rfl
      | infinite t => cases t <;> cases h
      | finite t n hn => cases h
    | infinite s =>
      cases y with
      | infinite t => rw [infinite_injective h]
      | _ => cases s <;> cases h
    | finite s m hm =>
      cases y with
      | finite t n hn =>
        have hsteps : signed s m = signed t n := Place.point.inj (Option.some.inj h)
        have hne : signed s m ≠ 0 := fun he => hx (congrArg (some ∘ Place.point) he)
        obtain ⟨rfl, rfl⟩ : s = t ∧ m = n := signed_injective hne hsteps
        rfl
      | infinite t => cases t <;> cases h
      | nan => cases h

theorem Alike.refl (x : Double) : Alike x x := .inl rfl

theorem Alike.symm (h : Alike x y) : Alike y x := alike_iff.2 (alike_iff.1 h).symm

theorem Alike.trans (h : Alike x y) (h' : Alike y z) : Alike x z :=
  alike_iff.2 ((alike_iff.1 h).trans (alike_iff.1 h'))

theorem Alike.eq_zero (h : Alike x y) : x.eq zero = y.eq zero := by
  rw [eq_eq_any, eq_eq_any, alike_iff.1 h]

theorem isFinite_iff : x.isFinite = true ↔ ∃ n, x.place? = some (.point n) := by
  cases x with
  | nan => simp [isFinite, place?]
  | infinite s => cases s <;> simp [isFinite, place?]
  | finite s m hm => exact ⟨fun _ => ⟨_, rfl⟩, fun _ => rfl⟩

/-! ## Sums -/

/-- The sign that a zero is given makes no difference to where a sum stands. -/
theorem place?_ofSteps (s t : Bool) (n : Int) : (ofSteps s n).place? = (ofSteps t n).place? := by
  by_cases hn : n = 0
  · subst hn
    cases s <;> cases t <;> decide +kernel
  · rw [ofSteps, ofSteps, if_neg hn, if_neg hn]

theorem add_finite (s t : Bool) {m n : Nat} (hm : Representable m) (hn : Representable n) :
    finite s m hm + finite t n hn = ofSteps (s && t) (signed s m + signed t n) := by
  show (finite s m hm).add (finite t n hn) = _
  rw [add]

theorem add_comm (x y : Double) : x + y = y + x := by
  cases x with
  | nan => cases y <;> rfl
  | infinite s =>
    cases y with
    | infinite t => cases s <;> cases t <;> rfl
    | _ => rfl
  | finite s m hm =>
    cases y with
    | finite t n hn => rw [add_finite, add_finite, Bool.and_comm, Int.add_comm]
    | _ => rfl

theorem exists_of_eq_zero (h : x.eq zero = true) : ∃ s valid, x = finite s 0 valid := by
  rw [eq_zero_iff] at h
  cases x with
  | nan => cases h
  | infinite s => cases s <;> cases h
  | finite s m valid =>
    obtain rfl := signed_eq_zero_iff.1 (Place.point.inj (Option.some.inj h))
    exact ⟨s, valid, rfl⟩

/-- A zero that is added may have any sign. -/
theorem zero_add_alike (hx : x.eq zero = true) (hy : y.eq zero = true) : Alike (x + z) (y + z) := by
  obtain ⟨s, hs, rfl⟩ := exists_of_eq_zero hx
  obtain ⟨t, ht, rfl⟩ := exists_of_eq_zero hy
  cases z with
  | nan | infinite u => exact .refl _
  | finite u n hn =>
    have hsame : signed s 0 = signed t 0 := by
      rw [signed_eq_zero_iff.2 rfl, signed_eq_zero_iff.2 rfl]
    rw [add_finite, add_finite, hsame]
    exact alike_iff.2 (place?_ofSteps _ _ _)

theorem Alike.add_right (h : Alike x y) (z : Double) : Alike (x + z) (y + z) := by
  rcases h with rfl | ⟨hx, hy⟩
  · exact .refl _
  · exact zero_add_alike hx hy

theorem Alike.add {x' y' : Double} (h : Alike x y) (h' : Alike x' y') :
    Alike (x + x') (y + y') := by
  refine (h.add_right x').trans ?_
  rw [add_comm y x', add_comm y y']
  exact h'.add_right y

theorem zero_eq_zero : zero.eq zero = true := by decide +kernel

theorem alike_zero (h : x.eq zero = true) : Alike x zero := .inr ⟨h, zero_eq_zero⟩

theorem zero_add_alike_self (x : Double) : Alike (zero + x) x := by
  by_cases hx : x.eq zero = true
  · have hsum : (zero + zero).eq zero = true := by decide +kernel
    exact ((Alike.refl zero).add (alike_zero hx)).trans (.inr ⟨hsum, hx⟩)
  · rw [zero_add_of_ne (Bool.eq_false_iff.2 hx)]
    exact .refl x

/-- A zero adds nothing. -/
theorem add_alike_self (x : Double) {y : Double} (hy : y.eq zero = true) : Alike (x + y) x := by
  rw [add_comm]
  exact ((alike_zero hy).add_right x).trans (zero_add_alike_self x)

/-! ## Opposites -/

theorem neg_neg (x : Double) : -(-x) = x := by
  show x.neg.neg = x
  cases x <;> simp [neg]

theorem place?_neg_finite (s : Bool) {n : Nat} (h : Representable n) :
    (-finite s n h).place? = some (.point (-signed s n)) := by
  have hsigned : signed (!s) n = -signed s n := by cases s <;> simp [signed]
  rw [← hsigned]
  rfl

theorem neg_eq_zero (h : x.eq zero = true) : (-x).eq zero = true := by
  obtain ⟨s, valid, rfl⟩ := exists_of_eq_zero h
  rw [eq_zero_iff, place?_neg_finite, signed_eq_zero_iff.2 rfl, Int.neg_zero]

theorem Alike.neg (h : Alike x y) : Alike (-x) (-y) := by
  rcases h with rfl | ⟨hx, hy⟩
  · exact .refl _
  · exact .inr ⟨neg_eq_zero hx, neg_eq_zero hy⟩

/-- Opposite finite doubles take each other away. -/
theorem add_neg_eq_zero (h : x.isFinite = true) : (x + -x).eq zero = true := by
  cases x with
  | finite s n valid =>
    have hsum : signed s n + signed (!s) n = 0 := by
      cases s
      · exact Int.add_right_neg n
      · exact Int.add_left_neg n
    show (finite s n valid + finite (!s) n valid).eq zero = true
    rw [add_finite, hsum, eq_zero_iff, place?_ofSteps _ false]
    decide +kernel
  | _ => cases h

/-! ## Products -/

theorem mul_finite (s t : Bool) {m n : Nat} (hm : Representable m) (hn : Representable n) :
    finite s m hm * finite t n hn = ofQuotient (s != t) (m * n) stepsPerUnit := by
  show (finite s m hm).mul (finite t n hn) = _
  rw [mul]

theorem roundQuotient_zero (d : Nat) : roundQuotient 0 d = 0 := by
  simp [roundQuotient, halfEven]

theorem zero_mul_eq_zero (hx : x.eq zero = true) (hy : y.isFinite = true) :
    (x * y).eq zero = true := by
  obtain ⟨s, valid, rfl⟩ := exists_of_eq_zero hx
  cases y with
  | finite t n hn =>
    have hlimit : 0 < stepsLimit := power_pos (by decide) _
    rw [mul_finite, eq_zero_iff, place?_ofQuotient, Nat.zero_mul, roundQuotient_zero,
      if_pos hlimit, signed_eq_zero_iff.2 rfl]
  | _ => cases hy

/-- A quotient that is a double already is not rounded. -/
theorem roundQuotient_mul {n d : Nat} (hn : FitsMantissa n) (hd : 0 < d) :
    roundQuotient (n * d) d = n := by
  have hstep : 0 < power 2 (n.log2 - 52) := power_pos (by decide) _
  obtain ⟨k, hk⟩ := hn
  rw [roundQuotient, Nat.mul_div_cancel n hd]
  generalize power 2 (n.log2 - 52) = step at hstep hk
  have hproduct : n * d = k * (d * step) := by
    rw [hk, Nat.mul_comm d, Nat.mul_left_comm, Nat.mul_assoc]
  show halfEven (n * d) (d * step) * step = n
  rw [hproduct, halfEven_mul_right _ _ (Nat.mul_pos hd hstep), hk, Nat.mul_comm]

theorem one_mul (x : Double) : one * x = x := by
  have hone : ∃ valid, one = finite false stepsPerUnit valid := ⟨by decide +kernel, by decide +kernel⟩
  obtain ⟨valid, hone⟩ := hone
  rw [hone]
  cases x with
  | nan => rfl
  | infinite s =>
    show (finite false stepsPerUnit valid).mul (infinite s) = infinite s
    rw [mul, if_neg (Nat.ne_of_gt stepsPerUnit_pos), Bool.false_bne]
  | finite s n hn =>
    have hround : roundQuotient (stepsPerUnit * n) stepsPerUnit = n := by
      rw [Nat.mul_comm]
      exact roundQuotient_mul hn.1 stepsPerUnit_pos
    rw [mul_finite, Bool.false_bne, ofQuotient]
    simp only [hround, dif_pos hn.2]

end Milp.Double

import Milp.Lp.Line
import Milp.Proofs.Double.Rounding
import Milp.Proofs.Double.Text
set_option autoImplicit false

/-! # Printed coefficients

A coefficient that does not count as infinite is printed as the nearest double with twelve digits
(`numberText_coefficient`). A negative one is printed as a sign and its opposite, which has the same
digits (`Number.StoredAs`): a whole number and its opposite are rounded to the same magnitude. -/

namespace Milp

namespace Number

/-- What is printed in digits as a coefficient: a number that is not zero and does not count as
infinite, by its place. It is from no array, as engines keep coefficients as doubles; the opposite of an
element can be the element itself. -/
structure IsCoefficient (x : Number) (z : Int) : Prop where
  alone : x.element? = none
  place : x.place? = some (.point z)
  ne_zero : z ≠ 0
  finite : z.natAbs < power 10 20 * stepsPerUnit

variable {x : Number} {z : Int}

/-- Numbers that are from no array are the same if they stand at the same place. -/
theorem same_int_of_place? (hx : x.element? = none) (hp : x.place? = some (.point z)) (n : Int) :
    x.same (int n) = decide (z = n * stepsPerUnit) := by
  rw [same_of_place? hx rfl hp rfl]
  exact decide_eq_decide.2 ⟨Place.point.inj, congrArg Place.point⟩

theorem IsCoefficient.of_int {n : Int} (hne : n ≠ 0) (hfinite : n.natAbs < power 10 20) :
    (int n).IsCoefficient (n * stepsPerUnit) where
  alone := rfl
  place := rfl
  ne_zero := Int.mul_ne_zero hne (Int.ne_of_gt steps_pos)
  finite := by
    rw [Int.natAbs_mul, Int.natAbs_natCast]
    exact Nat.mul_lt_mul_of_pos_right hfinite stepsPerUnit_pos

/-- A whole number below the infinity has a double, which a sign makes that of its opposite. -/
theorem doubleOf_of_lt {n : Int} (hn : n.natAbs < power 10 20) :
    ∃ valid, doubleOf n =
      .ok (.finite (decide (n < 0)) (roundQuotient (n.natAbs * stepsPerUnit) 1) valid) := by
  have hlimit : roundQuotient (power 10 20 * stepsPerUnit) 1 < stepsLimit := by decide +kernel
  have hlt : roundQuotient (n.natAbs * stepsPerUnit) 1 < stepsLimit :=
    (roundQuotient_mono (Nat.mul_le_mul_right _ hn.le)).trans_lt hlimit
  have habs : (n * stepsPerUnit).natAbs = n.natAbs * stepsPerUnit := by
    rw [Int.natAbs_mul, Int.natAbs_natCast]
  refine ⟨⟨fitsMantissa_roundQuotient _ _, hlt⟩, ?_⟩
  rw [doubleOf, Double.ofInt_eq_ofQuotient, habs, Double.ofQuotient_of_lt _ hlt]
  rfl

/-- A coefficient has a double with its sign, and the opposite of a negative one the same double
without. -/
structure StoredAs (x : Number) (z : Int) (m : Nat) (valid : Representable m) : Prop where
  double : x.toDouble = .ok (.finite (decide (z < 0)) m valid)
  opposite (hz : z < 0) : ∃ y, x.neg = .ok y ∧ y.IsCoefficient (-z) ∧
    y.toDouble = .ok (.finite false m valid)

theorem IsCoefficient.of_opposite (h : x.IsCoefficient z) {y : Number} (hy : y.element? = none)
    (hp : y.place? = some (.point (-z))) : y.IsCoefficient (-z) where
  alone := hy
  place := hp
  ne_zero := Int.neg_ne_zero.2 h.ne_zero
  finite := by
    rw [Int.natAbs_neg]
    exact h.finite

theorem storedAs_whole {n : Int} (h : x.IsCoefficient (n * stepsPerUnit))
    (hdouble : x.toDouble = doubleOf n) (hneg : x.neg = .ok (int (-n))) :
    ∃ m valid, StoredAs x (n * stepsPerUnit) m valid := by
  have hsign : n * (stepsPerUnit : Int) < 0 ↔ n < 0 := by
    rw [← not_le, ← not_le, mul_nonneg_iff_of_pos_right steps_pos]
  have hn : n.natAbs < power 10 20 := by
    have hfinite := h.finite
    rw [Int.natAbs_mul, Int.natAbs_natCast] at hfinite
    exact Nat.lt_of_mul_lt_mul_right hfinite
  obtain ⟨valid, hd⟩ := doubleOf_of_lt hn
  refine ⟨_, valid, ?_, fun hz => ⟨_, hneg, h.of_opposite rfl ?_, ?_⟩⟩
  · rw [hdouble, hd, decide_eq_decide.2 hsign]
  · rw [place?, Int.neg_mul]
  · obtain ⟨valid', hd'⟩ := doubleOf_of_lt (n := -n) (by rwa [Int.natAbs_neg])
    have hpositive : decide (-n < 0) = false :=
      decide_eq_false (Int.not_lt.2 (Int.neg_nonneg_of_nonpos (hsign.1 hz).le))
    rw [hpositive] at hd'
    simp only [Int.natAbs_neg] at hd'
    exact hd'

theorem storedAs_float {negative : Bool} {m : Nat} {valid : Representable m}
    (h : (float (.finite negative m valid)).IsCoefficient (Double.signed negative m)) :
    StoredAs (float (.finite negative m valid)) (Double.signed negative m) m valid := by
  have hsign : negative = decide (Double.signed negative m < 0) := by
    have hne := h.ne_zero
    cases negative
    · simp [Double.signed]
    · simpa [Double.signed, Nat.pos_iff_ne_zero] using hne
  refine ⟨?_, fun hz => ⟨float (.finite (!negative) m valid), rfl, h.of_opposite rfl ?_, ?_⟩⟩
  · rw [← hsign]
    rfl
  · cases negative <;> simp [place?, Double.place?, Double.signed]
  · rw [decide_eq_true hz] at hsign
    rw [hsign]
    rfl

theorem IsCoefficient.exists_storedAs (h : x.IsCoefficient z) : ∃ m valid, StoredAs x z m valid := by
  have hwhole {n : Int} (hx : x.place? = some (.point (n * stepsPerUnit)))
      (hdouble : x.toDouble = doubleOf n) (hneg : x.neg = .ok (int (-n))) :
      ∃ m valid, StoredAs x z m valid := by
    obtain rfl : z = n * stepsPerUnit := Place.point.inj (Option.some.inj (h.place.symm.trans hx))
    exact storedAs_whole h hdouble hneg
  cases x with
  | truth b =>
    have hdouble : (truth b).toDouble = doubleOf (truthNumber b) := by cases b <;> decide +kernel
    exact hwhole rfl hdouble rfl
  | int _ | refusal _ => exact hwhole rfl rfl rfl
  | float d =>
    cases d with
    | nan => cases h.place
    | infinite negative => cases negative <;> cases h.place
    | finite negative m valid =>
      obtain rfl : Double.signed negative m = z := Place.point.inj (Option.some.inj h.place)
      exact ⟨m, valid, storedAs_float h⟩
  | complex => cases h.place
  | item | cell => cases h.alone

end Number

namespace Lp

variable {x : Number} {z : Int}

theorem equals_coefficient (h : x.IsCoefficient z) (n : Int) :
    (Value.number x).equals (.int n) = .ok (decide (z = n * stepsPerUnit)) := by
  rw [← Number.same_int_of_place? h.alone h.place]
  rw [Value.equals, Value.int, Value.depth_number, Value.depth_number, Value.equalsUpTo, Number.eq,
    h.alone]
  rfl

theorem lt_zero_coefficient (h : x.IsCoefficient z) : x.lt (.int 0) = .ok (decide (z < 0)) := by
  have hlt : x.lt (.int 0) = .ok ((Place.point z).lt (.point (0 * stepsPerUnit))) :=
    Number.compareBy_of_place? h.alone rfl h.place rfl
  rw [hlt, Int.zero_mul]
  rfl

theorem below_zero_coefficient (h : x.IsCoefficient z) :
    Value.holds .below (.number x) (.int 0) = .ok (decide (z < 0)) := by
  rw [Value.int, Value.holds_below_numbers, lt_zero_coefficient h]
  rfl

/-- A coefficient is written with twelve digits. -/
theorem numberText_coefficient (h : x.IsCoefficient z) {d : Double} (hd : x.toDouble = .ok d) :
    numberText (.number x) = .ok (d.generalText 12) := by
  have hfinite := h.finite
  have hinfinity : infinity.place? = some (.point ((power 10 20 : Nat) * stepsPerUnit)) := by
    decide +kernel
  have hopposite : (-infinity).place? = some (.point (-((power 10 20 : Nat) * stepsPerUnit))) := by
    decide +kernel
  have habove : unboundedAbove (.number x) = .ok false := by
    have hle : (Number.float infinity).le x = .ok _ :=
      Number.compareBy_of_place? rfl h.alone hinfinity h.place
    rw [unboundedAbove, Value.float, Value.holds_atLeast_numbers, hle]
    simp only [Place.le, Place.lt, Failure.lift, Except.ok.injEq, Bool.not_eq_false',
      decide_eq_true_eq]
    omega
  have hbelow : unboundedBelow (.number x) = .ok false := by
    have hle : x.le (.float (-infinity)) = .ok _ :=
      Number.compareBy_of_place? h.alone rfl h.place hopposite
    rw [unboundedBelow, Value.float, Value.holds_atMost_numbers, hle]
    simp only [Place.le, Place.lt, Failure.lift, Except.ok.injEq, Bool.not_eq_false',
      decide_eq_true_eq]
    omega
  have hdouble : (Value.number x).toDouble = .ok d := hd
  rw [numberText, habove, hbelow, hdouble]
  rfl

end Lp

end Milp

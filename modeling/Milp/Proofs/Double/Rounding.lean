import Milp.Proofs.Double.Alike
import Mathlib.Algebra.Order.Ring.Int
set_option autoImplicit false

/-! # Rounding keeps order

Two numbers between the same powers of two are rounded to multiples of one step, and those between
different powers of two are kept apart by the power between them. So rounding is monotone
(`roundQuotient_mono`), also across zero (`nearestSteps_mono`). It leaves doubles where they are, and
it takes whole numbers to whole numbers (`nearestSteps_whole`): the step of a number with more than
53 bits is whole itself. -/

namespace Milp

/-! ## Magnitudes -/

theorem halfEven_mono {m n : Nat} (h : m ≤ n) (d : Nat) : halfEven m d ≤ halfEven n d := by
  rcases Nat.eq_or_lt_of_le (Nat.div_le_div_right (c := d) h) with hq | hq
  · -- of two numbers with one quotient the greater one has the greater remainder
    have hm := Nat.div_add_mod m d
    have hn := Nat.div_add_mod n d
    have hr : m % d ≤ n % d := by
      rw [hq] at hm
      omega
    have heven := Nat.mod_two_eq_zero_or_one (n / d)
    unfold halfEven
    rw [hq]
    dsimp only
    split_ifs <;> omega
  · exact (halfEven_le_succ m d).trans (Nat.succ_le_of_lt hq |>.trans (div_le_halfEven n d))

/-- A number is not rounded beyond the next power of two. -/
theorem roundQuotient_le_power (k : Nat) : roundQuotient k 1 ≤ power 2 (k.log2 + 1) := by
  have hpos : 0 < power 2 (k.log2 - 52) := power_pos (by decide) _
  have hsplit : power 2 (k.log2 + 1) =
      power 2 (k.log2 + 1 - (k.log2 - 52)) * power 2 (k.log2 - 52) := by
    show 2 ^ (k.log2 + 1) = 2 ^ (k.log2 + 1 - (k.log2 - 52)) * 2 ^ (k.log2 - 52)
    rw [← Nat.pow_add, Nat.sub_add_cancel (by omega)]
  have hlt : k / power 2 (k.log2 - 52) < power 2 (k.log2 + 1 - (k.log2 - 52)) := by
    rw [Nat.div_lt_iff_lt_mul hpos, ← hsplit]
    exact Nat.lt_log2_self
  rw [roundQuotient, Nat.div_one, Nat.one_mul, hsplit]
  exact Nat.mul_le_mul_right _ ((halfEven_le_succ _ _).trans hlt)

theorem roundQuotient_mono {m n : Nat} (h : m ≤ n) : roundQuotient m 1 ≤ roundQuotient n 1 := by
  rcases Nat.eq_zero_or_pos m with rfl | hm
  · rw [Double.roundQuotient_zero]
    exact Nat.zero_le _
  have hn : 0 < n := hm.trans_le h
  have hlog : m.log2 ≤ n.log2 :=
    (Nat.le_log2 (Nat.ne_of_gt hn)).2 ((Nat.log2_self_le (Nat.ne_of_gt hm)).trans h)
  rcases Nat.eq_or_lt_of_le hlog with he | hlt
  · rw [roundQuotient, roundQuotient, Nat.div_one, Nat.div_one, he]
    exact Nat.mul_le_mul_right _ (halfEven_mono h _)
  · have hpower : power 2 (m.log2 + 1) ≤ power 2 n.log2 :=
      Nat.pow_le_pow_right (by decide) hlt
    exact (roundQuotient_le_power m).trans (hpower.trans (power_log2_le_roundQuotient hn))

theorem log2_mul_power {k : Nat} (hk : 0 < k) (s : Nat) : (k * power 2 s).log2 = k.log2 + s := by
  have hne : k * power 2 s ≠ 0 := Nat.ne_of_gt (Nat.mul_pos hk (power_pos (by decide) s))
  refine (Nat.log2_eq_iff hne).2 ⟨?_, ?_⟩
  · rw [Nat.pow_add]
    exact Nat.mul_le_mul_right _ (Nat.log2_self_le (Nat.ne_of_gt hk))
  · rw [Nat.add_right_comm, Nat.pow_add]
    exact Nat.mul_lt_mul_of_pos_right Nat.lt_log2_self (Nat.two_pow_pos s)

theorem power_dvd_power {d e : Nat} (h : d ≤ e) : power 2 d ∣ power 2 e := Nat.pow_dvd_pow 2 h

/-- Whole numbers are rounded to whole numbers. -/
theorem stepsPerUnit_dvd_roundQuotient (k : Nat) :
    stepsPerUnit ∣ roundQuotient (k * stepsPerUnit) 1 := by
  rcases Nat.eq_zero_or_pos k with rfl | hk
  · rw [Nat.zero_mul, Double.roundQuotient_zero]
    exact Nat.dvd_zero _
  have hlog : (k * stepsPerUnit).log2 = k.log2 + 1074 := log2_mul_power hk 1074
  rcases Nat.lt_or_ge k.log2 52 with hlt | hge
  · have hfits : FitsMantissa (k * stepsPerUnit) := by
      have hstep : power 2 (k.log2 + 1074 - 52) ∣ power 2 1074 := power_dvd_power (by omega)
      rw [FitsMantissa, hlog]
      exact hstep.mul_left k
    rw [roundQuotient_of_fitsMantissa hfits]
    exact Nat.dvd_mul_left _ _
  · -- the step is a multiple of one unit
    have hstep : power 2 1074 ∣ power 2 (k.log2 + 1074 - 52) := power_dvd_power (by omega)
    rw [roundQuotient, Nat.div_one, Nat.one_mul, hlog]
    exact hstep.mul_left _

/-! ## Places -/

/-- The number of steps of the double that is nearest to a number of steps. -/
def nearestSteps (z : Int) : Int := Double.signed (decide (z < 0)) (roundQuotient z.natAbs 1)

theorem nearestSteps_mono {a b : Int} (h : a ≤ b) : nearestSteps a ≤ nearestSteps b := by
  unfold nearestSteps Double.signed
  rcases Int.lt_or_le a 0 with ha | ha <;> rcases Int.lt_or_le b 0 with hb | hb
  · -- below zero the greater number has the smaller magnitude
    have hround : roundQuotient b.natAbs 1 ≤ roundQuotient a.natAbs 1 :=
      roundQuotient_mono (by omega)
    simp only [ha, hb, decide_true, if_true]
    omega
  · simp [ha, Int.not_lt.2 hb]
  · omega
  · have hround : roundQuotient a.natAbs 1 ≤ roundQuotient b.natAbs 1 :=
      roundQuotient_mono (by omega)
    simp [Int.not_lt.2 ha, Int.not_lt.2 hb, hround]

/-- Doubles stay where they are. -/
theorem nearestSteps_of_fitsMantissa {negative : Bool} {m : Nat} (h : FitsMantissa m) :
    nearestSteps (Double.signed negative m) = Double.signed negative m := by
  have hround := roundQuotient_of_fitsMantissa h
  cases negative
  · simp [nearestSteps, Double.signed, hround]
  · rcases Nat.eq_zero_or_pos m with rfl | hm
    · decide +kernel
    · simp [nearestSteps, Double.signed, hround, hm]

/-- Whole numbers become whole numbers. -/
theorem nearestSteps_whole (k : Int) :
    ∃ n : Int, nearestSteps (k * stepsPerUnit) = n * stepsPerUnit := by
  have habs : (k * stepsPerUnit).natAbs = k.natAbs * stepsPerUnit := by
    rw [Int.natAbs_mul, Int.natAbs_natCast]
  obtain ⟨c, hc⟩ := stepsPerUnit_dvd_roundQuotient k.natAbs
  rw [nearestSteps, habs, hc, Nat.mul_comm]
  cases decide (k * stepsPerUnit < 0)
  · exact ⟨c, by rw [Double.signed, if_neg Bool.false_ne_true, Nat.cast_mul]⟩
  · exact ⟨-c, by rw [Double.signed, if_pos rfl, Nat.cast_mul, Int.neg_mul]⟩

namespace Place

/-- The place of the double that is nearest to what stands at a place. -/
def nearest : Place → Place
  | lowest => lowest
  | point z => point (nearestSteps z)
  | highest => highest

theorem nearest_le {p q : Place} (h : p.le q = true) : p.nearest.le q.nearest = true := by
  cases p with
  | lowest => cases q <;> rfl
  | highest =>
    cases q with
    | lowest | point _ => cases h
    | highest => rfl
  | point a =>
    cases q with
    | lowest => cases h
    | highest => rfl
    | point b =>
      have hab : a ≤ b := by simpa [le, lt] using h
      simpa [nearest, le, lt] using nearestSteps_mono hab

end Place

/-! ## Numbers -/

namespace Number

/-- A plain whole number or double. -/
def IsPlain (x : Number) : Prop := (∃ n, x = .int n) ∨ ∃ d, x = .float d

variable {x : Number} {d : Double}

theorem IsPlain.element? (h : x.IsPlain) : x.element? = none := by
  rcases h with ⟨n, rfl⟩ | ⟨d, rfl⟩ <;> rfl

theorem IsPlain.isNumber (h : x.IsPlain) : (Value.number x).isNumber = true := by
  rcases h with ⟨n, rfl⟩ | ⟨d, rfl⟩ <;> rfl

/-- A number is stored at the place that is nearest to its own. -/
theorem IsPlain.place?_toDouble (hx : x.IsPlain) (h : x.toDouble = .ok d) :
    d.place? = x.place?.map Place.nearest := by
  rcases hx with ⟨n, rfl⟩ | ⟨e, rfl⟩
  · have hdouble : doubleOf n = .ok d := h
    rw [doubleOf] at hdouble
    split at hdouble
    · rename_i hfinite
      obtain rfl := Except.ok.inj hdouble
      obtain ⟨z, hz⟩ := Double.isFinite_iff.1 hfinite
      have hsign : (n * stepsPerUnit < 0) = (n < 0) := by
        rw [← not_le, ← not_le, mul_nonneg_iff_of_pos_right steps_pos]
      have hplace := Double.place?_ofInt n
      have hnearest : (Number.int n).place?.map Place.nearest =
          some (.point (Double.signed (decide (n < 0)) (roundQuotient (n * stepsPerUnit).natAbs 1))) := by
        show some (Place.point (nearestSteps _)) = _
        simp only [nearestSteps, hsign]
      rw [hnearest, hplace]
      rw [hplace] at hz
      split_ifs at hz ⊢ with hlimit hnegative
      · rfl
      · cases hz
      · cases hz
    · cases hdouble
  · obtain rfl := Except.ok.inj h
    cases e with
    | nan => rfl
    | infinite s => cases s <;> rfl
    | finite s m valid => exact congrArg (some ∘ Place.point) (nearestSteps_of_fitsMantissa valid.1).symm

end Number

end Milp

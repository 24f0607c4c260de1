import Milp.Proofs.Comparison
import Milp.Proofs.Except
set_option autoImplicit false

/-! # Comparing values with zero and one

A bound may be given as any value that stands for a double: a whole number, a text, an element of an
array or an array that holds a number. It is compared as it was given, and stored as the double that
is nearest to it. Rounding does not take a number across zero or one (`Double.ofInt_lt_zero`,
`Double.one_lt_ofInt`), a text cannot be compared with a number at all (`Value.Leaf.of_combineUpTo`),
and complex elements are compared by their real parts first. So whenever such a comparison has an
answer, it is the one for the stored double, up to the sign of a zero and where imaginary parts decide
between numbers at the same place (`Value.decided_below_zero`, `Value.decided_above_one`). -/

namespace Milp

/-! ## Rounding of whole numbers -/

theorem div_le_halfEven (n d : Nat) : n / d ≤ halfEven n d := by
  unfold halfEven
  dsimp only
  split
  · exact Nat.le_refl _
  · split <;> omega

/-- A number is not rounded below the greatest power of two that is not above it. -/
theorem power_log2_le_roundQuotient {k : Nat} (hk : 0 < k) :
    power 2 k.log2 ≤ roundQuotient k 1 := by
  have hstep : power 2 k.log2 = power 2 (k.log2 - (k.log2 - 52)) * power 2 (k.log2 - 52) := by
    show 2 ^ k.log2 = 2 ^ (k.log2 - (k.log2 - 52)) * 2 ^ (k.log2 - 52)
    rw [← Nat.pow_add, Nat.sub_add_cancel (Nat.sub_le _ _)]
  have hle : power 2 k.log2 ≤ k := Nat.log2_self_le (Nat.ne_of_gt hk)
  have hpos : 0 < power 2 (k.log2 - 52) := power_pos (by decide) _
  have hquotient : power 2 (k.log2 - (k.log2 - 52)) ≤ k / power 2 (k.log2 - 52) := by
    rw [Nat.le_div_iff_mul_le hpos, ← hstep]
    exact hle
  rw [roundQuotient, Nat.div_one, Nat.one_mul, hstep]
  exact Nat.mul_le_mul_right _ (Nat.le_trans hquotient (div_le_halfEven _ _))

theorem power_succ (e : Nat) : power 2 (e + 1) = 2 * power 2 e := Nat.pow_succ'

theorem lt_roundQuotient {k e : Nat} (hk : power 2 (e + 1) ≤ k) :
    power 2 e < roundQuotient k 1 := by
  have hpos : 0 < k := Nat.lt_of_lt_of_le (power_pos (by decide) _) hk
  have hlog : e + 1 ≤ k.log2 := (Nat.le_log2 (Nat.ne_of_gt hpos)).2 hk
  have hpower : power 2 e < power 2 k.log2 := Nat.pow_lt_pow_right (by decide) hlog
  exact Nat.lt_of_lt_of_le hpower (power_log2_le_roundQuotient hpos)

/-! ## Places of whole numbers -/

namespace Double

theorem place?_ofQuotient (negative : Bool) (n d : Nat) :
    (ofQuotient negative n d).place? = some (if roundQuotient n d < stepsLimit then
      .point (signed negative (roundQuotient n d)) else if negative then .lowest else .highest) := by
  simp only [ofQuotient]
  split
  · rfl
  · rfl

theorem ofQuotient_of_lt (negative : Bool) {n d : Nat} (h : roundQuotient n d < stepsLimit) :
    ofQuotient negative n d = .finite negative (roundQuotient n d)
      ⟨fitsMantissa_roundQuotient n d, h⟩ := by
  simp only [ofQuotient, dif_pos h]

theorem place?_zero : zero.place? = some (.point 0) := by decide +kernel

theorem place?_one : one.place? = some (.point stepsPerUnit) := by decide +kernel

/-- A whole number is rounded as a magnitude with a sign. -/
theorem ofInt_eq_ofQuotient (n : Int) :
    ofInt n = ofQuotient (decide (n < 0)) (n * stepsPerUnit).natAbs 1 := by
  have hsteps := steps_pos
  have hnegative : (if n * stepsPerUnit = 0 then false else decide (n * stepsPerUnit < 0)) =
      decide (n < 0) := by
    rcases Int.lt_trichotomy n 0 with hn | rfl | hn
    · have hneg := Int.mul_neg_of_neg_of_pos hn hsteps
      rw [if_neg (Int.ne_of_lt hneg), decide_eq_true hneg, decide_eq_true hn]
    · rw [Int.zero_mul]
      rfl
    · have hpos := Int.mul_pos hn hsteps
      rw [if_neg (Int.ne_of_gt hpos), decide_eq_false (Int.not_lt.2 (Int.le_of_lt hpos)),
        decide_eq_false (Int.not_lt.2 (Int.le_of_lt hn))]
  rw [ofInt, ofSteps, hnegative]

/-- Where a whole number is rounded to. -/
theorem place?_ofInt (n : Int) : (ofInt n).place? = some
    (if roundQuotient (n * stepsPerUnit).natAbs 1 < stepsLimit then
      .point (signed (decide (n < 0)) (roundQuotient (n * stepsPerUnit).natAbs 1))
    else if n < 0 then .lowest else .highest) := by
  rw [ofInt_eq_ofQuotient, place?_ofQuotient]
  simp only [decide_eq_true_eq]

theorem ofInt_lt_zero (n : Int) : (ofInt n).lt zero = decide (n < 0) := by
  rw [lt_of_places (place?_ofInt n) place?_zero]
  have hsteps := steps_pos
  by_cases hn : n < 0
  · have hpos : 0 < (n * stepsPerUnit).natAbs :=
      Int.natAbs_pos.2 (Int.ne_of_lt (Int.mul_neg_of_neg_of_pos hn hsteps))
    have hround := Nat.lt_of_lt_of_le (power_pos (by decide) _) (power_log2_le_roundQuotient hpos)
    split
    · simp only [hn, decide_true, signed, if_true, Place.lt]
      exact decide_eq_true (by omega)
    · simp [hn, Place.lt]
  · split
    · simp only [hn, decide_false, signed, Bool.false_eq_true, if_false, Place.lt]
      exact decide_eq_false (by omega)
    · simp [hn, Place.lt]

theorem one_lt_ofInt (n : Int) : one.lt (ofInt n) = decide (1 < n) := by
  have hsteps := steps_pos
  rcases (by omega : n < 0 ∨ n = 0 ∨ n = 1 ∨ 1 < n) with hn | rfl | rfl | hn
  · rw [lt_of_places place?_one (place?_ofInt n)]
    split
    · simp only [hn, decide_true, signed, if_true, Place.lt]
      exact decide_eq_decide.2 (by omega)
    · simp only [Place.lt]
      exact (decide_eq_false (by omega)).symm
  · decide +kernel
  · decide +kernel
  · -- two units are a power of two, below which nothing greater is rounded
    have htwo : power 2 (1074 + 1) ≤ (n * stepsPerUnit).natAbs := by
      have hdouble : power 2 (1074 + 1) = 2 * stepsPerUnit := by
        rw [stepsPerUnit, power_succ]
      have hle : 2 * (stepsPerUnit : Int) ≤ n * stepsPerUnit :=
        Int.mul_le_mul_of_nonneg_right hn (Int.le_of_lt hsteps)
      omega
    have hround : stepsPerUnit < roundQuotient (n * stepsPerUnit).natAbs 1 := lt_roundQuotient htwo
    have hnot : ¬n < 0 := by omega
    rw [lt_of_places place?_one (place?_ofInt n), decide_eq_true hn]
    split
    · simp only [hnot, decide_false, signed, Bool.false_eq_true, if_false, Place.lt]
      exact decide_eq_true (Int.ofNat_lt.2 hround)
    · simp only [Place.lt]

/-- An answer to a comparison is right, or the two are at one place and it says that one is below the
other, as it may for complex numbers. -/
def Decided (x y : Double) (r : Bool) : Prop := r = x.lt y ∨ (r = true ∧ x.place? = y.place?)

end Double

/-! ## Numbers -/

namespace Number

/-- The double that is nearest to a number, or to its real part. -/
def nearest : Number → Double
  | truth b => Double.ofInt (truthNumber b)
  | int n => Double.ofInt n
  | float x | complex x _ => x
  | refusal r => Double.ofInt r.code
  | item e | cell e => e.realPart

/-- A number on its own, without the array that it is from. -/
def alone : Number → Number
  | item e | cell e => ofElement e
  | x => x

theorem alone_ofElement (e : Element) : (ofElement e).alone = ofElement e := by cases e <;> rfl

theorem alone_alone (x : Number) : x.alone.alone = x.alone := by
  cases x with
  | item e | cell e => exact alone_ofElement e
  | _ => rfl

theorem nearest_alone (x : Number) : x.alone.nearest = x.nearest := by
  cases x with
  | item e | cell e => cases e <;> rfl
  | _ => rfl

theorem nearest_of_toDouble {a : Number} {d : Double} (h : a.toDouble = .ok d) : a.nearest = d := by
  have hwhole {n : Int} (h : doubleOf n = .ok d) : Double.ofInt n = d := by
    rw [doubleOf] at h
    split at h
    · exact Except.ok.inj h
    · cases h
  cases a with
  | int n => exact hwhole h
  | refusal r => exact hwhole h
  | cell e =>
    rw [toDouble] at h
    split at h
    · cases h
    · exact Except.ok.inj h
  | complex _ _ => cases h
  | _ => exact Except.ok.inj h

/-- A whole number that meets elements of real or complex numbers becomes its nearest double. -/
theorem realPart_of_whole {n : Int} {a : Element} (h : Element.real <$> doubleOf n = .ok a ∨
    (Element.complex · Double.zero) <$> doubleOf n = .ok a) : a.realPart = Double.ofInt n := by
  rw [doubleOf] at h
  split at h
  · rcases h with h | h <;> cases h <;> rfl
  · rcases h with h | h <;> cases h

/-- An element that becomes one of real or complex numbers keeps its real part. -/
theorem realPart_toKind {k : NumberKind} (hk : k = .real ∨ k = .complex) (e : Element) :
    (e.toKind k).realPart = e.realPart := by
  rcases hk with rfl | rfl <;> unfold Element.toKind <;> cases e.whole? <;> rfl

theorem realPart_item {k : NumberKind} (hk : k = .real ∨ k = .complex) {e a : Element}
    (h : (item e).toElement k = .ok a) : a.realPart = e.realPart := by
  have hkind (h : Except.ok (e.toKind k) = (.ok a : Except Fault Element)) :
      a.realPart = e.realPart := by
    rw [← Except.ok.inj h, realPart_toKind hk]
  cases e with
  | signed n | unsigned n =>
    rw [Element.realPart]
    rcases hk with rfl | rfl
    · exact realPart_of_whole (.inl h)
    · exact realPart_of_whole (.inr h)
  | _ => exact hkind h

/-- A number that meets elements of real or complex numbers keeps its real part. -/
theorem realPart_toElement {k : NumberKind} (hk : k = .real ∨ k = .complex) {x : Number}
    {a : Element} (h : x.toElement k = .ok a) : a.realPart = x.nearest := by
  -- for these kinds a plain number becomes what the element with its value becomes
  have hplain {e : Element} (hx : x.nearest = e.realPart)
      (he : (item e).toElement k = x.toElement k) : a.realPart = x.nearest := by
    rw [hx]
    exact realPart_item hk (he.trans h)
  cases x with
  | truth b => exact hplain (e := .truth b) (by rw [nearest, Element.realPart]) rfl
  | int n =>
    exact hplain (e := .signed n) (by rw [nearest, Element.realPart])
      (by rcases hk with rfl | rfl <;> rfl)
  | refusal r =>
    exact hplain (e := .signed r.code) (by rw [nearest, Element.realPart])
      (by rcases hk with rfl | rfl <;> rfl)
  | float y => exact hplain (e := .real y) rfl rfl
  | complex re im => exact hplain (e := .complex re im) rfl rfl
  | item e | cell e => exact realPart_item hk h

/-- Where numbers meet as elements with real parts, the answer is that for these. -/
theorem decided_of_elements {x y : Number} {r : Bool}
    (hk : jointKind x y = .real ∨ jointKind x y = .complex)
    (h : (do
      let a ← x.toElement (jointKind x y)
      let b ← y.toElement (jointKind x y)
      if jointKind x y = .complex then return complexOrder Double.lt Double.lt a b
      else return a.realPart.lt b.realPart : Except Fault Bool) = .ok r) :
    Double.Decided x.nearest y.nearest r := by
  obtain ⟨a, ha, h⟩ := bind_eq_ok_iff.1 h
  obtain ⟨b, hb, h⟩ := bind_eq_ok_iff.1 h
  rw [← realPart_toElement hk ha, ← realPart_toElement hk hb]
  split at h
  · rw [← Except.ok.inj h, complexOrder]
    cases hlt : a.realPart.lt b.realPart with
    | true => exact .inl (by rw [hlt, Bool.true_or])
    | false =>
      cases heq : a.realPart.eq b.realPart with
      | false => exact .inl (by rw [hlt, Bool.false_or, Bool.false_and])
      | true =>
        cases a.imaginaryPart.lt b.imaginaryPart with
        | false => exact .inl hlt.symm
        | true => exact .inr ⟨rfl, Double.place?_of_eq heq⟩
  · exact .inl (Except.ok.inj h).symm

/-- An element and a double meet in a kind with real parts. -/
theorem jointKind_float {x : Number} {e : Element} (hx : x = item e ∨ x = cell e) (y : Double) :
    (jointKind x (float y) = .real ∨ jointKind x (float y) = .complex) ∧
      (jointKind (float y) x = .real ∨ jointKind (float y) x = .complex) := by
  rcases hx with rfl | rfl <;> cases e <;>
    simp [jointKind, element?, meetingKind, Element.kind, NumberKind.join]

section WithDouble

variable {a : Number} {x : Double} {p : Place} {r : Bool}

/-- A number is below a double if its nearest double is, provided that this is so for whole
numbers. -/
theorem decided_below (hx : x.place? = some p)
    (hwhole : ∀ n : Int, (Place.point (n * stepsPerUnit)).lt p = (Double.ofInt n).lt x)
    (h : a.lt (.float x) = .ok r) : Double.Decided a.nearest x r := by
  have hint (n : Int) (h : (int n).lt (float x) = .ok r) : r = (Double.ofInt n).lt x := by
    rw [lt_int_float, hx] at h
    rw [← hwhole]
    exact (Except.ok.inj h).symm
  cases a with
  | truth b => exact .inl (hint (truthNumber b) h)
  | int n => exact .inl (hint n h)
  | refusal c => exact .inl (hint c.code h)
  | float y => exact .inl (Except.ok.inj (h.symm.trans (lt_float y x)))
  | complex re im => cases h
  | item e => exact decided_of_elements (jointKind_float (.inl rfl) x).1 (by cases e <;> exact h)
  | cell e => exact decided_of_elements (jointKind_float (.inr rfl) x).1 (by cases e <;> exact h)

/-- The same for numbers above a double. -/
theorem decided_above (hx : x.place? = some p)
    (hwhole : ∀ n : Int, p.lt (Place.point (n * stepsPerUnit)) = x.lt (Double.ofInt n))
    (h : lt (.float x) a = .ok r) : Double.Decided x a.nearest r := by
  have hint (n : Int) (h : (float x).lt (int n) = .ok r) : r = x.lt (Double.ofInt n) := by
    rw [lt_float_int, hx] at h
    rw [← hwhole]
    exact (Except.ok.inj h).symm
  cases a with
  | truth b => exact .inl (hint (truthNumber b) h)
  | int n => exact .inl (hint n h)
  | refusal c => exact .inl (hint c.code h)
  | float y => exact .inl (Except.ok.inj (h.symm.trans (lt_float x y)))
  | complex re im => cases h
  | item e => exact decided_of_elements (jointKind_float (.inl rfl) x).2 (by cases e <;> exact h)
  | cell e => exact decided_of_elements (jointKind_float (.inr rfl) x).2 (by cases e <;> exact h)

theorem decided_below_zero (h : a.lt (.float Double.zero) = .ok r) :
    Double.Decided a.nearest Double.zero r := by
  refine decided_below Double.place?_zero (fun n => ?_) h
  rw [Double.ofInt_lt_zero]
  have hlt : n * (stepsPerUnit : Int) < 0 * stepsPerUnit ↔ n < 0 :=
    Int.mul_lt_mul_right steps_pos
  rw [Int.zero_mul] at hlt
  exact decide_eq_decide.2 hlt

theorem decided_above_one (h : lt (.float Double.one) a = .ok r) :
    Double.Decided Double.one a.nearest r := by
  refine decided_above Double.place?_one (fun n => ?_) h
  rw [Double.one_lt_ofInt]
  have hlt : 1 * (stepsPerUnit : Int) < n * stepsPerUnit ↔ 1 < n :=
    Int.mul_lt_mul_right steps_pos
  rw [Int.one_mul] at hlt
  exact decide_eq_decide.2 hlt

end WithDouble

end Number

/-! ## Values -/

namespace Value

/-- Of two operands without dimensions the elements meet. -/
theorem of_combineUpTo_below {id n : Nat} {v w x y c : Value} {k l : ElementKind}
    (hoperand : v.operand? = none) (hgrid : (v.isGrid || w.isGrid) = true)
    (hv : v.operandGrid = .ok ⟨k, false, [x]⟩) (hw : w.operandGrid = .ok ⟨l, false, [y]⟩)
    (h : combineUpTo id (n + 1) .below v w = .ok c) :
    elementwise (combineUpTo id n .below) .below (k = .any || l = .any) x y = .ok c := by
  rw [combineUpTo.eq_def] at h
  simp only [hoperand, hgrid, if_true, hv, hw] at h
  obtain ⟨_, ha, h⟩ := bind_eq_ok_iff.1 h
  cases ha
  obtain ⟨_, hb, h⟩ := bind_eq_ok_iff.1 h
  cases hb
  obtain ⟨_, hpairs, h⟩ := bind_eq_ok_iff.1 h
  cases hpairs
  obtain ⟨items, hitems, h⟩ := bind_eq_ok_iff.1 h
  obtain ⟨c', rest, hc, hrest, rfl⟩ := List.forall₂_cons_left_iff.1 (mapM_eq_ok_iff.1 hitems)
  cases hrest
  cases h
  exact hc

/-- What is alone in a value that can stand for a double: a text, or a number, with or without the
array that it is from. -/
inductive Leaf : Value → Option Number → Prop
  | text (s : String) : Leaf (text s) none
  | textItem (s : String) : Leaf (textItem s) none
  | bytes (s : String) : Leaf (bytes s) none
  | number {a b : Number} (h : b = a ∨ b = a.alone) : Leaf (number b) (some a)
  | cell (k : ElementKind) {v : Value} {o : Option Number} (h : Leaf v o) : Leaf (cell k v) o

/-- An answer is that of a comparison of two numbers, each with or without the array it is from. -/
def Compared (o o' : Option Number) (c : Value) : Prop :=
  ∃ (a b : Number) (r : Bool), Leaf (number a) o ∧ Leaf (number b) o' ∧ a.lt b = .ok r ∧
    c.truthy .blank = .ok r

theorem compared_of_onNumbers {a b : Number} {o o' : Option Number} {c : Value}
    (ha : Leaf (number a) o) (hb : Leaf (number b) o')
    (h : Failure.lift (Operator.below.onNumbers a b) = .ok c) : Compared o o' c := by
  obtain ⟨r, hr, hc⟩ : ∃ r, a.lt b = .ok r ∧ Operator.condition a b r = c := by
    cases hr : a.lt b with
    | error f =>
      rw [Operator.onNumbers, hr] at h
      cases h
    | ok r =>
      rw [Operator.onNumbers, hr] at h
      exact ⟨r, rfl, Except.ok.inj h⟩
  exact ⟨a, b, r, ha, hb, hr, hc ▸ truthy_condition a b r⟩

namespace Leaf

variable {v w : Value} {o o' : Option Number}

theorem operand? (h : Leaf v o) : v.operand? = none := by
  cases h <;> rfl

theorem native (h : Leaf v o) : Leaf v.native o := by
  cases h with
  | @number a b h =>
    have hnative : (Value.number b).native = .number b.alone := by cases b <;> rfl
    rw [hnative]
    refine .number (.inr ?_)
    rcases h with rfl | rfl
    · rfl
    · exact Number.alone_alone a
  | textItem s | text s => exact .text s
  | bytes s => exact .bytes s
  | cell k h => exact .cell k h

theorem toItem (h : Leaf v o) (k : ElementKind) :
    ∃ x, (Value.cell k v).toItem k = .ok x ∧ Leaf x o := by
  cases k with
  | numbers k => exact ⟨_, rfl, .cell _ h⟩
  | texts n =>
    cases h with
    | text s => exact ⟨_, rfl, .textItem _⟩
    | textItem s => exact ⟨_, rfl, .cell _ (.textItem s)⟩
    | bytes s => exact ⟨_, rfl, .cell _ (.bytes s)⟩
    | number a => exact ⟨_, rfl, .cell _ (.number a)⟩
    | cell l h => exact ⟨_, rfl, .cell _ (.cell l h)⟩
  | any => exact ⟨v, rfl, h⟩

theorem operandGrid (h : Leaf v o) : ∃ k x, v.operandGrid = .ok ⟨k, false, [x]⟩ ∧ Leaf x o := by
  cases h with
  | text s | textItem s => exact ⟨_, _, rfl, .textItem _⟩
  | bytes s => exact ⟨_, _, rfl, .bytes s⟩
  | number a => exact ⟨_, _, rfl, .number a⟩
  | @cell k v o h =>
    obtain ⟨x, hx, hleaf⟩ := h.toItem k
    refine ⟨k, x, ?_, hleaf⟩
    show (do
      let y ← (Value.cell k v).toItem k
      return { kind := k, line := false, items := [y] } : Except Fault Grid) = _
    rw [hx]
    rfl

/-- Elements that are not of any kind are compared as numbers or as texts. -/
theorem of_elementwise {within : Value → Value → Except Failure Value} {x y c : Value}
    (hx : Leaf x o) (hy : Leaf y o') (hnumber : ¬(o = none ∧ o' = none))
    (h : elementwise within .below false x y = .ok c) : Compared o o' c := by
  cases hx with
  | number ha =>
    cases hy with
    | number hb => exact compared_of_onNumbers (.number ha) (.number hb) h
    | _ => cases h
  | cell => cases hy <;> cases h
  | _ =>
    cases hy with
    | number _ | cell | bytes => cases h
    | _ => exact absurd ⟨rfl, rfl⟩ hnumber

/-- Values that are from no array are compared as numbers or as texts. -/
theorem of_plainly {within : Value → Value → Except Failure Value} {c : Value}
    (hv : Leaf v o) (hw : Leaf w o') (hnumber : ¬(o = none ∧ o' = none))
    (h : plainly within .below v w = .ok c) : Compared o o' c := by
  cases hv with
  | number ha =>
    cases hw with
    | number hb => exact compared_of_onNumbers (.number ha) (.number hb) h
    | _ => cases h
  | cell => cases hw <;> cases h
  | _ =>
    cases hw with
    | number _ | cell => cases h
    | _ => exact absurd ⟨rfl, rfl⟩ hnumber

/-- If one of two values holds a number, the answer is that of a comparison of two numbers. -/
theorem of_combineUpTo {id n : Nat} {c : Value} (hv : Leaf v o) (hw : Leaf w o')
    (hnumber : ¬(o = none ∧ o' = none)) (h : combineUpTo id n .below v w = .ok c) :
    Compared o o' c := by
  induction n generalizing v w c with
  | zero => cases h
  | succ n ih =>
    by_cases hgrid : (v.isGrid || w.isGrid) = true
    · obtain ⟨k, x, hk, hx⟩ := hv.operandGrid
      obtain ⟨l, y, hl, hy⟩ := hw.operandGrid
      have hc := of_combineUpTo_below hv.operand? hgrid hk hl h
      cases hany : (decide (k = .any) || decide (l = .any)) with
      | true =>
        rw [hany] at hc
        obtain ⟨z, hz, hc⟩ := bind_eq_ok_iff.1 hc
        obtain ⟨r, hr, hc⟩ := bind_eq_ok_iff.1 hc
        cases hc
        obtain ⟨a, b, r', ha, hb, hlt, hr'⟩ := ih hx.native hy.native hz
        cases (Failure.lift_eq_ok.1 hr).symm.trans hr'
        exact ⟨a, b, r, ha, hb, hlt, truthy_truth r⟩
      | false =>
        rw [hany] at hc
        exact of_elementwise hx hy hnumber hc
    · rw [combineUpTo.eq_def] at h
      simp only [hv.operand?, hw.operand?, if_neg hgrid] at h
      exact of_plainly hv hw hnumber h

/-- A double is alone in itself. -/
theorem eq_of_float {b : Number} {x : Double} (h : Leaf (Value.number b) (some (.float x))) :
    b = .float x := by
  cases h with
  | number h =>
    rcases h with rfl | rfl <;> rfl

theorem nearest_eq {a : Number} {o : Option Number} {d : Double} (h : Leaf (Value.number a) o)
    (ho : ∀ a, o = some a → a.nearest = d) : a.nearest = d := by
  cases h with
  | number h =>
    rcases h with rfl | rfl
    · exact ho _ rfl
    · exact (Number.nearest_alone _).trans (ho _ rfl)

end Leaf

/-- What stands for a double is a text or a number near that double. -/
theorem leaf_of_toDouble {v : Value} {d : Double} (h : v.toDouble = .ok d) :
    ∃ o, Leaf v o ∧ ∀ a, o = some a → a.nearest = d := by
  fun_induction toDouble v with
  | case1 s => exact ⟨none, .text s, fun _ ha => by cases ha⟩
  | case2 s => exact ⟨none, .textItem s, fun _ ha => by cases ha⟩
  | case3 s => exact ⟨none, .bytes s, fun _ ha => by cases ha⟩
  | case4 x =>
    refine ⟨some x, .number (.inl rfl), fun a ha => ?_⟩
    cases ha
    exact Number.nearest_of_toDouble h
  | case5 k v ih =>
    obtain ⟨o, hleaf, ho⟩ := ih h
    exact ⟨o, .cell k hleaf, ho⟩
  | case6 => cases h

theorem compared_of_holds {v w : Value} {o o' : Option Number} {r : Bool} (hv : Leaf v o)
    (hw : Leaf w o') (hnumber : ¬(o = none ∧ o' = none)) (h : holds .below v w = .ok r) :
    ∃ a b : Number, Leaf (number a) o ∧ Leaf (number b) o' ∧ a.lt b = .ok r := by
  obtain ⟨c, hc, h⟩ := bind_eq_ok_iff.1 h
  rw [combine] at hc
  obtain ⟨a, b, r', ha, hb, hlt, hr'⟩ := hv.of_combineUpTo hw hnumber hc
  cases (Failure.lift_eq_ok.1 h).symm.trans hr'
  exact ⟨a, b, ha, hb, hlt⟩

theorem decided_below_zero {v : Value} {d : Double} {r : Bool} (hd : v.toDouble = .ok d)
    (h : holds .below v (float Double.zero) = .ok r) : Double.Decided d Double.zero r := by
  obtain ⟨o, hv, ho⟩ := leaf_of_toDouble hd
  obtain ⟨a, b, ha, hb, hlt⟩ := compared_of_holds hv (.number (.inl rfl)) (fun h => nomatch h.2) h
  rw [hb.eq_of_float] at hlt
  rw [← ha.nearest_eq ho]
  exact Number.decided_below_zero hlt

theorem decided_above_one {v : Value} {d : Double} {r : Bool} (hd : v.toDouble = .ok d)
    (h : holds .below (float Double.one) v = .ok r) : Double.Decided Double.one d r := by
  obtain ⟨o, hv, ho⟩ := leaf_of_toDouble hd
  obtain ⟨a, b, ha, hb, hlt⟩ := compared_of_holds (.number (.inl rfl)) hv (fun h => nomatch h.1) h
  rw [ha.eq_of_float] at hlt
  rw [← hb.nearest_eq ho]
  exact Number.decided_above_one hlt

end Value

end Milp

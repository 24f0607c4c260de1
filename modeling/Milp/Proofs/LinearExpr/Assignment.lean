import Milp.Proofs.Comparison
import Milp.Proofs.LinearExpr.Coefficient
import Mathlib.Algebra.BigOperators.Ring.Finset
import Mathlib.Algebra.Order.Field.Rat
import Mathlib.Tactic.Ring
set_option autoImplicit false

/-! # The value of an expression

An assignment gives each variable a number, and an expression the sum of its products. Written as a
sum over any variables that include those with a term (`LinearExpr.valueAt_eq_sum`), this value goes
along with the coefficients: where these are a combination of the coefficients of two expressions, so
is the value (`LinearExpr.valueAt_of_coefficients`). Each operator combines coefficients in such a way
as long as nothing is rounded (`LinearExpr.valueAt_plus` and its siblings). -/

namespace Milp

open Double (Alike)

/-! ## Exact numbers -/

/-- The rational number at a place between the infinities. -/
def Place.value? : Place → Option ℚ
  | point n => some (n / stepsPerUnit)
  | _ => none

namespace Double

variable {x y : Double}

def value? (x : Double) : Option ℚ := x.place?.bind Place.value?

/-- The rational number that a finite double is. -/
def value (x : Double) : ℚ := x.value?.getD 0

theorem value?_eq_of_alike (h : Alike x y) : x.value? = y.value? := by
  rw [value?, value?, alike_iff.1 h]

theorem value_eq_of_alike (h : Alike x y) : x.value = y.value := by
  rw [value, value, value?_eq_of_alike h]

theorem value_eq_zero (h : x.eq zero = true) : x.value = 0 := by
  rw [value, value?, eq_zero_iff.1 h]
  show ((0 : Int) : ℚ) / stepsPerUnit = 0
  rw [Int.cast_zero, zero_div]

theorem value?_neg (x : Double) : (-x).value? = x.value?.map (-·) := by
  cases x with
  | nan => rfl
  | infinite s => cases s <;> rfl
  | finite s n valid =>
    have hplace : (finite s n valid).place? = some (.point (signed s n)) := rfl
    rw [value?, value?, place?_neg_finite, hplace]
    show some (((-signed s n : Int) : ℚ) / stepsPerUnit) =
      some (-((signed s n : ℚ) / stepsPerUnit))
    rw [Int.cast_neg, neg_div]

theorem value_neg (x : Double) : (-x).value = -x.value := by
  rw [value, value, value?_neg]
  cases x.value? with
  | none => exact neg_zero.symm
  | some q => rfl

theorem isFinite_of_value? {q : ℚ} (h : x.value? = some q) : x.isFinite = true := by
  obtain ⟨p, hp, hq⟩ := Option.bind_eq_some_iff.1 h
  cases p with
  | point n => exact isFinite_iff.2 ⟨n, hp⟩
  | _ => cases hq

end Double

namespace Number

/-- The rational number that a number is; an array may hold it. -/
def value? (x : Number) : Option ℚ := x.place?.bind Place.value?

theorem value?_int (n : Int) : (int n).value? = some (n : ℚ) := by
  have hsteps : (stepsPerUnit : ℚ) ≠ 0 := Nat.cast_ne_zero.2 (Nat.ne_of_gt stepsPerUnit_pos)
  show some (((n * stepsPerUnit : Int) : ℚ) / stepsPerUnit) = _
  rw [Int.cast_mul, Int.cast_natCast, mul_div_cancel_right₀ _ hsteps]

/-- The opposite of a plain number is a plain number, and is exact. -/
theorem value?_of_neg {x y : Number} {q : ℚ} (hx : x.element? = none) (hq : x.value? = some q)
    (h : x.neg = .ok y) : y.element? = none ∧ y.value? = some (-q) := by
  have hwhole {n : Int} (hn : (int n).value? = some q) : (int (-n)).value? = some (-q) := by
    rw [value?_int] at hn ⊢
    rw [← Option.some.inj hn, Int.cast_neg]
  cases x with
  | item _ | cell _ => cases hx
  | complex _ _ => cases hq
  | truth b =>
    cases h
    exact ⟨rfl, hwhole hq⟩
  | int n =>
    cases h
    exact ⟨rfl, hwhole hq⟩
  | refusal r =>
    cases h
    exact ⟨rfl, hwhole hq⟩
  | float x =>
    cases h
    have hx : x.value? = some q := hq
    refine ⟨rfl, ?_⟩
    show (-x).value? = _
    rw [Double.value?_neg, hx]
    rfl

end Number

namespace Operator

/-- What an operator does on rational numbers; comparisons give none. -/
def rational? : Operator → Option (ℚ → ℚ → ℚ)
  | plus => some (· + ·)
  | minus => some (· - ·)
  | times => some (· * ·)
  | _ => none

/-- An operator gives the exact number. -/
def ExactOn (op : Operator) (x y : Number) : Prop :=
  match op.rational?, x.value?, y.value?, op.onNumbers x y with
  | some f, some p, some q, .ok (.number z) => z.value? = some (f p q)
  | _, _, _, _ => False

instance (op : Operator) (x y : Number) : Decidable (op.ExactOn x y) := by
  unfold ExactOn
  split <;> infer_instance

theorem ExactOn.exists_value {op : Operator} {x y : Number} (h : op.ExactOn x y) :
    ∃ f p q z, op.rational? = some f ∧ x.value? = some p ∧ y.value? = some q ∧
      op.onNumbers x y = .ok (.number z) ∧ z.value? = some (f p q) := by
  unfold ExactOn at h
  split at h
  · exact ⟨_, _, _, _, ‹_›, ‹_›, ‹_›, ‹_›, h⟩
  · exact h.elim

end Operator

/-! ## Values at an assignment -/

namespace LinearExpr

variable {a b e : LinearExpr} {σ : Nat → ℚ}

/-- The value of an expression, where each variable has the number of its identity. -/
def valueAt (σ : Nat → ℚ) (e : LinearExpr) : ℚ := (e.terms.map fun t => t.2.value * σ t.id).sum

theorem value_total_of_mem {t : Term} (h : t ∈ e.terms) : (total e.terms t.id).value = t.2.value := by
  rw [← coefficient_of_mem h]
  exact (Double.value_eq_of_alike (coefficient_alike_total e t.1)).symm

/-- Variables without a term may be counted in. -/
theorem valueAt_eq_sum (e : LinearExpr) (σ : Nat → ℚ) {S : Finset Nat} (hS : ∀ id ∈ e.ids, id ∈ S) :
    e.valueAt σ = ∑ id ∈ S, (total e.terms id).value * σ id := by
  have hterms : e.valueAt σ = (e.ids.map fun id => (total e.terms id).value * σ id).sum := by
    rw [ids, List.map_map, valueAt]
    refine congrArg List.sum (List.map_congr_left fun t ht => ?_)
    rw [← value_total_of_mem ht]
    rfl
  rw [hterms, ← List.sum_toFinset _ e.canonical.once]
  refine Finset.sum_subset (fun id hid => hS id (List.mem_toFinset.1 hid)) fun id _ hid => ?_
  rw [total_of_not_mem (fun h => hid (List.mem_toFinset.2 h)),
    Double.value_eq_zero Double.zero_eq_zero, zero_mul]

/-- Values are combined as coefficients are. -/
theorem valueAt_of_coefficients {m n : ℚ}
    (h : ∀ v, (e.coefficient v).value =
      m * (a.coefficient v).value + n * (b.coefficient v).value) :
    e.valueAt σ = m * a.valueAt σ + n * b.valueAt σ := by
  have htotal (id : Nat) : (total e.terms id).value =
      m * (total a.terms id).value + n * (total b.terms id).value := by
    obtain ⟨v, rfl⟩ := exists_var id
    have hv (e : LinearExpr) : (total e.terms v.id).value = (e.coefficient v).value :=
      (Double.value_eq_of_alike (coefficient_alike_total e v)).symm
    rw [hv, hv, hv, h]
  let S : Finset Nat := e.ids.toFinset ∪ (a.ids.toFinset ∪ b.ids.toFinset)
  have hmem (id : Nat) : id ∈ S ↔ id ∈ e.ids ∨ id ∈ a.ids ∨ id ∈ b.ids := by simp [S]
  rw [valueAt_eq_sum e σ (S := S) fun id hid => (hmem id).2 (.inl hid),
    valueAt_eq_sum a σ (S := S) fun id hid => (hmem id).2 (.inr (.inl hid)),
    valueAt_eq_sum b σ (S := S) fun id hid => (hmem id).2 (.inr (.inr hid)),
    Finset.mul_sum, Finset.mul_sum, ← Finset.sum_add_distrib]
  refine Finset.sum_congr rfl fun id _ => ?_
  rw [htotal]
  ring

theorem coefficient_congr {v w : Var} (h : v.id = w.id) (e : LinearExpr) :
    e.coefficient v = e.coefficient w := by
  rw [coefficient, coefficient, h]

/-- A variable has a term in one of two expressions, or the coefficient zero in both. -/
theorem exists_term_or (a b : LinearExpr) (v : Var) :
    (∃ t ∈ a.terms ++ b.terms, t.id = v.id) ∨
      (a.coefficient v = Double.zero ∧ b.coefficient v = Double.zero) := by
  by_cases h : ∃ t ∈ a.terms ++ b.terms, t.id = v.id
  · exact .inl h
  · have habsent {e : LinearExpr} (he : ∀ t ∈ e.terms, t ∈ a.terms ++ b.terms) :
        e.coefficient v = Double.zero := by
      have hnone : e.terms.find? (·.id = v.id) = none := by
        refine List.find?_eq_none.2 fun t ht hid => h ⟨t, he t ht, ?_⟩
        simpa using hid
      rw [coefficient, hnone]
    exact .inr ⟨habsent fun t => List.mem_append_left _, habsent fun t => List.mem_append_right _⟩

end LinearExpr

namespace Operator

/-- What an operator without rounding does to two doubles. -/
theorem ExactOn.value_double {op : Operator} {o : Number.Operation} {f : ℚ → ℚ → ℚ} {x y : Double}
    (h : op.ExactOn (.float x) (.float y)) (hf : op.rational? = some f)
    (ho : op.onNumbers (.float x) (.float y) = .ok (.number (.float (o.double x y)))) :
    (o.double x y).value = f x.value y.value := by
  obtain ⟨f', p, q, z, hf', hp, hq, hz, hvalue⟩ := h.exists_value
  obtain rfl : f = f' := Option.some.inj (hf.symm.trans hf')
  obtain rfl : Number.float (o.double x y) = z :=
    Value.number.inj (Except.ok.inj (ho.symm.trans hz))
  have hx : x.value? = some p := hp
  have hy : y.value? = some q := hq
  have hresult : (o.double x y).value? = some (f p q) := hvalue
  rw [Double.value, Double.value, Double.value, hx, hy, hresult]
  rfl

end Operator

namespace LinearExpr

variable {a b e : LinearExpr} {σ : Nat → ℚ}

/-- An expression whose coefficients are sums or differences, none of them rounded. -/
theorem valueAt_of_exact {op : Operator} {o : Number.Operation} {f : ℚ → ℚ → ℚ} {n : ℚ}
    (hf : op.rational? = some f) (hn : ∀ p q, f p q = p + n * q)
    (ho : ∀ x y, op.onNumbers (.float x) (.float y) = .ok (.number (.float (o.double x y))))
    (hzero : (o.double Double.zero Double.zero).value = 0)
    (he : ∀ v, Alike (e.coefficient v) (o.double (a.coefficient v) (b.coefficient v)))
    (h : ∀ t ∈ a.terms ++ b.terms,
      op.ExactOn (.float (a.coefficient t.1)) (.float (b.coefficient t.1))) :
    e.valueAt σ = f (a.valueAt σ) (b.valueAt σ) := by
  rw [valueAt_of_coefficients (m := 1) (n := n) (a := a) (b := b), one_mul, hn]
  intro v
  rw [Double.value_eq_of_alike (he v), one_mul]
  rcases exists_term_or a b v with ⟨t, ht, hid⟩ | ⟨ha, hb⟩
  · have hexact := (h t ht).value_double hf (ho _ _)
    rw [coefficient_congr hid, coefficient_congr hid, hn] at hexact
    exact hexact
  · rw [ha, hb, hzero, Double.value_eq_zero Double.zero_eq_zero, mul_zero, add_zero]

theorem valueAt_plus
    (h : ∀ t ∈ a.terms ++ b.terms,
      Operator.plus.ExactOn (.float (a.coefficient t.1)) (.float (b.coefficient t.1))) :
    (a.plus b).valueAt σ = a.valueAt σ + b.valueAt σ := by
  have hzero : (Double.zero + Double.zero).value = 0 :=
    Double.value_eq_zero ((Double.add_alike_self _ Double.zero_eq_zero).eq_zero.trans
      Double.zero_eq_zero)
  exact valueAt_of_exact (o := .sum) (n := 1) rfl (fun p q => by rw [one_mul])
    (fun _ _ => rfl) hzero (coefficient_plus a b) h

theorem valueAt_minus
    (h : ∀ t ∈ a.terms ++ b.terms,
      Operator.minus.ExactOn (.float (a.coefficient t.1)) (.float (b.coefficient t.1))) :
    (a.minus b).valueAt σ = a.valueAt σ - b.valueAt σ := by
  have hzero : (Number.Operation.minus Double.zero Double.zero).value = 0 :=
    Double.value_eq_zero (Double.add_neg_eq_zero (Double.isFinite_iff.2 ⟨0, Double.place?_zero⟩))
  exact valueAt_of_exact (o := .difference) (n := -1) rfl (fun p q => by ring)
    (fun _ _ => rfl) hzero (coefficient_minus a b) h

theorem valueAt_negate (e : LinearExpr) (σ : Nat → ℚ) : e.negate.valueAt σ = -e.valueAt σ := by
  rw [valueAt_of_coefficients (m := -1) (n := 0) (a := e) (b := e)]
  · ring
  · intro v
    rw [Double.value_eq_of_alike (coefficient_negate e v), Double.value_neg]
    ring

theorem valueAt_ofVar (v : Var) (σ : Nat → ℚ) : (ofVar v).valueAt σ = σ v.id := by
  have hone : Double.one.value = 1 := by
    rw [Double.value, Double.value?, Double.place?_one]
    exact div_self (Nat.cast_ne_zero.2 (Nat.ne_of_gt stepsPerUnit_pos))
  rw [valueAt, terms_ofVar, List.map_singleton, List.sum_singleton, hone, one_mul]
  rfl

end LinearExpr

namespace Number

theorem isFinite_of_doubleOf {n : Int} {d : Double} (h : doubleOf n = .ok d) :
    d.isFinite = true := by
  rw [doubleOf] at h
  split at h
  · rename_i hfinite
    exact Except.ok.inj h ▸ hfinite
  · cases h

theorem ne_complex_of_value? {x : Number} {q : ℚ} (hq : x.value? = some q) (re im : Double) :
    x ≠ complex re im := by
  rintro rfl
  cases hq

/-- A plain number between the infinities converts to a double, if it is not too large. -/
theorem converts_of_value? {x : Number} {q : ℚ} {d : Double} (hx : x.element? = none)
    (hq : x.value? = some q) (hd : x.toDouble = .ok d) : x.Converts d := by
  refine ⟨hd, ?_, fun e he => by cases hx.symm.trans he⟩
  cases x with
  | truth b =>
    have hdouble : Double.ofInt (truthNumber b) = d := Except.ok.inj hd
    rw [← hdouble]
    cases b <;> decide +kernel
  | int n => exact isFinite_of_doubleOf hd
  | refusal r => exact isFinite_of_doubleOf hd
  | float y =>
    cases hd
    exact Double.isFinite_of_value? hq
  | complex re im => cases hd
  | item e | cell e => cases hx

end Number

namespace LinearExpr

variable {e p : LinearExpr} {σ : Nat → ℚ}

/-- The product of a coefficient with a plain number, not rounded. -/
theorem value_mul_of_exact {x : Number} {q : ℚ} {c d : Double} (hx : x.element? = none)
    (hq : x.value? = some q) (hd : x.toDouble = .ok d)
    (h : Operator.times.ExactOn (.float c) x) : (c * d).value = c.value * q := by
  obtain ⟨f, r, s, z, hf, hr, hs, hz, hvalue⟩ := h.exists_value
  obtain rfl : (fun p q : ℚ => p * q) = f := Option.some.inj hf
  obtain rfl : q = s := Option.some.inj (hq.symm.trans hs)
  have hproduct : Operator.times.onNumbers (.float c) x = .ok (.number (.float (c * d))) := by
    rw [Operator.onNumbers, Number.mul_plain hx (Number.ne_complex_of_value? hq), hd]
    rfl
  obtain rfl : Number.float (c * d) = z :=
    Value.number.inj (Except.ok.inj (hproduct.symm.trans hz))
  have hc : c.value? = some r := hr
  have hresult : (c * d).value? = some (r * q) := hvalue
  rw [Double.value, Double.value, hc, hresult]
  rfl

theorem valueAt_timesNumber {x : Number} {q : ℚ} (hx : x.element? = none)
    (hq : x.value? = some q) (hp : e.timesNumber x = .ok p)
    (h : ∀ t ∈ e.terms, Operator.times.ExactOn (.float t.2) x) :
    p.valueAt σ = e.valueAt σ * q := by
  cases hterms : e.terms with
  | nil =>
    -- a number is not converted if there is nothing to multiply
    have hempty : p.terms = [] := by
      rw [timesNumber, hterms] at hp
      exact congrArg terms (Except.ok.inj hp).symm
    rw [valueAt, valueAt, hterms, hempty]
    exact (zero_mul q).symm
  | cons t rest =>
    obtain ⟨d, hd⟩ : ∃ d, x.toDouble = .ok d := by
      obtain ⟨-, -, -, z, -, -, -, hz, -⟩ := (h t (hterms ▸ List.mem_cons_self)).exists_value
      rw [Operator.onNumbers, Number.mul_plain hx (Number.ne_complex_of_value? hq)] at hz
      cases hd : x.toDouble with
      | ok d => exact ⟨d, rfl⟩
      | error f =>
        rw [hd] at hz
        cases hz
    have hconverts := Number.converts_of_value? hx hq hd
    obtain ⟨p', hp', hcoefficient⟩ := coefficient_timesNumber hconverts e
    obtain rfl : p = p' := Except.ok.inj (hp.symm.trans hp')
    rw [valueAt_of_coefficients (m := q) (n := 0) (a := e) (b := e)]
    · ring
    · intro v
      rw [Double.value_eq_of_alike (hcoefficient v)]
      rcases exists_term_or e e v with ⟨t, ht, hid⟩ | ⟨hzero, -⟩
      · have ht : t ∈ e.terms := by simpa using ht
        rw [← coefficient_congr hid, coefficient_of_mem ht, value_mul_of_exact hx hq hd (h t ht)]
        ring
      · rw [hzero, Double.value_eq_zero Double.zero_eq_zero, Double.value_eq_zero
          (Double.zero_mul_eq_zero Double.zero_eq_zero hconverts.finite)]
        ring

end LinearExpr

end Milp

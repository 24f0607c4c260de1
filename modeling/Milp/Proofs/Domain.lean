import Milp.Proofs.Comparison
import Milp.Proofs.Variable
import Mathlib.Data.EReal.Basic
set_option autoImplicit false

/-! # Bounds that are rounded towards the inside

What a caller asks for as bounds is an interval of real numbers, and a domain cuts it to the numbers
between its infinities. The bound that is used on each side lets the same numbers of the domain through
as the one that was asked for and the infinity do together (`Domain.lowerFor_integer` and its
siblings): whole numbers for an integer variable, real numbers for a continuous one. It is one of those
numbers itself, or infinite on the wrong side. So the bounds that are used cross exactly if nothing is
left of the interval, and nothing else of it is lost (`Var.ofValues_rounds`). -/

namespace Milp

/-! ## Places on the extended real line -/

namespace Place

noncomputable def toEReal : Place → EReal
  | lowest => ⊥
  | point n => ((n / stepsPerUnit : ℝ) : EReal)
  | highest => ⊤

theorem lt_iff {p q : Place} : p.lt q = true ↔ p.toEReal < q.toEReal := by
  have hpos : (0 : ℝ) < stepsPerUnit := Nat.cast_pos.2 stepsPerUnit_pos
  cases p with
  | lowest =>
    cases q with
    | lowest => exact iff_of_false Bool.false_ne_true not_lt_bot
    | point n => exact iff_of_true rfl (EReal.bot_lt_coe _)
    | highest => exact iff_of_true rfl bot_lt_top
  | point m =>
    cases q with
    | lowest => exact iff_of_false Bool.false_ne_true not_lt_bot
    | point n =>
      show decide (m < n) = true ↔
        ((m / stepsPerUnit : ℝ) : EReal) < ((n / stepsPerUnit : ℝ) : EReal)
      rw [decide_eq_true_iff, EReal.coe_lt_coe_iff, div_lt_div_iff_of_pos_right hpos, Int.cast_lt]
    | highest => exact iff_of_true rfl (EReal.coe_lt_top _)
  | highest =>
    have hfalse : Place.highest.lt q = false := by cases q <;> rfl
    rw [hfalse]
    exact iff_of_false Bool.false_ne_true not_top_lt

theorem le_iff {p q : Place} : p.le q = true ↔ p.toEReal ≤ q.toEReal := by
  rw [le, Bool.not_eq_true', ← Bool.not_eq_true, lt_iff, not_lt]

theorem toEReal_whole (n : Int) : (point (n * stepsPerUnit)).toEReal = ((n : ℝ) : EReal) := by
  have hne : (stepsPerUnit : ℝ) ≠ 0 := Nat.cast_ne_zero.2 (Nat.ne_of_gt stepsPerUnit_pos)
  rw [toEReal, Int.cast_mul, Int.cast_natCast, mul_div_cancel_right₀ _ hne]

theorem eq_highest_iff {p : Place} : p.toEReal = ⊤ ↔ p = highest := by
  cases p with
  | lowest => exact iff_of_false bot_ne_top Place.noConfusion
  | point n => exact iff_of_false (EReal.coe_ne_top _) Place.noConfusion
  | highest => exact iff_of_true rfl rfl

end Place

namespace Number

variable {x y : Number} {p q : Place} {r : ℝ}

/-- Whether a number is at most a real number. -/
def AtMost (x : Number) (r : ℝ) : Prop := ∃ p, x.place? = some p ∧ p.toEReal ≤ r

/-- Whether a number is at least a real number. -/
def AtLeast (x : Number) (r : ℝ) : Prop := ∃ p, x.place? = some p ∧ (r : EReal) ≤ p.toEReal

/-- The real numbers between two numbers. -/
def between (x y : Number) : Set ℝ := {r | x.AtMost r ∧ y.AtLeast r}

theorem atMost_iff (h : x.place? = some p) : x.AtMost r ↔ p.toEReal ≤ r :=
  ⟨fun ⟨_, hp, hle⟩ => Option.some.inj (h.symm.trans hp) ▸ hle, fun hle => ⟨p, h, hle⟩⟩

theorem atLeast_iff (h : x.place? = some p) : x.AtLeast r ↔ (r : EReal) ≤ p.toEReal :=
  ⟨fun ⟨_, hp, hle⟩ => Option.some.inj (h.symm.trans hp) ▸ hle, fun hle => ⟨p, h, hle⟩⟩

theorem atMost_whole_iff {n : Int} (h : x.whole? = some n) : x.AtMost r ↔ n ≤ r := by
  rw [atMost_iff (place?_of_whole? h), Place.toEReal_whole, EReal.coe_le_coe_iff]

theorem atLeast_whole_iff {n : Int} (h : x.whole? = some n) : x.AtLeast r ↔ r ≤ n := by
  rw [atLeast_iff (place?_of_whole? h), Place.toEReal_whole, EReal.coe_le_coe_iff]

/-- What a caller may ask for as a bound: a whole number of any size, or a double that is a number. -/
def IsBound (x : Number) : Prop := (∃ n, x = .int n) ∨ ∃ d : Double, x = .float d ∧ d ≠ .nan

theorem IsBound.element? (h : x.IsBound) : x.element? = none := by
  rcases h with ⟨n, rfl⟩ | ⟨d, rfl, -⟩ <;> rfl

theorem IsBound.isNumber (h : x.IsBound) : (Value.number x).isNumber = true := by
  rcases h with ⟨n, rfl⟩ | ⟨d, rfl, -⟩ <;> rfl

theorem IsBound.exists_place (h : x.IsBound) : ∃ p, x.place? = some p := by
  rcases h with ⟨n, rfl⟩ | ⟨d, rfl, hd⟩
  · exact ⟨_, rfl⟩
  · cases d with
    | nan => exact absurd rfl hd
    | infinite s => exact ⟨_, rfl⟩
    | finite s m valid => exact ⟨_, rfl⟩

/-! ## Rounding to whole numbers -/

theorem ceil_steps_le_iff (a n : Int) : -(-a).fdiv stepsPerUnit ≤ n ↔ a ≤ n * stepsPerUnit := by
  rw [Int.fdiv_eq_ediv_of_nonneg _ (Int.le_of_lt steps_pos), neg_le,
    Int.le_ediv_iff_mul_le steps_pos, Int.neg_mul, neg_le_neg_iff]

theorem le_floor_steps_iff (a n : Int) : n ≤ a.fdiv stepsPerUnit ↔ n * stepsPerUnit ≤ a := by
  rw [Int.fdiv_eq_ediv_of_nonneg _ (Int.le_of_lt steps_pos), Int.le_ediv_iff_mul_le steps_pos]

theorem atMost_point_iff {a n : Int} (h : x.place? = some (.point a)) :
    x.AtMost n ↔ a ≤ n * stepsPerUnit := by
  have hpos : (0 : ℝ) < stepsPerUnit := Nat.cast_pos.2 stepsPerUnit_pos
  rw [atMost_iff h, Place.toEReal, EReal.coe_le_coe_iff, div_le_iff₀ hpos, ← Int.cast_natCast,
    ← Int.cast_mul, Int.cast_le]

theorem atLeast_point_iff {a n : Int} (h : x.place? = some (.point a)) :
    x.AtLeast n ↔ n * stepsPerUnit ≤ a := by
  have hpos : (0 : ℝ) < stepsPerUnit := Nat.cast_pos.2 stepsPerUnit_pos
  rw [atLeast_iff h, Place.toEReal, EReal.coe_le_coe_iff, le_div_iff₀ hpos, ← Int.cast_natCast,
    ← Int.cast_mul, Int.cast_le]

/-- A bound that is not lower than everything is rounded up to the least whole number not below it,
unless nothing is above it. -/
theorem ceil_cases (hx : x.IsBound) (hlow : x.place? ≠ some .lowest) :
    (∃ k, x.ceil = .ok k ∧ ∀ n : Int, k ≤ n ↔ x.AtMost n) ∨
      (∃ f, x.ceil = .error f) ∧ ∀ r, ¬x.AtMost r := by
  rcases hx with ⟨k, rfl⟩ | ⟨d, rfl, hd⟩
  · refine .inl ⟨k, rfl, fun n => ?_⟩
    rw [atMost_whole_iff rfl, Int.cast_le]
  · cases d with
    | nan => exact absurd rfl hd
    | infinite s =>
      cases s
      · refine .inr ⟨⟨_, rfl⟩, fun r => ?_⟩
        rw [atMost_iff (p := .highest) rfl]
        exact not_le.2 (EReal.coe_lt_top r)
      · exact absurd rfl hlow
    | finite s m valid =>
      refine .inl ⟨-(-Double.signed s m).fdiv stepsPerUnit, rfl, fun n => ?_⟩
      rw [ceil_steps_le_iff, atMost_point_iff rfl]

theorem floor_cases (hx : x.IsBound) (hhigh : x.place? ≠ some .highest) :
    (∃ k, x.floor = .ok k ∧ ∀ n : Int, n ≤ k ↔ x.AtLeast n) ∨
      (∃ f, x.floor = .error f) ∧ ∀ r, ¬x.AtLeast r := by
  rcases hx with ⟨k, rfl⟩ | ⟨d, rfl, hd⟩
  · refine .inl ⟨k, rfl, fun n => ?_⟩
    rw [atLeast_whole_iff rfl, Int.cast_le]
  · cases d with
    | nan => exact absurd rfl hd
    | infinite s =>
      cases s
      · exact absurd rfl hhigh
      · refine .inr ⟨⟨_, rfl⟩, fun r => ?_⟩
        rw [atLeast_iff (p := .lowest) rfl]
        exact not_le.2 (EReal.bot_lt_coe r)
    | finite s m valid =>
      refine .inl ⟨(Double.signed s m).fdiv stepsPerUnit, rfl, fun n => ?_⟩
      rw [le_floor_steps_iff, atLeast_point_iff rfl]

/-! ## Infinity -/

theorem place?_infinity :
    (float infinity).place? = some (.point ((power 10 20 : Nat) * stepsPerUnit)) := by
  decide +kernel

theorem place?_neg_infinity :
    (float (-infinity)).place? = some (.point (-(power 10 20 : Nat) * stepsPerUnit)) := by
  decide +kernel

theorem cast_power : (((power 10 20 : Nat) : Int) : ℝ) = 10 ^ 20 := by
  rw [Int.cast_natCast, power, Nat.pow_eq, Nat.cast_pow, Nat.cast_ofNat]

theorem atLeast_infinity_iff : (float infinity).AtLeast r ↔ r ≤ 10 ^ 20 := by
  rw [atLeast_iff place?_infinity, Place.toEReal_whole, EReal.coe_le_coe_iff, cast_power]

theorem atMost_neg_infinity_iff : (float (-infinity)).AtMost r ↔ -10 ^ 20 ≤ r := by
  rw [atMost_iff place?_neg_infinity, Place.toEReal_whole, EReal.coe_le_coe_iff, Int.cast_neg,
    cast_power]

/-- A number that is at most another one is at most all that the other one is at most. -/
theorem AtMost.of_le (hp : x.place? = some p) (hq : y.place? = some q) (hle : p.toEReal ≤ q.toEReal)
    (h : y.AtMost r) : x.AtMost r :=
  (atMost_iff hp).2 (hle.trans ((atMost_iff hq).1 h))

theorem AtLeast.of_le (hp : x.place? = some p) (hq : y.place? = some q)
    (hle : q.toEReal ≤ p.toEReal) (h : y.AtLeast r) : x.AtLeast r :=
  (atLeast_iff hp).2 (((atLeast_iff hq).1 h).trans hle)

end Number

/-! ## The two sides of a domain -/

namespace Domain

variable {D : Set ℝ} {x y l u : Number}

/-- A lower bound that lets those of some numbers through that another one and the lower infinity let
through together. It is one of these numbers itself, or above all of them. -/
structure Raises (D : Set ℝ) (x y : Number) : Prop where
  element : y.element? = none
  place : ∃ p, y.place? = some p ∧ (p = .highest ∨ ∃ r ∈ D, p.toEReal = (r : EReal))
  atMost : ∀ r ∈ D, y.AtMost r ↔ x.AtMost r ∧ -10 ^ 20 ≤ r

/-- An upper bound that lets those of some numbers through that another one and the upper infinity let
through together. -/
structure Lowers (D : Set ℝ) (x y : Number) : Prop where
  element : y.element? = none
  place : ∃ p, y.place? = some p ∧ p ≠ .highest
  atLeast : ∀ r ∈ D, y.AtLeast r ↔ x.AtLeast r ∧ r ≤ 10 ^ 20

/-- What becomes of a lower bound that was asked for: one that is used, or none if nothing is above. -/
inductive RaisedTo (D : Set ℝ) (x : Number) : Except Fault Number → Prop
  | used {y : Number} (h : Raises D x y) : RaisedTo D x (.ok y)
  | missing {f : Fault} (h : ∀ r, ¬x.AtMost r) : RaisedTo D x (.error f)

/-- What becomes of an upper bound that was asked for. -/
inductive LoweredTo (D : Set ℝ) (x : Number) : Except Fault Number → Prop
  | used {y : Number} (h : Lowers D x y) : LoweredTo D x (.ok y)
  | missing {f : Fault} (h : ∀ r, ¬x.AtLeast r) : LoweredTo D x (.error f)

theorem RaisedTo.of_ok (h : RaisedTo D x (.ok y)) : Raises D x y := by
  cases h
  assumption

theorem LoweredTo.of_ok (h : LoweredTo D x (.ok y)) : Lowers D x y := by
  cases h
  assumption

/-- A bound with something above it has a bound that is used for it. -/
theorem RaisedTo.exists_ok {o : Except Fault Number} (h : RaisedTo D x o) {r : ℝ}
    (hr : x.AtMost r) : ∃ y, o = .ok y ∧ Raises D x y := by
  cases h with
  | used h => exact ⟨_, rfl, h⟩
  | missing hnone => exact absurd hr (hnone r)

theorem LoweredTo.exists_ok {o : Except Fault Number} (h : LoweredTo D x o) {r : ℝ}
    (hr : x.AtLeast r) : ∃ y, o = .ok y ∧ Lowers D x y := by
  cases h with
  | used h => exact ⟨_, rfl, h⟩
  | missing hnone => exact absurd hr (hnone r)

/-- Bounds that are used cross exactly if nothing is between them. -/
theorem lt_eq_ok (hl : Raises D x l) (hu : Lowers D y u) :
    ∃ b, u.lt l = .ok b ∧ (b = false ↔ ∃ r ∈ D, r ∈ l.between u) := by
  obtain ⟨p, hp, hplace⟩ := hl.place
  obtain ⟨q, hq, hhighest⟩ := hu.place
  refine ⟨q.lt p, Number.compareBy_of_place? hu.element hl.element hq hp, ?_⟩
  rw [← Bool.not_eq_true, Place.lt_iff, not_lt]
  constructor
  · intro hle
    -- a lower bound above everything is not met by an upper one; any other one is inside itself
    rcases hplace with rfl | ⟨r, hr, hpr⟩
    · exact absurd (Place.eq_highest_iff.1 (top_le_iff.1 hle)) hhighest
    · exact ⟨r, hr, (Number.atMost_iff hp).2 hpr.le, (Number.atLeast_iff hq).2 (hpr ▸ hle)⟩
  · rintro ⟨r, -, hlow, hhigh⟩
    exact ((Number.atMost_iff hp).1 hlow).trans ((Number.atLeast_iff hq).1 hhigh)

theorem mem_between_iff (hl : Raises D x l) (hu : Lowers D y u) {r : ℝ} (hr : r ∈ D) :
    r ∈ l.between u ↔ r ∈ x.between y ∩ Set.Icc (-10 ^ 20) (10 ^ 20) := by
  show l.AtMost r ∧ u.AtLeast r ↔ (x.AtMost r ∧ y.AtLeast r) ∧ -10 ^ 20 ≤ r ∧ r ≤ 10 ^ 20
  rw [hl.atMost r hr, hu.atLeast r hr, and_and_and_comm]

/-! ## Integer domains -/

/-- The real numbers that are whole. -/
def whole : Set ℝ := Set.range ((↑) : ℤ → ℝ)

theorem place_whole {y : Number} {k : Int} (h : y.place? = some (.point (k * stepsPerUnit))) :
    ∃ p, y.place? = some p ∧ (p = .highest ∨ ∃ r ∈ whole, p.toEReal = (r : EReal)) :=
  ⟨_, h, .inr ⟨k, ⟨k, rfl⟩, Place.toEReal_whole k⟩⟩

/-- The lower infinity is used where the bound that was asked for is not above it. -/
theorem raises_neg_infinity {p : Place} (hp : x.place? = some p)
    (hle : p.toEReal ≤ (Place.point (-(power 10 20 : Nat) * stepsPerUnit)).toEReal)
    (hD : ((-(power 10 20 : Nat) : Int) : ℝ) ∈ D) : Raises D x (.float (-Milp.infinity)) where
  element := rfl
  place := ⟨_, Number.place?_neg_infinity, .inr ⟨_, hD, Place.toEReal_whole _⟩⟩
  atMost r _ := by
    rw [Number.atMost_neg_infinity_iff]
    refine ⟨fun h => ⟨?_, h⟩, And.right⟩
    exact .of_le hp Number.place?_neg_infinity hle (Number.atMost_neg_infinity_iff.2 h)

theorem lowerFor_integer (hx : x.IsBound) : RaisedTo whole x ((default .integer).lowerFor x) := by
  obtain ⟨p, hp⟩ := hx.exists_place
  have hle : x.le (.float (-Milp.infinity)) = .ok (p.le _) :=
    Number.compareBy_of_place? hx.element? rfl hp Number.place?_neg_infinity
  have hlower : (default .integer).lowerFor x = (do
      if ← x.le (.float (-Milp.infinity)) then return .float (-Milp.infinity)
      else .int <$> x.ceil) := rfl
  rw [hlower, hle]
  cases hcut : p.le (.point (-(power 10 20 : Nat) * stepsPerUnit)) with
  | true => exact .used (raises_neg_infinity hp (Place.le_iff.1 hcut) ⟨_, rfl⟩)
  | false =>
    have hlt := not_le.1 (mt Place.le_iff.2 (Bool.eq_false_iff.1 hcut))
    -- what is above the lower infinity can only be too high to be rounded
    have hlow : x.place? ≠ some .lowest := by
      intro h
      cases hp.symm.trans h
      exact not_lt_bot hlt
    show RaisedTo whole x (.int <$> x.ceil)
    rcases Number.ceil_cases hx hlow with ⟨k, hk, hround⟩ | ⟨⟨f, hf⟩, hnone⟩
    · rw [hk]
      refine .used ⟨rfl, place_whole rfl, ?_⟩
      rintro _ ⟨n, rfl⟩
      rw [Number.atMost_whole_iff rfl, Int.cast_le, hround]
      refine ⟨fun h => ⟨h, ?_⟩, And.left⟩
      exact Number.atMost_neg_infinity_iff.1 (.of_le Number.place?_neg_infinity hp hlt.le h)
    · rw [hf]
      exact .missing hnone

/-- The upper infinity is used where the bound that was asked for is not below it. -/
theorem lowers_infinity {p : Place} (hp : x.place? = some p)
    (hle : (Place.point ((power 10 20 : Nat) * stepsPerUnit)).toEReal ≤ p.toEReal) :
    Lowers D x (.float Milp.infinity) where
  element := rfl
  place := ⟨_, Number.place?_infinity, Place.noConfusion⟩
  atLeast r _ := by
    rw [Number.atLeast_infinity_iff]
    refine ⟨fun h => ⟨?_, h⟩, And.right⟩
    exact .of_le hp Number.place?_infinity hle (Number.atLeast_infinity_iff.2 h)

theorem upperFor_integer (hx : x.IsBound) : LoweredTo whole x ((default .integer).upperFor x) := by
  obtain ⟨p, hp⟩ := hx.exists_place
  have hle : (Number.float Milp.infinity).le x = .ok (Place.le _ p) :=
    Number.compareBy_of_place? rfl hx.element? Number.place?_infinity hp
  have hupper : (default .integer).upperFor x = (do
      if ← (Number.float Milp.infinity).le x then return .float Milp.infinity
      else .int <$> x.floor) := rfl
  rw [hupper, hle]
  cases hcut : Place.le (.point ((power 10 20 : Nat) * stepsPerUnit)) p with
  | true => exact .used (lowers_infinity hp (Place.le_iff.1 hcut))
  | false =>
    have hlt := not_le.1 (mt Place.le_iff.2 (Bool.eq_false_iff.1 hcut))
    have hhigh : x.place? ≠ some .highest := by
      intro h
      cases hp.symm.trans h
      exact not_top_lt hlt
    show LoweredTo whole x (.int <$> x.floor)
    rcases Number.floor_cases hx hhigh with ⟨k, hk, hround⟩ | ⟨⟨f, hf⟩, hnone⟩
    · rw [hk]
      refine .used ⟨rfl, ⟨_, rfl, Place.noConfusion⟩, ?_⟩
      rintro _ ⟨n, rfl⟩
      rw [Number.atLeast_whole_iff rfl, Int.cast_le, hround]
      refine ⟨fun h => ⟨h, ?_⟩, And.left⟩
      exact Number.atLeast_infinity_iff.1 (.of_le Number.place?_infinity hp hlt.le h)
    · rw [hf]
      exact .missing hnone

/-! ## Continuous domains -/

theorem lowerFor_continuous {a : Double} (ha : a ≠ .nan) :
    RaisedTo Set.univ (.float a) ((default .continuous).lowerFor (.float a)) := by
  obtain ⟨p, hp⟩ : ∃ p, (Number.float a).place? = some p :=
    Number.IsBound.exists_place (.inr ⟨a, rfl, ha⟩)
  have hlt : (Number.float a).lt (.float (-Milp.infinity)) = .ok (p.lt _) :=
    Number.compareBy_of_place? rfl rfl hp Number.place?_neg_infinity
  have hlower : (default .continuous).lowerFor (.float a) = (do
      if ← (Number.float a).lt (.float (-Milp.infinity)) then return .float (-Milp.infinity)
      else return .float a) := rfl
  rw [hlower, hlt]
  cases hcut : p.lt (.point (-(power 10 20 : Nat) * stepsPerUnit)) with
  | true => exact .used (raises_neg_infinity hp (Place.lt_iff.1 hcut).le trivial)
  | false =>
    have hle := not_lt.1 (mt Place.lt_iff.2 (Bool.eq_false_iff.1 hcut))
    refine .used ⟨rfl, ⟨p, hp, ?_⟩, fun r _ => ⟨fun h => ⟨h, ?_⟩, And.left⟩⟩
    · cases p with
      | lowest => exact absurd hle (not_le.2 (EReal.bot_lt_coe _))
      | point n => exact .inr ⟨_, trivial, rfl⟩
      | highest => exact .inl rfl
    · exact Number.atMost_neg_infinity_iff.1 (.of_le Number.place?_neg_infinity hp hle h)

theorem upperFor_continuous {b : Double} (hb : b ≠ .nan) :
    LoweredTo Set.univ (.float b) ((default .continuous).upperFor (.float b)) := by
  obtain ⟨p, hp⟩ : ∃ p, (Number.float b).place? = some p :=
    Number.IsBound.exists_place (.inr ⟨b, rfl, hb⟩)
  have hlt : (Number.float Milp.infinity).lt (.float b) = .ok (Place.lt _ p) :=
    Number.compareBy_of_place? rfl rfl Number.place?_infinity hp
  have hupper : (default .continuous).upperFor (.float b) = (do
      if ← (Number.float Milp.infinity).lt (.float b) then return .float Milp.infinity
      else return .float b) := rfl
  rw [hupper, hlt]
  cases hcut : Place.lt (.point ((power 10 20 : Nat) * stepsPerUnit)) p with
  | true => exact .used (lowers_infinity hp (Place.lt_iff.1 hcut).le)
  | false =>
    have hle := not_lt.1 (mt Place.lt_iff.2 (Bool.eq_false_iff.1 hcut))
    refine .used ⟨rfl, ⟨p, hp, ?_⟩, fun r _ => ⟨fun h => ⟨h, ?_⟩, And.left⟩⟩
    · rintro rfl
      exact absurd hle (not_le.2 (EReal.coe_lt_top _))
    · exact Number.atLeast_infinity_iff.1 (.of_le Number.place?_infinity hp hle h)

/-! ## Bounds that are left out -/

/-- The lower bound that is used, zero if none is asked for. -/
def usedLower (kind : VarKind) : Option Number → Except Fault Number
  | none => .ok (.int 0)
  | some x => (default kind).lowerFor x

/-- The upper bound that is used, the infinity of the domain if none is asked for. -/
def usedUpper (kind : VarKind) : Option Number → Except Fault Number
  | none => .ok (.float Milp.infinity)
  | some x => (default kind).upperFor x

theorem raises_zero (hD : (0 : ℝ) ∈ D) : Raises D (.int 0) (.int 0) where
  element := rfl
  place := ⟨_, Number.place?_of_whole? rfl, .inr ⟨0, hD, by
    rw [Place.toEReal_whole, Int.cast_zero]⟩⟩
  atMost r _ := by
    rw [Number.atMost_whole_iff rfl, Int.cast_zero]
    refine ⟨fun h => ⟨h, ?_⟩, And.left⟩
    exact (neg_nonpos.2 (by positivity)).trans h

theorem lowers_default : Lowers D (.float Milp.infinity) (.float Milp.infinity) :=
  lowers_infinity Number.place?_infinity le_rfl

theorem raisedTo_integer {lower : Option Number} (h : ∀ x ∈ lower, x.IsBound) :
    RaisedTo whole (lower.getD (.int 0)) (usedLower .integer lower) := by
  cases lower with
  | none => exact .used (raises_zero ⟨0, Int.cast_zero⟩)
  | some x => exact lowerFor_integer (h x rfl)

theorem loweredTo_integer {upper : Option Number} (h : ∀ x ∈ upper, x.IsBound) :
    LoweredTo whole (upper.getD (.float Milp.infinity)) (usedUpper .integer upper) := by
  cases upper with
  | none => exact .used lowers_default
  | some x => exact upperFor_integer (h x rfl)

theorem raisedTo_continuous {lower : Option Double} (h : ∀ a ∈ lower, a ≠ .nan) :
    RaisedTo Set.univ ((lower.map .float).getD (.int 0))
      (usedLower .continuous (lower.map .float)) := by
  cases lower with
  | none => exact .used (raises_zero trivial)
  | some a => exact lowerFor_continuous (h a rfl)

theorem loweredTo_continuous {upper : Option Double} (h : ∀ b ∈ upper, b ≠ .nan) :
    LoweredTo Set.univ ((upper.map .float).getD (.float Milp.infinity))
      (usedUpper .continuous (upper.map .float)) := by
  cases upper with
  | none => exact .used lowers_default
  | some b => exact upperFor_continuous (h b rfl)

end Domain

/-! ## Variables -/

/-- A bound that may be left out, as a value. -/
def Value.ofBound : Option Number → Value
  | none => .nothing
  | some x => .number x

/-- The request for a variable that says only its kind and its bounds. -/
def Var.Request.ofBounds (kind : VarKind) (lower upper : Option Number) : Var.Request :=
  { lower := .ofBound lower, upper := .ofBound upper, domain := .text kind.code }

namespace Domain

variable {kind : VarKind}

theorem boundOfValue_ofBound {bound : Option Number}
    (h : ∀ x ∈ bound, (Value.number x).isNumber = true) : boundOfValue (.ofBound bound) = .ok bound := by
  cases bound with
  | none => rfl
  | some x =>
    show (if (Value.number x).isNumber then _ else _) = _
    rw [if_pos (h x rfl)]
    rfl

theorem lowerOfValue_ofBound (kind : VarKind) {lower : Option Number}
    (h : ∀ x ∈ lower, (Value.number x).isNumber = true) :
    lowerOfValue kind (.number (default kind).infinity) (.ofBound lower) =
      Value.number <$> Failure.lift (usedLower kind lower) := by
  rw [lowerOfValue, boundOfValue_ofBound h]
  cases lower <;> rfl

theorem upperOfValue_ofBound {upper : Option Number} (hk : kind ≠ .binary)
    (h : ∀ x ∈ upper, (Value.number x).isNumber = true) :
    upperOfValue kind (.number (default kind).infinity) (.ofBound upper) =
      Value.number <$> Failure.lift (usedUpper kind upper) := by
  rw [upperOfValue, boundOfValue_ofBound h]
  cases upper with
  | none =>
    cases kind with
    | binary => exact absurd rfl hk
    | _ => rfl
  | some x => rfl

theorem partsOfValue_code (kind : VarKind) :
    partsOfValue (.text kind.code) = .ok (kind, .number (default kind).infinity) := by
  cases kind <;> rfl

end Domain

namespace Var

variable {kind : VarKind} {lower upper : Option Number}

/-- A variable of which only the kind and the bounds are known. -/
def ofBounds (id : Nat) (kind : VarKind) (lower upper : Number) : Var :=
  { id, domain := .default kind, lower, upper, objective := Double.ofInt 0, name := none }

/-- A variable is made of what becomes of the two bounds that were asked for, unless they cross. -/
theorem ofValues_eq_ok_of_sides {id : Nat} {v : Var} {low high : Except Fault Number}
    (hlow : Domain.lowerOfValue kind (.number (Domain.default kind).infinity) (.ofBound lower) =
      Value.number <$> Failure.lift low)
    (hhigh : Domain.upperOfValue kind (.number (Domain.default kind).infinity) (.ofBound upper) =
      Value.number <$> Failure.lift high) :
    Var.ofValues id (.ofBounds kind lower upper) = .ok v ↔
      ∃ l u, low = .ok l ∧ high = .ok u ∧ u.lt l = .ok false ∧ ofBounds id kind l u = v := by
  have hzero : Number.toDouble (.int 0) = .ok (Double.ofInt 0) := by decide +kernel
  have hobjective : coefficientOfValue "Var" (.int 0) = .ok (Double.ofInt 0) := by
    have hnumber : (Value.int 0).isNumber = true := rfl
    rw [coefficientOfValue, if_pos hnumber, Value.int, Value.toDouble, hzero]
    rfl
  have hname : nameOfValue "Variable" .nothing = .ok none := rfl
  have hparts := Domain.partsOfValue_code kind
  have hmade : Var.ofValues id (.ofBounds kind lower upper) = (do
      let l ← Failure.lift low
      let u ← Failure.lift high
      if ← Failure.lift (u.lt l) then
        .error (.emptyDomain none (.ofBound lower) (.ofBound upper))
      else return ofBounds id kind l u) := by
    unfold Var.ofValues
    simp only [Request.ofBounds, hname, hobjective, hparts, bind, Except.bind, hlow, hhigh]
    cases low with
    | error f => rfl
    | ok l => cases high <;> rfl
  rw [hmade]
  simp only [bind_eq_ok_iff, Failure.lift_eq_ok]
  constructor
  · rintro ⟨l, hl, u, hu, crossed, hlt, h⟩
    cases crossed
    · exact ⟨l, u, hl, hu, hlt, Except.ok.inj h⟩
    · cases h
  · rintro ⟨l, u, hl, hu, hlt, rfl⟩
    exact ⟨l, hl, u, hu, false, hlt, rfl⟩

/-- A variable is made of the bounds that are used, unless they cross. -/
theorem ofValues_eq_ok_iff {id : Nat} {v : Var} (hk : kind ≠ .binary)
    (hlower : ∀ x ∈ lower, x.IsBound) (hupper : ∀ x ∈ upper, x.IsBound) :
    Var.ofValues id (.ofBounds kind lower upper) = .ok v ↔
      ∃ l u, Domain.usedLower kind lower = .ok l ∧ Domain.usedUpper kind upper = .ok u ∧
        u.lt l = .ok false ∧ ofBounds id kind l u = v :=
  ofValues_eq_ok_of_sides
    (Domain.lowerOfValue_ofBound kind fun x hx => (hlower x hx).isNumber)
    (Domain.upperOfValue_ofBound hk fun x hx => (hupper x hx).isNumber)

/-- The interval that a caller asks for, from zero to `10 ^ 20` where nothing is said, cut to the
numbers between the infinities. -/
def requested (lower upper : Option Number) : Set ℝ :=
  (lower.getD (.int 0)).between (upper.getD (.float infinity)) ∩ Set.Icc (-10 ^ 20) (10 ^ 20)

/-- If both sides let the right numbers through, a variable is made if there is one. -/
theorem ofValues_of_sides (id : Nat) {D : Set ℝ} (hk : kind ≠ .binary)
    (hlower : ∀ x ∈ lower, x.IsBound) (hupper : ∀ x ∈ upper, x.IsBound)
    (hl : Domain.RaisedTo D (lower.getD (.int 0)) (Domain.usedLower kind lower))
    (hu : Domain.LoweredTo D (upper.getD (.float infinity)) (Domain.usedUpper kind upper)) :
    ((∃ v, Var.ofValues id (.ofBounds kind lower upper) = .ok v) ↔
        ∃ r ∈ D, r ∈ requested lower upper) ∧
      ∀ v, Var.ofValues id (.ofBounds kind lower upper) = .ok v →
        ∀ r ∈ D, r ∈ v.lower.between v.upper ↔ r ∈ requested lower upper := by
  refine ⟨⟨?_, ?_⟩, ?_⟩
  · rintro ⟨v, hv⟩
    obtain ⟨l, u, hlow, hhigh, hlt, -⟩ := (ofValues_eq_ok_iff hk hlower hupper).1 hv
    have hl := (hlow ▸ hl).of_ok
    have hu := (hhigh ▸ hu).of_ok
    obtain ⟨b, hb, hinside⟩ := Domain.lt_eq_ok hl hu
    obtain ⟨r, hr, hmem⟩ := hinside.1 (Except.ok.inj (hb.symm.trans hlt))
    exact ⟨r, hr, (Domain.mem_between_iff hl hu hr).1 hmem⟩
  · rintro ⟨r, hr, hmem⟩
    obtain ⟨l, hlow, hl⟩ := hl.exists_ok hmem.1.1
    obtain ⟨u, hhigh, hu⟩ := hu.exists_ok hmem.1.2
    obtain ⟨b, hb, hinside⟩ := Domain.lt_eq_ok hl hu
    obtain rfl : b = false := hinside.2 ⟨r, hr, (Domain.mem_between_iff hl hu hr).2 hmem⟩
    exact ⟨_, (ofValues_eq_ok_iff hk hlower hupper).2 ⟨l, u, hlow, hhigh, hb, rfl⟩⟩
  · intro v hv r hr
    obtain ⟨l, u, hlow, hhigh, -, rfl⟩ := (ofValues_eq_ok_iff hk hlower hupper).1 hv
    exact Domain.mem_between_iff (hlow ▸ hl).of_ok (hhigh ▸ hu).of_ok hr

/-- Bounds are rounded towards the inside and nothing of the inside is lost. With bounds of any size an
integer variable is made exactly if a whole number is in the interval that was asked for, cut to the
numbers between the infinities, and the whole numbers between its bounds are those of this interval. A
continuous variable that is asked for with doubles is made exactly if the interval is not empty, and
its bounds enclose just this interval. -/
theorem ofValues_rounds (id : Nat) :
    (∀ lower upper : Option Number, (∀ x ∈ lower, x.IsBound) → (∀ x ∈ upper, x.IsBound) →
      ((∃ v, Var.ofValues id (.ofBounds .integer lower upper) = .ok v) ↔
        ∃ n : ℤ, (n : ℝ) ∈ requested lower upper) ∧
      ∀ v, Var.ofValues id (.ofBounds .integer lower upper) = .ok v →
        ∀ n : ℤ, (n : ℝ) ∈ v.lower.between v.upper ↔ (n : ℝ) ∈ requested lower upper) ∧
    ∀ lower upper : Option Double, (∀ a ∈ lower, a ≠ .nan) → (∀ b ∈ upper, b ≠ .nan) →
      let l := lower.map Number.float
      let u := upper.map Number.float
      ((∃ v, Var.ofValues id (.ofBounds .continuous l u) = .ok v) ↔ (requested l u).Nonempty) ∧
      ∀ v, Var.ofValues id (.ofBounds .continuous l u) = .ok v →
        v.lower.between v.upper = requested l u := by
  constructor
  · intro lower upper hlower hupper
    obtain ⟨hmade, hsame⟩ := ofValues_of_sides id (by decide) hlower hupper
      (Domain.raisedTo_integer hlower) (Domain.loweredTo_integer hupper)
    refine ⟨hmade.trans ?_, fun v hv n => hsame v hv n ⟨n, rfl⟩⟩
    exact Set.exists_range_iff
  · intro lower upper hlower hupper
    have hbound {o : Option Double} (ho : ∀ a ∈ o, a ≠ .nan) :
        ∀ x ∈ o.map Number.float, x.IsBound := by
      intro x hx
      obtain ⟨a, ha, rfl⟩ := Option.mem_map.1 hx
      exact .inr ⟨a, rfl, ho a ha⟩
    obtain ⟨hmade, hsame⟩ := ofValues_of_sides id (by decide) (hbound hlower) (hbound hupper)
      (Domain.raisedTo_continuous hlower) (Domain.loweredTo_continuous hupper)
    refine ⟨hmade.trans ?_, fun v hv => Set.ext fun r => hsame v hv r trivial⟩
    exact ⟨fun ⟨r, _, hr⟩ => ⟨r, hr⟩, fun ⟨r, hr⟩ => ⟨r, trivial, hr⟩⟩

/-- From one half to one half there is no integer variable, but there is a continuous one. -/
theorem ofValues_rounds_half :
    ∃ half : Double, half.place? = some (.point (power 2 1073 : Nat)) ∧
      (¬∃ v, Var.ofValues 0 (.ofBounds .integer (some (.float half)) (some (.float half))) = .ok v) ∧
      (∃ v, Var.ofValues 0 (.ofBounds .integer (some (.float half)) (some (.int 3))) = .ok v) ∧
      ∃ v, Var.ofValues 0 (.ofBounds .continuous (some (.float half)) (some (.float half))) =
        .ok v := by
  have hvalid : Representable (power 2 1073) := by decide +kernel
  let half : Double := .finite false (power 2 1073) hvalid
  have hplace : (Number.float half).place? = some (.point (power 2 1073 : Nat)) := rfl
  have hnan : half ≠ .nan := Double.noConfusion
  have hhalf : ∀ x ∈ some (Number.float half), x.IsBound := by
    rintro _ ⟨⟩
    exact .inr ⟨half, rfl, hnan⟩
  have hthree : ∀ x ∈ some (Number.int 3), x.IsBound := by
    rintro _ ⟨⟩
    exact .inl ⟨3, rfl⟩
  have hdouble : ∀ a ∈ some half, a ≠ .nan := by
    rintro _ ⟨⟩
    exact hnan
  have hpos : (0 : Int) < (power 2 1073 : Nat) := by decide +kernel
  have hone : ((power 2 1073 : Nat) : Int) < stepsPerUnit := by decide +kernel
  refine ⟨half, rfl, ?_, ?_, ?_⟩
  · rw [((ofValues_rounds 0).1 _ _ hhalf hhalf).1]
    rintro ⟨n, ⟨hlow, hhigh⟩, -⟩
    have hle := (Number.atMost_point_iff hplace).1 hlow
    have hge := (Number.atLeast_point_iff hplace).1 hhigh
    rcases Int.lt_or_le 0 n with hn | hn
    · have := le_mul_of_one_le_left (Int.le_of_lt steps_pos) hn
      omega
    · have := mul_nonpos_of_nonpos_of_nonneg hn (Int.le_of_lt steps_pos)
      omega
  · refine ((ofValues_rounds 0).1 _ _ hhalf hthree).1.2 ⟨1, ⟨?_, ?_⟩, by norm_num, by norm_num⟩
    · refine (Number.atMost_point_iff hplace).2 ?_
      rw [Int.one_mul]
      exact Int.le_of_lt hone
    · exact (Number.atLeast_whole_iff rfl).2 (by norm_num)
  · refine ((ofValues_rounds 0).2 (some half) (some half) hdouble hdouble).1.2
      ⟨((power 2 1073 : Nat) : Int) / stepsPerUnit, ⟨?_, ?_⟩, ?_, ?_⟩
    · exact (Number.atMost_iff hplace).2 le_rfl
    · exact (Number.atLeast_iff hplace).2 le_rfl
    · exact (neg_nonpos.2 (by positivity)).trans (by positivity)
    · have hsteps : (0 : ℝ) < stepsPerUnit := Nat.cast_pos.2 stepsPerUnit_pos
      have hless : (((power 2 1073 : Nat) : Int) : ℝ) ≤ stepsPerUnit := by
        exact_mod_cast Int.le_of_lt hone
      exact ((div_le_one hsteps).2 hless).trans (one_le_pow₀ (by norm_num))

end Var

end Milp

import Milp.Proofs.Domain
import Milp.Proofs.Double.Rounding
set_option autoImplicit false

/-! # Bounds in order

A bound that is asked for as a whole number of any size or as any double is cut to the infinity of its
side or rounded (`Domain.cut_eq_ok`). What is used for it is a plain number again, whole where the
domain is, and within the infinity of its side (`Domain.UsedLower`, `Domain.UsedUpper`). Only a
continuous domain lets what is not a number through. A variable whose bounds cross is not made, so the
bounds of every other one are in order (`Var.Bounded.le_iff`), and they still are when they have been
rounded to doubles (`Var.Bounded.le_toDouble_iff`). Bounds that are not numbers do not cross, and are in
no order. -/

namespace Milp

namespace Number

variable {x : Number}

theorem IsBound.isPlain (h : x.IsBound) : x.IsPlain := h.imp_right fun ⟨d, hd, _⟩ => ⟨d, hd⟩

theorem IsPlain.isBound (h : x.IsPlain) (hx : x ≠ .float .nan) : x.IsBound := by
  refine h.imp_right fun ⟨d, hd⟩ => ⟨d, hd, ?_⟩
  rintro rfl
  exact hx hd

/-- Of the plain numbers only one has no place. -/
theorem IsPlain.place?_eq_none_iff (h : x.IsPlain) : x.place? = none ↔ x = .float .nan := by
  constructor
  · intro hnone
    by_contra hx
    obtain ⟨p, hp⟩ := (h.isBound hx).exists_place
    cases hnone.symm.trans hp
  · rintro rfl
    rfl

theorem lt_nan (d : Double) : (float d).lt (float .nan) = .ok false := by
  rw [lt_float, Double.lt_eq_any]
  cases d.place? <;> rfl

theorem le_nan (d : Double) : (float d).le (float .nan) = .ok false := by
  rw [le_float, Double.le_eq_any]
  cases d.place? <;> rfl

/-- Plain numbers are in order exactly if they have places that are. -/
theorem IsPlain.le_iff {y : Number} (hx : x.IsPlain) (hy : y.IsPlain) :
    x.le y = .ok true ↔ ∃ p q, x.place? = some p ∧ y.place? = some q ∧ p.le q = true := by
  cases hp : x.place? with
  | none =>
    obtain rfl := hx.place?_eq_none_iff.1 hp
    have hle : (float .nan).le y = .ok false := by
      rcases hy with ⟨n, rfl⟩ | ⟨d, rfl⟩
      · exact le_float_int _ _
      · rw [le_float, Double.le_eq_any]
        rfl
    simp [hle]
  | some p =>
    cases hq : y.place? with
    | none =>
      obtain rfl := hy.place?_eq_none_iff.1 hq
      have hle : x.le (float .nan) = .ok false := by
        rcases hx with ⟨n, rfl⟩ | ⟨d, rfl⟩
        · exact le_int_float _ _
        · exact le_nan d
      simp [hle]
    | some q =>
      have hle : x.le y = .ok (p.le q) := compareBy_of_place? hx.element? hy.element? hp hq
      simp [hle]

end Number

theorem Double.le_iff {x y : Double} :
    x.le y = true ↔ ∃ p q, x.place? = some p ∧ y.place? = some q ∧ p.le q = true := by
  rw [le_eq_any]
  cases x.place? <;> cases y.place? <;> simp

namespace Domain

variable {kind : VarKind} {x y : Number}

/-- The places of the two infinities. -/
def lowestPlace : Place := .point (-(power 10 20 : Nat) * stepsPerUnit)

def highestPlace : Place := .point ((power 10 20 : Nat) * stepsPerUnit)

theorem nearest_lowestPlace : lowestPlace.nearest = lowestPlace := by decide +kernel

theorem nearest_highestPlace : highestPlace.nearest = highestPlace := by decide +kernel

/-- What is used for a bound of a variable, against what was asked for. -/
structure Used (kind : VarKind) (requested : Option Number) (y : Number) : Prop where
  plain : y.IsPlain
  undefined_iff : y.place? = none ↔ kind = .continuous ∧ requested = some (.float .nan)
  whole : kind ≠ .continuous → ∃ n : Int, y.place? = some (.point (n * stepsPerUnit))

structure UsedLower (kind : VarKind) (requested : Option Number) (y : Number) : Prop
    extends Used kind requested y where
  le : ∀ p, y.place? = some p → lowestPlace.le p = true

structure UsedUpper (kind : VarKind) (requested : Option Number) (y : Number) : Prop
    extends Used kind requested y where
  le : ∀ p, y.place? = some p → p.le highestPlace = true

theorem used_int {requested : Option Number} (hk : kind = .continuous → requested ≠ some (.float .nan))
    (n : Int) : Used kind requested (.int n) where
  plain := .inl ⟨n, rfl⟩
  undefined_iff := iff_of_false (Option.some_ne_none _) fun ⟨h, he⟩ => hk h he
  whole _ := ⟨n, rfl⟩

theorem used_infinity {requested : Option Number} (hk : requested ≠ some (.float .nan)) :
    Used kind requested (.float Milp.infinity) where
  plain := .inr ⟨_, rfl⟩
  undefined_iff := by
    rw [Number.place?_infinity]
    exact iff_of_false (Option.some_ne_none _) fun h => hk h.2
  whole _ := ⟨_, Number.place?_infinity⟩

theorem used_neg_infinity {requested : Option Number} (hk : requested ≠ some (.float .nan)) :
    Used kind requested (.float (-Milp.infinity)) where
  plain := .inr ⟨_, rfl⟩
  undefined_iff := by
    rw [Number.place?_neg_infinity]
    exact iff_of_false (Option.some_ne_none _) fun h => hk h.2
  whole _ := ⟨_, Number.place?_neg_infinity⟩

/-- A bound is cut to a limit or rounded. -/
theorem cut_eq_ok (test : Except Fault Bool) (limit : Number) (rounded : Except Fault Number)
    (h : (do if ← test then return limit else rounded) = .ok y) :
    (test = .ok true ∧ y = limit) ∨ (test = .ok false ∧ rounded = .ok y) := by
  obtain ⟨b, hb, h⟩ := bind_eq_ok_iff.1 h
  cases b
  · exact .inr ⟨hb, h⟩
  · exact .inl ⟨hb, (Except.ok.inj h).symm⟩

theorem whole_le_whole_iff {m n : Int} :
    (Place.point (m * stepsPerUnit)).le (.point (n * stepsPerUnit)) = true ↔ m ≤ n := by
  rw [Place.le_iff, Place.toEReal_whole, Place.toEReal_whole, EReal.coe_le_coe_iff, Int.cast_le]

/-- A whole number that is not below the lower infinity. -/
theorem usedLower_int {requested : Option Number} {n : Int}
    (hk : kind = .continuous → requested ≠ some (.float .nan)) (hn : -(power 10 20 : Nat) ≤ n) :
    UsedLower kind requested (.int n) where
  toUsed := used_int hk n
  le := by
    rintro _ ⟨⟩
    exact whole_le_whole_iff.2 hn

theorem usedUpper_int {requested : Option Number} {n : Int}
    (hk : kind = .continuous → requested ≠ some (.float .nan)) (hn : n ≤ (power 10 20 : Nat)) :
    UsedUpper kind requested (.int n) where
  toUsed := used_int hk n
  le := by
    rintro _ ⟨⟩
    exact whole_le_whole_iff.2 hn

theorem usedLower_neg_infinity {requested : Option Number} (hk : requested ≠ some (.float .nan)) :
    UsedLower kind requested (.float (-Milp.infinity)) where
  toUsed := used_neg_infinity hk
  le p hp := by
    cases Number.place?_neg_infinity.symm.trans hp
    exact whole_le_whole_iff.2 le_rfl

theorem usedUpper_infinity {requested : Option Number} (hk : requested ≠ some (.float .nan)) :
    UsedUpper kind requested (.float Milp.infinity) where
  toUsed := used_infinity hk
  le p hp := by
    cases Number.place?_infinity.symm.trans hp
    exact whole_le_whole_iff.2 le_rfl

theorem usedLower_binary {requested : Option Number} (h : y.IsBinary) :
    UsedLower .binary requested y := by
  rcases h with rfl | rfl
  · exact usedLower_int VarKind.noConfusion (by decide +kernel)
  · exact usedLower_int VarKind.noConfusion (by decide +kernel)

theorem usedUpper_binary {requested : Option Number} (h : y.IsBinary) :
    UsedUpper .binary requested y := by
  rcases h with rfl | rfl
  · exact usedUpper_int VarKind.noConfusion (by decide +kernel)
  · exact usedUpper_int VarKind.noConfusion (by decide +kernel)

theorem usedLower_integer (hx : x.IsPlain) (h : (default .integer).lowerFor x = .ok y) :
    UsedLower .integer (some x) y := by
  have hnan : x ≠ .float .nan := by
    rintro rfl
    cases h
  have hbound := hx.isBound hnan
  obtain ⟨p, hp⟩ := hbound.exists_place
  have hle : x.le (.float (-Milp.infinity)) = .ok (p.le lowestPlace) :=
    Number.compareBy_of_place? hx.element? rfl hp Number.place?_neg_infinity
  rcases cut_eq_ok (x.le (.float (-Milp.infinity))) (.float (-Milp.infinity))
    (.int <$> x.ceil) h with ⟨-, rfl⟩ | ⟨hcut, h⟩
  · exact usedLower_neg_infinity fun he => hnan (Option.some.inj he)
  · obtain ⟨n, hn, rfl⟩ := map_eq_ok_iff.1 h
    have hlt : ¬p.toEReal ≤ lowestPlace.toEReal := by
      rw [← Place.le_iff, Except.ok.inj (hle.symm.trans hcut)]
      exact Bool.false_ne_true
    have hlow : x.place? ≠ some .lowest := by
      intro hlowest
      cases hp.symm.trans hlowest
      exact hlt bot_le
    rcases Number.ceil_cases hbound hlow with ⟨k, hk, hround⟩ | ⟨⟨f, hf⟩, -⟩
    · obtain rfl := Except.ok.inj (hk.symm.trans hn)
      have hat : x.AtMost k := (hround k).1 le_rfl
      refine usedLower_int VarKind.noConfusion (whole_le_whole_iff.1 (Place.le_iff.2 ?_))
      rw [Place.toEReal_whole k]
      exact (not_le.1 hlt).le.trans ((Number.atMost_iff hp).1 hat)
    · cases hf.symm.trans hn

theorem usedUpper_integer (hx : x.IsPlain) (h : (default .integer).upperFor x = .ok y) :
    UsedUpper .integer (some x) y := by
  have hnan : x ≠ .float .nan := by
    rintro rfl
    rcases cut_eq_ok _ _ _ h with ⟨hcut, -⟩ | ⟨-, h⟩
    · cases (Number.le_nan _).symm.trans hcut
    · cases h
  have hbound := hx.isBound hnan
  obtain ⟨p, hp⟩ := hbound.exists_place
  have hle : (Number.float Milp.infinity).le x = .ok (highestPlace.le p) :=
    Number.compareBy_of_place? rfl hx.element? Number.place?_infinity hp
  rcases cut_eq_ok ((Number.float Milp.infinity).le x) (.float Milp.infinity)
    (.int <$> x.floor) h with ⟨-, rfl⟩ | ⟨hcut, h⟩
  · exact usedUpper_infinity fun he => hnan (Option.some.inj he)
  · obtain ⟨n, hn, rfl⟩ := map_eq_ok_iff.1 h
    have hlt : ¬highestPlace.toEReal ≤ p.toEReal := by
      rw [← Place.le_iff, Except.ok.inj (hle.symm.trans hcut)]
      exact Bool.false_ne_true
    have hhigh : x.place? ≠ some .highest := by
      intro hhighest
      cases hp.symm.trans hhighest
      exact hlt le_top
    rcases Number.floor_cases hbound hhigh with ⟨k, hk, hround⟩ | ⟨⟨f, hf⟩, -⟩
    · obtain rfl := Except.ok.inj (hk.symm.trans hn)
      have hat : x.AtLeast k := (hround k).1 le_rfl
      refine usedUpper_int VarKind.noConfusion (whole_le_whole_iff.1 (Place.le_iff.2 ?_))
      rw [Place.toEReal_whole k]
      exact ((Number.atLeast_iff hp).1 hat).trans (not_le.1 hlt).le
    · cases hf.symm.trans hn

/-- A double that a bound of a continuous variable is rounded to. -/
theorem used_float (hx : x.IsPlain) {d : Double} (hd : x.toDouble = .ok d) :
    Used .continuous (some x) (.float d) where
  plain := .inr ⟨d, rfl⟩
  undefined_iff := by
    have hplace : (Number.float d).place? = x.place?.map Place.nearest := hx.place?_toDouble hd
    rw [hplace, Option.map_eq_none_iff, hx.place?_eq_none_iff, Option.some.injEq]
    exact (and_iff_right rfl).symm
  whole h := absurd rfl h

theorem usedLower_continuous (hx : x.IsPlain) (h : (default .continuous).lowerFor x = .ok y) :
    UsedLower .continuous (some x) y := by
  rcases cut_eq_ok (x.lt (.float (-Milp.infinity))) (.float (-Milp.infinity))
    (.float <$> x.toDouble) h with ⟨hcut, rfl⟩ | ⟨hcut, h⟩
  · refine usedLower_neg_infinity ?_
    rintro ⟨⟩
    cases hcut
  · obtain ⟨d, hd, rfl⟩ := map_eq_ok_iff.1 h
    refine ⟨used_float hx hd, fun p hp => ?_⟩
    -- what is not below the infinity is not rounded below it
    obtain ⟨q, hq, rfl⟩ := Option.map_eq_some_iff.1 ((hx.place?_toDouble hd).symm.trans hp)
    have hlt : x.lt (.float (-Milp.infinity)) = .ok (q.lt lowestPlace) :=
      Number.compareBy_of_place? hx.element? rfl hq Number.place?_neg_infinity
    rw [← nearest_lowestPlace]
    refine Place.nearest_le ?_
    rw [Place.le, Except.ok.inj (hlt.symm.trans hcut)]
    rfl

theorem usedUpper_continuous (hx : x.IsPlain) (h : (default .continuous).upperFor x = .ok y) :
    UsedUpper .continuous (some x) y := by
  rcases cut_eq_ok ((Number.float Milp.infinity).lt x) (.float Milp.infinity)
    (.float <$> x.toDouble) h with ⟨hcut, rfl⟩ | ⟨hcut, h⟩
  · refine usedUpper_infinity ?_
    rintro ⟨⟩
    cases (Number.lt_nan _).symm.trans hcut
  · obtain ⟨d, hd, rfl⟩ := map_eq_ok_iff.1 h
    refine ⟨used_float hx hd, fun p hp => ?_⟩
    obtain ⟨q, hq, rfl⟩ := Option.map_eq_some_iff.1 ((hx.place?_toDouble hd).symm.trans hp)
    have hlt : (Number.float Milp.infinity).lt x = .ok (highestPlace.lt q) :=
      Number.compareBy_of_place? rfl hx.element? Number.place?_infinity hq
    rw [← nearest_highestPlace]
    refine Place.nearest_le ?_
    rw [Place.le, Except.ok.inj (hlt.symm.trans hcut)]
    rfl

theorem usedLower_of_lowerFor (hx : x.IsPlain) (h : (default kind).lowerFor x = .ok y) :
    UsedLower kind (some x) y := by
  cases kind with
  | continuous => exact usedLower_continuous hx h
  | integer => exact usedLower_integer hx h
  | binary => exact usedLower_binary (lowerFor_binary rfl h)

theorem usedUpper_of_upperFor (hx : x.IsPlain) (h : (default kind).upperFor x = .ok y) :
    UsedUpper kind (some x) y := by
  cases kind with
  | continuous => exact usedUpper_continuous hx h
  | integer => exact usedUpper_integer hx h
  | binary => exact usedUpper_binary (upperFor_binary rfl h)

/-! ## What a variable is made of -/

theorem usedLower_of_lowerOfValue {lower : Option Number} {w : Value}
    (hlower : ∀ x ∈ lower, x.IsPlain)
    (h : lowerOfValue kind (.number (default kind).infinity) (.ofBound lower) = .ok w)
    (hy : w.toNumber = .ok y) : UsedLower kind lower y := by
  rw [lowerOfValue_ofBound kind fun x hx => (hlower x hx).isNumber] at h
  obtain ⟨l, hl, rfl⟩ := map_eq_ok_iff.1 h
  cases hy
  cases lower with
  | none =>
    cases hl
    exact usedLower_int (fun _ => (Option.some_ne_none _).symm) (by decide +kernel)
  | some x => exact usedLower_of_lowerFor (hlower x rfl) (Failure.lift_eq_ok.1 hl)

theorem usedUpper_of_upperOfValue {upper : Option Number} {w : Value}
    (hupper : ∀ x ∈ upper, x.IsPlain)
    (h : upperOfValue kind (.number (default kind).infinity) (.ofBound upper) = .ok w)
    (hy : w.toNumber = .ok y) : UsedUpper kind upper y := by
  rw [upperOfValue, boundOfValue_ofBound fun x hx => (hupper x hx).isNumber] at h
  cases upper with
  | none =>
    cases h
    cases kind with
    | binary =>
      cases hy
      exact usedUpper_binary (.inr rfl)
    | continuous | integer =>
      cases hy
      exact usedUpper_infinity (Option.some_ne_none _).symm
  | some x =>
    obtain ⟨u, hu, rfl⟩ := map_eq_ok_iff.1 h
    cases hy
    exact usedUpper_of_upperFor (hupper x rfl) (Failure.lift_eq_ok.1 hu)

end Domain

/-! ## Variables -/

namespace Var

variable {kind : VarKind} {lower upper : Option Number} {v : Var}

/-- A variable of a default domain that was made for two bounds, whatever else was asked for. -/
def MadeFor (kind : VarKind) (lower upper : Option Number) (v : Var) : Prop :=
  ∃ id r, r.lower = .ofBound lower ∧ r.upper = .ofBound upper ∧
    Domain.partsOfValue r.domain = .ok (kind, .number (Domain.default kind).infinity) ∧
    Var.ofValues id r = .ok v

/-- The bounds that are used for a variable, which do not cross. -/
structure Bounded (kind : VarKind) (lower upper : Option Number) (v : Var) : Prop where
  kind_eq : v.kind = kind
  lower : Domain.UsedLower kind lower v.lower
  upper : Domain.UsedUpper kind upper v.upper
  notCrossed : v.upper.lt v.lower = .ok false

theorem MadeFor.bounded (h : v.MadeFor kind lower upper) (hlower : ∀ x ∈ lower, x.IsPlain)
    (hupper : ∀ x ∈ upper, x.IsPlain) : v.Bounded kind lower upper := by
  obtain ⟨id, r, hl, hu, hdomain, h⟩ := h
  obtain ⟨infinity, l, u, hparts, hlow, hlv, hhigh, huv, hlt⟩ := of_ofValues h
  rw [hl] at hlow
  rw [hu] at hhigh
  obtain ⟨rfl, rfl⟩ := Prod.mk.inj (Except.ok.inj (hdomain.symm.trans hparts))
  exact ⟨rfl, Domain.usedLower_of_lowerOfValue hlower hlow hlv,
    Domain.usedUpper_of_upperOfValue hupper hhigh huv, hlt⟩

/-- Whether a bound that is used for a variable is not a number. -/
def AsksForNan (kind : VarKind) (lower upper : Option Number) : Prop :=
  kind = .continuous ∧ (lower = some (.float .nan) ∨ upper = some (.float .nan))

namespace Bounded

variable (h : v.Bounded kind lower upper)

include h

theorem le {p q : Place} (hp : v.lower.place? = some p) (hq : v.upper.place? = some q) :
    p.le q = true := by
  have hlt : v.upper.lt v.lower = .ok (q.lt p) :=
    Number.compareBy_of_place? h.upper.plain.element? h.lower.plain.element? hq hp
  rw [Place.le, Except.ok.inj (hlt.symm.trans h.notCrossed)]
  rfl

theorem not_asksForNan_iff :
    ¬AsksForNan kind lower upper ↔
      ∃ p q, v.lower.place? = some p ∧ v.upper.place? = some q := by
  have hplaces : AsksForNan kind lower upper ↔ v.lower.place? = none ∨ v.upper.place? = none := by
    rw [h.lower.undefined_iff, h.upper.undefined_iff, ← and_or_left, AsksForNan]
  rw [hplaces, not_or]
  cases v.lower.place? <;> cases v.upper.place? <;> simp

/-- The bounds of a variable are in order, unless it was asked for with a bound that is not a number
and keeps it. -/
theorem le_iff : v.lower.le v.upper = .ok true ↔ ¬AsksForNan kind lower upper := by
  rw [h.not_asksForNan_iff, h.lower.plain.le_iff h.upper.plain]
  constructor
  · rintro ⟨p, q, hp, hq, -⟩
    exact ⟨p, q, hp, hq⟩
  · rintro ⟨p, q, hp, hq⟩
    exact ⟨p, q, hp, hq, h.le hp hq⟩

/-- So are the doubles that they are stored as. -/
theorem le_toDouble_iff {l u : Double} (hl : v.lower.toDouble = .ok l)
    (hu : v.upper.toDouble = .ok u) : l.le u = true ↔ ¬AsksForNan kind lower upper := by
  rw [h.not_asksForNan_iff, Double.le_iff, h.lower.plain.place?_toDouble hl,
    h.upper.plain.place?_toDouble hu]
  constructor
  · rintro ⟨p, q, hp, hq, -⟩
    obtain ⟨p', hp', -⟩ := Option.map_eq_some_iff.1 hp
    obtain ⟨q', hq', -⟩ := Option.map_eq_some_iff.1 hq
    exact ⟨p', q', hp', hq'⟩
  · rintro ⟨p, q, hp, hq⟩
    exact ⟨p.nearest, q.nearest, by rw [hp]; rfl, by rw [hq]; rfl, Place.nearest_le (h.le hp hq)⟩

/-- They are finite, and whole where the domain is. -/
theorem points (hn : ¬AsksForNan kind lower upper) {l u : Double}
    (hl : v.lower.toDouble = .ok l) (hu : v.upper.toDouble = .ok u) :
    ∃ a b : Int, l.place? = some (.point a) ∧ u.place? = some (.point b) ∧ a ≤ b ∧
      (kind ≠ .continuous → (∃ m : Int, a = m * stepsPerUnit) ∧ ∃ n : Int, b = n * stepsPerUnit) := by
  obtain ⟨p, q, hp, hq⟩ := h.not_asksForNan_iff.1 hn
  have hlow := h.lower.le p hp
  have hhigh := h.upper.le q hq
  have hle := h.le hp hq
  -- between the infinities there are only points
  obtain ⟨a, rfl⟩ : ∃ a, p = .point a := by
    cases p with
    | lowest => cases hlow
    | point a => exact ⟨a, rfl⟩
    | highest =>
      cases q with
      | highest => cases hhigh
      | _ => cases hle
  obtain ⟨b, rfl⟩ : ∃ b, q = .point b := by
    cases q with
    | lowest => cases hle
    | point b => exact ⟨b, rfl⟩
    | highest => cases hhigh
  have hlp := h.lower.plain.place?_toDouble hl
  have hup := h.upper.plain.place?_toDouble hu
  rw [hp] at hlp
  rw [hq] at hup
  have hab : a ≤ b := by simpa [Place.le, Place.lt] using hle
  refine ⟨nearestSteps a, nearestSteps b, hlp, hup, nearestSteps_mono hab, fun hk => ⟨?_, ?_⟩⟩
  · obtain ⟨m, hm⟩ := h.lower.whole hk
    obtain rfl := Place.point.inj (Option.some.inj (hp.symm.trans hm))
    exact nearestSteps_whole m
  · obtain ⟨m, hm⟩ := h.upper.whole hk
    obtain rfl := Place.point.inj (Option.some.inj (hq.symm.trans hm))
    exact nearestSteps_whole m

end Bounded

theorem not_asksForNan (hlower : ∀ x ∈ lower, x.IsBound) (hupper : ∀ x ∈ upper, x.IsBound) :
    ¬AsksForNan kind lower upper := by
  have hnan : ¬(Number.float .nan).IsBound := by
    rintro (⟨n, hn⟩ | ⟨d, hd, hne⟩)
    · cases hn
    · exact hne (Number.float.inj hd).symm
  rintro ⟨-, rfl | rfl⟩
  · exact hnan (hlower _ rfl)
  · exact hnan (hupper _ rfl)

end Var

end Milp

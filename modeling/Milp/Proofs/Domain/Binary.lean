import Milp.Proofs.Domain
import Milp.Proofs.Nearest
set_option autoImplicit false

/-! # Bounds of binary variables

The two bounds of a binary variable are rounded on their own: a lower bound becomes 0 or 1 according to
whether it is at most 0, an upper bound according to whether it is at least 1. Where the interval that
was asked for holds 0 or 1, the bounds that are used hold the same of the two. Where it holds neither,
the bounds cross only if it lies between 0 and 1: an interval above 1 is moved down to 1 and an
interval below 0 is moved up to 0 (`Var.ofValues_binary`). A bound that is not a number lies beyond
every number in this sense. -/

namespace Milp

namespace Number

/-- A number that a caller may ask for as a bound, from an array or not: any but a complex one. -/
def IsReal (x : Number) : Prop := (Value.number x).isNumber = true ∧ x.kind? ≠ some .complex

/-- A number that has an order with others is whole, or it is a double, perhaps from an array. -/
theorem IsReal.cases {x : Number} (h : x.IsReal) :
    (∃ n, x.whole? = some n) ∨ ∃ d, x = .float d ∨ x = .item (.real d) ∨ x = .cell (.real d) := by
  obtain ⟨hnumber, hkind⟩ := h
  cases x with
  | truth b => cases hnumber
  | int n => exact .inl ⟨n, rfl⟩
  | float d => exact .inr ⟨d, .inl rfl⟩
  | complex re im => exact absurd rfl hkind
  | refusal r => exact .inl ⟨r.code, rfl⟩
  | item e =>
    cases e with
    | truth b => cases hnumber
    | signed n | unsigned n => exact .inl ⟨n, rfl⟩
    | real d => exact .inr ⟨d, .inr (.inl rfl)⟩
    | complex re im => exact absurd rfl hkind
  | cell e =>
    cases e with
    | truth b => cases hnumber
    | signed n | unsigned n => exact .inl ⟨n, rfl⟩
    | real d => exact .inr ⟨d, .inr (.inr rfl)⟩
    | complex re im => exact absurd rfl hkind

theorem isReal_int (n : Int) : (int n).IsReal := by
  refine ⟨rfl, ?_⟩
  rw [kind?]
  split
  · simp
  · split <;> simp

/-- A whole number that has a double at its own place. -/
structure IsExact (n : Int) : Prop where
  doubleOf : doubleOf n = .ok (Double.ofInt n)
  place : (Double.ofInt n).place? = some (.point (n * stepsPerUnit))

theorem isExact_zero : IsExact 0 := ⟨by decide +kernel, by decide +kernel⟩

theorem isExact_one : IsExact 1 := ⟨by decide +kernel, by decide +kernel⟩

variable {x : Number} {n : Int}

/-- Doubles and elements that are doubles stand at one place, and are compared with whole numbers as
doubles. -/
theorem le_of_double (hn : IsExact n) {d : Double}
    (h : x = .float d ∨ x = .item (.real d) ∨ x = .cell (.real d)) :
    x.place? = d.place? ∧ x.le (.int n) = .ok (d.le (Double.ofInt n)) ∧
      le (.int n) x = .ok ((Double.ofInt n).le d) := by
  have helement : toElement .real (.int n) = .ok (.real (Double.ofInt n)) := by
    show Element.real <$> Number.doubleOf n = _
    rw [hn.doubleOf]
    rfl
  have hmeet (e : Element) (he : e = .real d) :
      (do let a ← Except.ok e
          let b ← toElement .real (.int n)
          return Double.le a.realPart b.realPart : Except Fault Bool) =
        .ok (d.le (Double.ofInt n)) ∧
      (do let a ← toElement .real (.int n)
          let b ← Except.ok e
          return Double.le a.realPart b.realPart : Except Fault Bool) =
        .ok ((Double.ofInt n).le d) := by
    rw [helement, he]
    exact ⟨rfl, rfl⟩
  rcases h with rfl | rfl | rfl
  · refine ⟨rfl, ?_, ?_⟩
    · rw [le_float_int, Double.le_eq_any, hn.place]
      rfl
    · rw [le_int_float, Double.le_eq_any, hn.place]
      rfl
  · exact ⟨rfl, hmeet _ rfl⟩
  · exact ⟨rfl, hmeet _ rfl⟩

theorem double_le_iff {d : Double} {p : Place} (hp : (Double.ofInt n).place? = some p) :
    (d.le (Double.ofInt n) = true ↔ ∃ q, d.place? = some q ∧ q.toEReal ≤ p.toEReal) ∧
      ((Double.ofInt n).le d = true ↔ ∃ q, d.place? = some q ∧ p.toEReal ≤ q.toEReal) := by
  rw [Double.le_eq_any, Double.le_eq_any, hp]
  cases d.place? with
  | none => simp
  | some q => simp [Place.le_iff]

/-- A bound is compared with a whole number as the real numbers are; what is not a number has no
order with it. -/
theorem IsReal.le_exact (hn : IsExact n) (h : x.IsReal) :
    ∃ b, x.le (.int n) = .ok b ∧ (b = true ↔ x.AtMost n) := by
  rcases h.cases with ⟨m, hm⟩ | ⟨d, hd⟩
  · refine ⟨_, le_of_whole? hm rfl, ?_⟩
    rw [decide_eq_true_iff, atMost_whole_iff hm, Int.cast_le]
  · obtain ⟨hplace, hle, -⟩ := le_of_double hn hd
    refine ⟨_, hle, (double_le_iff hn.place).1.trans ?_⟩
    rw [AtMost, hplace, Place.toEReal_whole]

theorem IsReal.exact_le (hn : IsExact n) (h : x.IsReal) :
    ∃ b, le (.int n) x = .ok b ∧ (b = true ↔ x.AtLeast n) := by
  rcases h.cases with ⟨m, hm⟩ | ⟨d, hd⟩
  · refine ⟨_, le_of_whole? rfl hm, ?_⟩
    rw [decide_eq_true_iff, atLeast_whole_iff hm, Int.cast_le]
  · obtain ⟨hplace, -, hle⟩ := le_of_double hn hd
    refine ⟨_, hle, (double_le_iff hn.place).2.trans ?_⟩
    rw [AtLeast, hplace, Place.toEReal_whole]

theorem AtMost.mono {r s : ℝ} (h : x.AtMost r) (hle : r ≤ s) : x.AtMost s := by
  obtain ⟨p, hp, hr⟩ := h
  exact ⟨p, hp, hr.trans (EReal.coe_le_coe_iff.2 hle)⟩

theorem AtLeast.anti {r s : ℝ} (h : x.AtLeast s) (hle : r ≤ s) : x.AtLeast r := by
  obtain ⟨p, hp, hs⟩ := h
  exact ⟨p, hp, (EReal.coe_le_coe_iff.2 hle).trans hs⟩

end Number

/-! ## What becomes of the bounds -/

namespace Domain

/-- The upper bound that is used for a binary variable, 1 if none is asked for. -/
def usedBinaryUpper : Option Number → Except Fault Number
  | none => .ok (.int 1)
  | some x => (default .binary).upperFor x

/-- A lower bound that is not at most 0 becomes 1, how far above it may be. -/
theorem usedLower_binary_cases {lower : Option Number} (h : ∀ x ∈ lower, x.IsReal) :
    ((lower.getD (.int 0)).AtMost 0 ∧ usedLower .binary lower = .ok (.int 0)) ∨
      (¬(lower.getD (.int 0)).AtMost 0 ∧ usedLower .binary lower = .ok (.int 1)) := by
  cases lower with
  | none => exact .inl ⟨(Number.atMost_whole_iff (n := 0) rfl).2 (by simp), rfl⟩
  | some x =>
    obtain ⟨b, hle, hb⟩ := (h x rfl).le_exact Number.isExact_zero
    have hused : usedLower .binary (some x) = .ok (.int (if b then 0 else 1)) := by
      show (do return Number.int (if ← x.le (.int 0) then 0 else 1)) = _
      rw [hle]
      rfl
    rw [hused, Option.getD_some, ← Int.cast_zero, ← hb]
    cases b <;> simp

/-- An upper bound that is not at least 1 becomes 0, how far below it may be. -/
theorem usedBinaryUpper_cases {upper : Option Number} (h : ∀ x ∈ upper, x.IsReal) :
    ((upper.getD (.int 1)).AtLeast 1 ∧ usedBinaryUpper upper = .ok (.int 1)) ∨
      (¬(upper.getD (.int 1)).AtLeast 1 ∧ usedBinaryUpper upper = .ok (.int 0)) := by
  cases upper with
  | none => exact .inl ⟨(Number.atLeast_whole_iff (n := 1) rfl).2 (by simp), rfl⟩
  | some x =>
    obtain ⟨b, hle, hb⟩ := (h x rfl).exact_le Number.isExact_one
    have hused : usedBinaryUpper (some x) = .ok (.int (if b then 1 else 0)) := by
      show (do return Number.int (if ← Number.le (.int 1) x then 1 else 0)) = _
      rw [hle]
      rfl
    rw [hused, Option.getD_some, ← Int.cast_one, ← hb]
    cases b <;> simp

theorem upperOfValue_binary_ofBound {upper : Option Number} (h : ∀ x ∈ upper, x.IsReal) :
    upperOfValue .binary (.number (default .binary).infinity) (.ofBound upper) =
      Value.number <$> Failure.lift (usedBinaryUpper upper) := by
  rw [upperOfValue, boundOfValue_ofBound fun x hx => (h x hx).1]
  cases upper <;> rfl

end Domain

/-! ## Variables -/

namespace Var

variable {id : Nat} {v : Var} {lower upper : Option Number}

/-- The numbers that a binary variable may take. -/
def bits : Set ℝ := {0, 1}

/-- Those of them in the interval that a caller asks for, from 0 to 1 where nothing is said. -/
def requestedBits (lower upper : Option Number) : Set ℝ :=
  bits ∩ (lower.getD (.int 0)).between (upper.getD (.int 1))

/-- The interval begins above 1, or with what is not a number, and does not end below 1. -/
def AboveBits (lower upper : Option Number) : Prop :=
  ¬(lower.getD (.int 0)).AtMost 1 ∧ (upper.getD (.int 1)).AtLeast 1

/-- The interval ends below 0, or with what is not a number, and does not begin above 0. -/
def BelowBits (lower upper : Option Number) : Prop :=
  (lower.getD (.int 0)).AtMost 0 ∧ ¬(upper.getD (.int 1)).AtLeast 0

theorem mem_bits_between_iff {m n : Int} {r : ℝ} :
    r ∈ bits ∩ (Number.int m).between (.int n) ↔ (r = 0 ∨ r = 1) ∧ m ≤ r ∧ r ≤ n := by
  show r ∈ bits ∧ (Number.int m).AtMost r ∧ (Number.int n).AtLeast r ↔ _
  rw [Number.atMost_whole_iff rfl, Number.atLeast_whole_iff rfl]
  rfl

theorem mem_requestedBits_iff {r : ℝ} : r ∈ requestedBits lower upper ↔
    (r = 0 ∧ (lower.getD (.int 0)).AtMost 0 ∧ (upper.getD (.int 1)).AtLeast 0) ∨
      (r = 1 ∧ (lower.getD (.int 0)).AtMost 1 ∧ (upper.getD (.int 1)).AtLeast 1) := by
  show (r = 0 ∨ r = 1) ∧ _ ∧ _ ↔ _
  constructor
  · rintro ⟨rfl | rfl, hlow, hhigh⟩
    · exact .inl ⟨rfl, hlow, hhigh⟩
    · exact .inr ⟨rfl, hlow, hhigh⟩
  · rintro (⟨rfl, hlow, hhigh⟩ | ⟨rfl, hlow, hhigh⟩)
    · exact ⟨.inl rfl, hlow, hhigh⟩
    · exact ⟨.inr rfl, hlow, hhigh⟩

theorem ofValues_binary_iff (hlower : ∀ x ∈ lower, x.IsReal) (hupper : ∀ x ∈ upper, x.IsReal) :
    Var.ofValues id (.ofBounds .binary lower upper) = .ok v ↔
      ∃ l u, Domain.usedLower .binary lower = .ok l ∧ Domain.usedBinaryUpper upper = .ok u ∧
        u.lt l = .ok false ∧ ofBounds id .binary l u = v :=
  ofValues_eq_ok_of_sides
    (Domain.lowerOfValue_ofBound .binary fun x hx => (hlower x hx).1)
    (Domain.upperOfValue_binary_ofBound hupper)

/-- A binary variable is made of one of three pairs of bounds, by the thresholds that the two sides are
compared with. Only a lower bound above its threshold crosses an upper one below its own. -/
theorem ofValues_binary_cases (id : Nat) (hlower : ∀ x ∈ lower, x.IsReal)
    (hupper : ∀ x ∈ upper, x.IsReal) :
    ((lower.getD (.int 0)).AtMost 0 ∧ (upper.getD (.int 1)).AtLeast 1 ∧
      Var.ofValues id (.ofBounds .binary lower upper) = .ok (ofBounds id .binary (.int 0) (.int 1))) ∨
    ((lower.getD (.int 0)).AtMost 0 ∧ ¬(upper.getD (.int 1)).AtLeast 1 ∧
      Var.ofValues id (.ofBounds .binary lower upper) = .ok (ofBounds id .binary (.int 0) (.int 0))) ∨
    (¬(lower.getD (.int 0)).AtMost 0 ∧ (upper.getD (.int 1)).AtLeast 1 ∧
      Var.ofValues id (.ofBounds .binary lower upper) = .ok (ofBounds id .binary (.int 1) (.int 1))) ∨
    (¬(lower.getD (.int 0)).AtMost 0 ∧ ¬(upper.getD (.int 1)).AtLeast 1 ∧
      ∀ v, Var.ofValues id (.ofBounds .binary lower upper) ≠ .ok v) := by
  have hmade {m n : Int} (hl : Domain.usedLower .binary lower = .ok (.int m))
      (hu : Domain.usedBinaryUpper upper = .ok (.int n)) (hle : m ≤ n) :
      Var.ofValues id (.ofBounds .binary lower upper) =
        .ok (ofBounds id .binary (.int m) (.int n)) := by
    refine (ofValues_binary_iff hlower hupper).2 ⟨_, _, hl, hu, ?_, rfl⟩
    rw [Number.lt_int, decide_eq_false (not_lt.2 hle)]
  rcases Domain.usedLower_binary_cases hlower with ⟨hlow, hl⟩ | ⟨hlow, hl⟩
  · rcases Domain.usedBinaryUpper_cases hupper with ⟨hhigh, hu⟩ | ⟨hhigh, hu⟩
    · exact .inl ⟨hlow, hhigh, hmade hl hu (by decide)⟩
    · exact .inr (.inl ⟨hlow, hhigh, hmade hl hu (by decide)⟩)
  · rcases Domain.usedBinaryUpper_cases hupper with ⟨hhigh, hu⟩ | ⟨hhigh, hu⟩
    · exact .inr (.inr (.inl ⟨hlow, hhigh, hmade hl hu (by decide)⟩))
    · refine .inr (.inr (.inr ⟨hlow, hhigh, fun v hv => ?_⟩))
      obtain ⟨l, u, hl', hu', hlt, -⟩ := (ofValues_binary_iff hlower hupper).1 hv
      cases hl.symm.trans hl'
      cases hu.symm.trans hu'
      rw [Number.lt_int] at hlt
      cases hlt

theorem bits_between_zero_one : bits ∩ (Number.int 0).between (.int 1) = bits := by
  ext r
  rw [mem_bits_between_iff]
  constructor
  · exact And.left
  · rintro (rfl | rfl) <;> exact ⟨by simp, by simp, by simp⟩

theorem bits_between_same {n : Int} (hn : (n : ℝ) ∈ bits) :
    bits ∩ (Number.int n).between (.int n) = {(n : ℝ)} := by
  ext r
  rw [mem_bits_between_iff]
  constructor
  · rintro ⟨-, hlow, hhigh⟩
    exact le_antisymm hhigh hlow
  · rintro rfl
    exact ⟨hn, le_rfl, le_rfl⟩

theorem bits_between_zero : bits ∩ (Number.int 0).between (.int 0) = {0} := by
  simpa using bits_between_same (n := 0) (.inl Int.cast_zero)

theorem bits_between_one : bits ∩ (Number.int 1).between (.int 1) = {1} := by
  simpa using bits_between_same (n := 1) (.inr Int.cast_one)

/-- What the bounds of a binary variable let through, against what was asked for: just those of the two
numbers that are in the interval, if one of them is, and the nearer one if the interval lies beyond
both. -/
structure KeepsBits (lower upper : Option Number) (v : Var) : Prop where
  kept : (requestedBits lower upper).Nonempty →
    bits ∩ v.lower.between v.upper = requestedBits lower upper
  above : AboveBits lower upper →
    requestedBits lower upper = ∅ ∧ bits ∩ v.lower.between v.upper = {1}
  below : BelowBits lower upper →
    requestedBits lower upper = ∅ ∧ bits ∩ v.lower.between v.upper = {0}

theorem requestedBits_of_both (hlow : (lower.getD (.int 0)).AtMost 0)
    (hhigh : (upper.getD (.int 1)).AtLeast 1) : requestedBits lower upper = bits := by
  ext r
  simp [mem_requestedBits_iff, hlow, hhigh, hlow.mono zero_le_one, hhigh.anti zero_le_one, bits]

/-- Where the upper threshold is not met, only 0 can be asked for. -/
theorem mem_requestedBits_of_not_atLeast {r : ℝ} (hlow : (lower.getD (.int 0)).AtMost 0)
    (hhigh : ¬(upper.getD (.int 1)).AtLeast 1) :
    r ∈ requestedBits lower upper ↔ r = 0 ∧ (upper.getD (.int 1)).AtLeast 0 := by
  simp [mem_requestedBits_iff, hlow, hhigh]

/-- Where the lower threshold is not met, only 1 can be asked for. -/
theorem mem_requestedBits_of_not_atMost {r : ℝ} (hlow : ¬(lower.getD (.int 0)).AtMost 0)
    (hhigh : (upper.getD (.int 1)).AtLeast 1) :
    r ∈ requestedBits lower upper ↔ r = 1 ∧ (lower.getD (.int 0)).AtMost 1 := by
  simp [mem_requestedBits_iff, hlow, hhigh]

theorem keepsBits_both (hlow : (lower.getD (.int 0)).AtMost 0)
    (hhigh : (upper.getD (.int 1)).AtLeast 1) :
    KeepsBits lower upper (ofBounds id .binary (.int 0) (.int 1)) where
  kept _ := bits_between_zero_one.trans (requestedBits_of_both hlow hhigh).symm
  above h := absurd (hlow.mono zero_le_one) h.1
  below h := absurd (hhigh.anti zero_le_one) h.2

theorem keepsBits_zero (hlow : (lower.getD (.int 0)).AtMost 0)
    (hhigh : ¬(upper.getD (.int 1)).AtLeast 1) :
    KeepsBits lower upper (ofBounds id .binary (.int 0) (.int 0)) where
  kept := by
    rintro ⟨s, hs⟩
    have hzero := ((mem_requestedBits_of_not_atLeast hlow hhigh).1 hs).2
    refine bits_between_zero.trans (Set.ext fun r => ?_)
    rw [mem_requestedBits_of_not_atLeast hlow hhigh]
    exact (and_iff_left hzero).symm
  above h := absurd h.2 hhigh
  below h := by
    refine ⟨Set.eq_empty_of_forall_notMem fun r hr => ?_, bits_between_zero⟩
    exact h.2 ((mem_requestedBits_of_not_atLeast hlow hhigh).1 hr).2

theorem keepsBits_one (hlow : ¬(lower.getD (.int 0)).AtMost 0)
    (hhigh : (upper.getD (.int 1)).AtLeast 1) :
    KeepsBits lower upper (ofBounds id .binary (.int 1) (.int 1)) where
  kept := by
    rintro ⟨s, hs⟩
    have hone := ((mem_requestedBits_of_not_atMost hlow hhigh).1 hs).2
    refine bits_between_one.trans (Set.ext fun r => ?_)
    rw [mem_requestedBits_of_not_atMost hlow hhigh]
    exact (and_iff_left hone).symm
  above h := by
    refine ⟨Set.eq_empty_of_forall_notMem fun r hr => ?_, bits_between_one⟩
    exact h.1 ((mem_requestedBits_of_not_atMost hlow hhigh).1 hr).2
  below h := absurd h.1 hlow

/-- Bounds of binary variables, whatever numbers are asked for. A variable is made exactly if 0 or 1 is
in the interval that was asked for, or the interval lies beyond 1 or beyond 0. In the first case its
bounds let just those of the two through that are in the interval. In the other cases none of the two
is, and the variable is fixed at the one that is nearer. -/
theorem ofValues_binary (id : Nat) (hlower : ∀ x ∈ lower, x.IsReal)
    (hupper : ∀ x ∈ upper, x.IsReal) :
    ((∃ v, Var.ofValues id (.ofBounds .binary lower upper) = .ok v) ↔
      (requestedBits lower upper).Nonempty ∨ AboveBits lower upper ∨ BelowBits lower upper) ∧
    ∀ v, Var.ofValues id (.ofBounds .binary lower upper) = .ok v → KeepsBits lower upper v := by
  rcases ofValues_binary_cases id hlower hupper with ⟨hlow, hhigh, h⟩ | ⟨hlow, hhigh, h⟩ |
    ⟨hlow, hhigh, h⟩ | ⟨hlow, hhigh, h⟩
  · rw [h, requestedBits_of_both hlow hhigh]
    refine ⟨⟨fun _ => .inl ⟨0, .inl rfl⟩, fun _ => ⟨_, rfl⟩⟩, ?_⟩
    rintro _ ⟨⟩
    exact keepsBits_both hlow hhigh
  · rw [h]
    refine ⟨⟨fun _ => ?_, fun _ => ⟨_, rfl⟩⟩, ?_⟩
    · by_cases hzero : (upper.getD (.int 1)).AtLeast 0
      · exact .inl ⟨0, (mem_requestedBits_of_not_atLeast hlow hhigh).2 ⟨rfl, hzero⟩⟩
      · exact .inr (.inr ⟨hlow, hzero⟩)
    · rintro _ ⟨⟩
      exact keepsBits_zero hlow hhigh
  · rw [h]
    refine ⟨⟨fun _ => ?_, fun _ => ⟨_, rfl⟩⟩, ?_⟩
    · by_cases hone : (lower.getD (.int 0)).AtMost 1
      · exact .inl ⟨1, (mem_requestedBits_of_not_atMost hlow hhigh).2 ⟨rfl, hone⟩⟩
      · exact .inr (.inl ⟨hone, hhigh⟩)
    · rintro _ ⟨⟩
      exact keepsBits_one hlow hhigh
  · refine ⟨⟨fun ⟨v, hv⟩ => absurd hv (h v), ?_⟩, fun v hv => absurd hv (h v)⟩
    rintro (⟨r, hr⟩ | habove | hbelow)
    · rcases mem_requestedBits_iff.1 hr with ⟨-, hzero, -⟩ | ⟨-, -, hone⟩
      · exact absurd hzero hlow
      · exact absurd hone hhigh
    · exact absurd habove.2 hhigh
    · exact absurd hbelow.1 hlow

/-- From -3 to 0 only 0 is kept. From 5 down to 2, where no number is, the variable is fixed at 1. -/
theorem ofValues_binary_negative :
    (∃ v, Var.ofValues 0 (.ofBounds .binary (some (.int (-3))) (some (.int 0))) = .ok v ∧
      bits ∩ v.lower.between v.upper = requestedBits (some (.int (-3))) (some (.int 0))) ∧
    ∃ v, Var.ofValues 0 (.ofBounds .binary (some (.int 5)) (some (.int 2))) = .ok v ∧
      bits ∩ v.lower.between v.upper = {1} := by
  have hreal (n : Int) : ∀ x ∈ some (Number.int n), x.IsReal := by
    rintro _ ⟨⟩
    exact Number.isReal_int n
  constructor
  · have hzero : (requestedBits (some (.int (-3))) (some (.int 0))).Nonempty := by
      refine ⟨0, mem_requestedBits_iff.2 (.inl ⟨rfl, ?_, ?_⟩)⟩
      · exact (Number.atMost_whole_iff (n := -3) rfl).2 (by norm_num)
      · exact (Number.atLeast_whole_iff (n := 0) rfl).2 (by norm_num)
    obtain ⟨hmade, hkept⟩ := ofValues_binary 0 (hreal (-3)) (hreal 0)
    obtain ⟨v, hv⟩ := hmade.2 (.inl hzero)
    exact ⟨v, hv, (hkept v hv).kept hzero⟩
  · have habove : AboveBits (some (.int 5)) (some (.int 2)) := by
      constructor
      · exact mt (Number.atMost_whole_iff (n := 5) rfl).1 (by norm_num)
      · exact (Number.atLeast_whole_iff (n := 2) rfl).2 (by norm_num)
    obtain ⟨hmade, hkept⟩ := ofValues_binary 0 (hreal 5) (hreal 2)
    obtain ⟨v, hv⟩ := hmade.2 (.inr (.inl habove))
    exact ⟨v, hv, ((hkept v hv).above habove).2⟩

/-- A binary variable that is asked for between 5 and 2 is made, although no number is in between. -/
theorem empty_interval_fixed :
    (∃ v, Var.ofValues 0 (.ofBounds .binary (some (.int 5)) (some (.int 2))) = .ok v ∧
      v.lower = .int 1 ∧ v.upper = .int 1) ∧
    requestedBits (some (.int 5)) (some (.int 2)) = ∅ := by
  constructor
  · obtain ⟨v, hv, hbounds⟩ := exists_ok_of_any
      (x := Var.ofValues 0 (.ofBounds .binary (some (.int 5)) (some (.int 2))))
      (p := fun v => v.lower = .int 1 ∧ v.upper = .int 1) (by decide +kernel)
    exact ⟨v, hv, of_decide_eq_true hbounds⟩
  · refine Set.eq_empty_of_forall_notMem fun r hr => ?_
    have hlow : (5 : ℝ) ≤ r := by exact_mod_cast (Number.atMost_whole_iff rfl).1 hr.2.1
    have hhigh : r ≤ 2 := by exact_mod_cast (Number.atLeast_whole_iff rfl).1 hr.2.2
    linarith

end Var

end Milp

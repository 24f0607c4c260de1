import Milp.Engine.Checks
set_option autoImplicit false

/-! # Comparing numbers

Values that are whole numbers or doubles are compared as such: the way over places on the number line
and over conditions as values gives the order and the equality of `Int`, and the order of `Double`. A
status counts as true exactly when the call was refused. -/

namespace Milp

/-! ## Numbers -/

theorem power_pos {b : Nat} (h : 0 < b) (e : Nat) : 0 < power b e := Nat.pow_pos h

theorem stepsPerUnit_pos : 0 < stepsPerUnit := power_pos (by decide) _

theorem steps_pos : 0 < (stepsPerUnit : Int) := Int.natCast_pos.2 stepsPerUnit_pos

namespace Number

/-- A whole number stands at its place, whatever it was taken from. -/
theorem place?_of_whole? {x : Number} {n : Int} (h : x.whole? = some n) :
    x.place? = some (.point (n * stepsPerUnit)) := by
  cases x with
  | truth _ | int _ | refusal _ =>
    cases h
    rfl
  | item e | cell e =>
    have he : e.whole? = some n := h
    rw [place?, he]
  | _ => cases h

/-- Numbers that are not from arrays are compared by their places. -/
theorem compareBy_of_place? {places : Place → Place → Bool} {doubles : Double → Double → Bool}
    {x y : Number} {p q : Place} (hx : x.element? = none) (hy : y.element? = none)
    (hp : x.place? = some p) (hq : y.place? = some q) :
    compareBy places doubles x y = .ok (places p q) := by
  unfold compareBy
  rw [hx, hy]
  dsimp only
  split
  · cases hp
  · cases hq
  · rw [hp, hq]
    rfl

theorem compareBy_of_whole? {places : Place → Place → Bool} {doubles : Double → Double → Bool}
    {x y : Number} {m n : Int} (hx : x.whole? = some m) (hy : y.whole? = some n)
    (hscale : places (.point (m * stepsPerUnit)) (.point (n * stepsPerUnit)) =
      places (.point m) (.point n)) :
    compareBy places doubles x y = .ok (places (.point m) (.point n)) := by
  unfold compareBy
  split
  · split
    · cases hx
    · cases hy
    · rw [place?_of_whole? hx, place?_of_whole? hy]
      exact congrArg Except.ok hscale
  · rw [hx, hy]
    rfl

theorem lt_of_whole? {x y : Number} {m n : Int} (hx : x.whole? = some m)
    (hy : y.whole? = some n) : x.lt y = .ok (decide (m < n)) :=
  compareBy_of_whole? hx hy (decide_eq_decide.2 (Int.mul_lt_mul_right steps_pos))

theorem le_of_whole? {x y : Number} {m n : Int} (hx : x.whole? = some m)
    (hy : y.whole? = some n) : x.le y = .ok (decide (m ≤ n)) := by
  have hscale : Place.le (.point (m * stepsPerUnit)) (.point (n * stepsPerUnit)) =
      Place.le (.point m) (.point n) :=
    congrArg not (decide_eq_decide.2 (Int.mul_lt_mul_right steps_pos))
  rw [le, compareBy_of_whole? hx hy hscale]
  show Except.ok (!decide (n < m)) = _
  rw [← decide_not, decide_eq_decide.2 Int.not_lt]

theorem lt_int (m n : Int) : (int m).lt (int n) = .ok (decide (m < n)) := lt_of_whole? rfl rfl

theorem le_int (m n : Int) : (int m).le (int n) = .ok (decide (m ≤ n)) := le_of_whole? rfl rfl

/-- A number at a place has no imaginary part. -/
theorem exists_parts_of_place? {x : Number} {p : Place} (hx : x.element? = none)
    (hp : x.place? = some p) :
    ∃ y : Number, x.plain.parts = (y, Double.zero) ∧ y.place? = some p := by
  cases x with
  | complex _ _ => cases hp
  | item _ | cell _ => cases hx
  | _ => exact ⟨_, rfl, hp⟩

/-- Numbers that are not from arrays are the same if they stand at the same place. -/
theorem same_of_place? {x y : Number} {p q : Place} (hx : x.element? = none)
    (hy : y.element? = none) (hp : x.place? = some p) (hq : y.place? = some q) :
    x.same y = decide (p = q) := by
  have hz : Double.zero.eq Double.zero = true := by decide +kernel
  obtain ⟨a, ha, hplace⟩ := exists_parts_of_place? hx hp
  obtain ⟨b, hb, hplace'⟩ := exists_parts_of_place? hy hq
  unfold same
  rw [ha, hb]
  dsimp only
  rw [hplace, hplace', hz, Bool.true_and]

theorem same_int (m n : Int) : (int m).same (int n) = decide (m = n) := by
  have h : Place.point (m * stepsPerUnit) = Place.point (n * stepsPerUnit) ↔ m = n := by
    rw [Place.point.injEq]
    exact ⟨fun e => Int.eq_of_mul_eq_mul_right (Int.ne_of_gt steps_pos) e, fun e => e ▸ rfl⟩
  rw [same_of_place? rfl rfl rfl rfl, decide_eq_decide.2 h]

theorem lt_float (x y : Double) : (float x).lt (float y) = .ok (x.lt y) := by
  rw [Double.lt_eq_any, lt]
  unfold compareBy
  simp only [element?, place?]
  cases x.place? <;> cases y.place? <;> rfl

theorem le_float (x y : Double) : (float x).le (float y) = .ok (x.le y) := by
  rw [Double.le_eq_any, le]
  unfold compareBy
  simp only [element?, place?]
  cases x.place? <;> cases y.place? <;> rfl

theorem lt_int_float (n : Int) (x : Double) : (int n).lt (float x) =
    .ok (x.place?.any fun q => (Place.point (n * stepsPerUnit)).lt q) := by
  rw [lt]
  unfold compareBy
  simp only [element?, place?]
  cases x.place? <;> rfl

theorem lt_float_int (x : Double) (n : Int) : (float x).lt (int n) =
    .ok (x.place?.any fun p => p.lt (Place.point (n * stepsPerUnit))) := by
  rw [lt]
  unfold compareBy
  simp only [element?, place?]
  cases x.place? <;> rfl

theorem le_int_float (n : Int) (x : Double) : (int n).le (float x) =
    .ok (x.place?.any fun q => (Place.point (n * stepsPerUnit)).le q) := by
  rw [le]
  unfold compareBy
  simp only [element?, place?]
  cases x.place? <;> rfl

theorem le_float_int (x : Double) (n : Int) : (float x).le (int n) =
    .ok (x.place?.any fun p => p.le (Place.point (n * stepsPerUnit))) := by
  rw [le]
  unfold compareBy
  simp only [element?, place?]
  cases x.place? <;> rfl

/-- A whole number and a double are the same if they stand at the same place. -/
theorem same_int_float (n : Int) (x : Double) :
    (int n).same (float x) = decide (x.place? = some (.point (n * stepsPerUnit))) := by
  have hz : Double.zero.eq Double.zero = true := by decide +kernel
  unfold same
  simp only [plain, parts, place?, hz, Bool.true_and]
  cases x.place? with
  | none => rfl
  | some q =>
    exact decide_eq_decide.2 ⟨fun h => congrArg some h.symm, fun h => (Option.some.inj h).symm⟩

theorem same_float_int (x : Double) (n : Int) :
    (float x).same (int n) = decide (x.place? = some (.point (n * stepsPerUnit))) := by
  have hz : Double.zero.eq Double.zero = true := by decide +kernel
  unfold same
  simp only [plain, parts, place?, hz, Bool.true_and]
  cases x.place? with
  | none => rfl
  | some p => exact decide_eq_decide.2 ⟨fun h => congrArg some h, fun h => Option.some.inj h⟩

/-- The doubles that equal zero are the two zeros. -/
theorem same_zero_float {x : Double} (h : (int 0).same (float x) = true) :
    ∃ negative valid, x = .finite negative 0 valid := by
  rw [same_int_float, decide_eq_true_iff, Int.zero_mul] at h
  cases x with
  | nan => cases h
  | infinite negative => cases negative <;> cases h
  | finite negative m valid =>
    have hsteps : Double.signed negative m = 0 := Place.point.inj (Option.some.inj h)
    obtain rfl : m = 0 := by
      cases negative
      · exact Int.natCast_eq_zero.1 hsteps
      · exact Int.natCast_eq_zero.1 (Int.neg_eq_zero.1 hsteps)
    exact ⟨negative, valid, rfl⟩

end Number

/-! ## Values -/

namespace Value

theorem depth_number (x : Number) : depth (number x) = 0 := rfl

/-- Numbers are combined as numbers, also where they are from arrays. -/
theorem combine_numbers (id : Nat) (op : Operator) (x y : Number) :
    combine id op (number x) (number y) = Failure.lift (op.onNumbers x y) := by
  rw [combine, depth_number, depth_number, combineUpTo.eq_def]
  simp only [operand?]
  split
  · -- each of the two is the only element of its array
    show ([(number x, number y)].mapM fun p =>
      elementwise (combineUpTo id 1 op) op false p.1 p.2) >>= _ = _
    rw [List.mapM_cons, List.mapM_nil]
    show (Failure.lift (op.onNumbers x y) >>= _) >>= _ = _
    cases op.onNumbers x y <;> rfl
  · rw [plainly]

theorem truthy_truth (b : Bool) : (number (.item (.truth b))).truthy .blank = .ok b := by
  show Except.ok (!(Number.int (truthNumber b)).same (.int 0)) = _
  rw [Number.same_int]
  cases b <;> rfl

/-- A condition between numbers holds as it is. -/
theorem truthy_condition (x y : Number) (b : Bool) :
    (Operator.condition x y b).truthy .blank = .ok b := by
  rw [Operator.condition]
  split <;> exact truthy_truth b

theorem holds_of_onNumbers {op : Operator} {x y : Number} {r : Except Fault Bool}
    (h : op.onNumbers x y = Operator.condition x y <$> r) :
    holds op (number x) (number y) = Failure.lift r := by
  rw [holds, combine_numbers, h]
  cases r with
  | error f => rfl
  | ok b => exact congrArg Failure.lift (truthy_condition x y b)

theorem holds_below_numbers (x y : Number) :
    holds .below (number x) (number y) = Failure.lift (x.lt y) := holds_of_onNumbers rfl

theorem holds_atMost_numbers (x y : Number) :
    holds .atMost (number x) (number y) = Failure.lift (x.le y) := holds_of_onNumbers rfl

theorem holds_atLeast_numbers (x y : Number) :
    holds .atLeast (number x) (number y) = Failure.lift (y.le x) := holds_of_onNumbers rfl

theorem holds_below_int (m n : Int) : holds .below (int m) (int n) = .ok (decide (m < n)) := by
  rw [int, int, holds_below_numbers, Number.lt_int]
  rfl

theorem holds_atMost_int (m n : Int) : holds .atMost (int m) (int n) = .ok (decide (m ≤ n)) := by
  rw [int, int, holds_atMost_numbers, Number.le_int]
  rfl

theorem holds_below_float (x y : Double) : holds .below (float x) (float y) = .ok (x.lt y) := by
  rw [float, float, holds_below_numbers, Number.lt_float]
  rfl

theorem holds_atMost_float (x y : Double) : holds .atMost (float x) (float y) = .ok (x.le y) := by
  rw [float, float, holds_atMost_numbers, Number.le_float]
  rfl

theorem holds_atLeast_float (x y : Double) :
    holds .atLeast (float x) (float y) = .ok (y.le x) := by
  rw [float, float, holds_atLeast_numbers, Number.le_float]
  rfl

theorem exists_whole_of_toIndex {v : Value} {n : Int} (h : v.toIndex = .ok n) :
    ∃ x, v = number x ∧ x.whole? = some n := by
  cases v with
  | number x =>
    refine ⟨x, rfl, ?_⟩
    cases x with
    | truth _ | int _ | refusal _ =>
      cases h
      rfl
    | item e | cell e =>
      cases e with
      | signed _ | unsigned _ =>
        cases h
        rfl
      | _ => cases h
    | _ => cases h
  | _ => cases h

/-- Positions are compared as whole numbers. -/
theorem holds_below_of_toIndex {v w : Value} {m n : Int} (hv : v.toIndex = .ok m)
    (hw : w.toIndex = .ok n) : holds .below v w = .ok (decide (m < n)) := by
  obtain ⟨x, rfl, hx⟩ := exists_whole_of_toIndex hv
  obtain ⟨y, rfl, hy⟩ := exists_whole_of_toIndex hw
  rw [holds_below_numbers, Number.lt_of_whole? hx hy]
  rfl

theorem holds_atMost_of_toIndex {v w : Value} {m n : Int} (hv : v.toIndex = .ok m)
    (hw : w.toIndex = .ok n) : holds .atMost v w = .ok (decide (m ≤ n)) := by
  obtain ⟨x, rfl, hx⟩ := exists_whole_of_toIndex hv
  obtain ⟨y, rfl, hy⟩ := exists_whole_of_toIndex hw
  rw [holds_atMost_numbers, Number.le_of_whole? hx hy]
  rfl

theorem equals_int_float (n : Int) (x : Double) :
    equals (int n) (float x) = .ok ((Number.int n).same (.float x)) := by
  rw [equals, depth_number, depth_number, equalsUpTo]
  rfl

theorem equals_float_int (x : Double) (n : Int) :
    equals (float x) (int n) = .ok ((Number.float x).same (.int n)) := by
  rw [equals, float, int, depth_number, depth_number, equalsUpTo]
  rfl

theorem equals_int (m n : Int) : equals (int m) (int n) = .ok (decide (m = n)) := by
  rw [equals, depth_number, depth_number, equalsUpTo]
  exact congrArg Except.ok (Number.same_int m n)

theorem truthy_bool (view : View) (b : Bool) : truthy view (.bool b) = .ok b := by
  show Except.ok (!(Number.truth b).same (.int 0)) = _
  have hsame : (Number.truth b).same (.int 0) = (Number.int (truthNumber b)).same (.int 0) := by
    cases b <;> rfl
  rw [hsame, Number.same_int]
  cases b <;> rfl

/-- Every whole number but zero counts as true. -/
theorem truthy_int (view : View) (n : Int) : truthy view (.int n) = .ok !decide (n = 0) :=
  congrArg (fun b => Except.ok !b) (Number.same_int n 0)

/-- Every refusal has a status that counts as true. -/
theorem truthy_refusal (view : View) (r : Refusal) : truthy view (refusal r) = .ok true := by
  show Except.ok (!(Number.int r.code).same (.int 0)) = _
  rw [Number.same_int, decide_eq_false r.code_ne_zero]
  rfl

/-- The status of an accepted call does not. -/
theorem truthy_accepted (view : View) : truthy view Engine.accepted = .ok false :=
  truthy_int view 0

end Value

end Milp

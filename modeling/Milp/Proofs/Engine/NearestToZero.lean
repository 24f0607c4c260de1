import Milp.Proofs.Engine.Solution
import Milp.Proofs.LinearExpr.Assignment
import Milp.Proofs.Double.Rounding
import Milp.Proofs.Domain
set_option autoImplicit false

/-! # The solver that stays near zero

An engine without a real solver gives each column the number between its bounds that is nearest to
zero. If the bounds are finite and in order, this number is zero cut to the bounds: it is between them
itself, no number between them is nearer to zero, and it is whole where both of them are
(`nearestToZero_spec`). An engine that has been solved in this way tells just these numbers, and
the sum of their products with the objective (`optimize_nearest`). -/

namespace Milp

/-- Whether an engine solves by staying near zero. -/
inductive Backend.StaysNearZero : Backend → Prop where
  | nearestToZero : StaysNearZero .nearestToZero
  | faulty (fs : List InjectedFailure) : StaysNearZero (.faulty fs)

/-- Whether some backends are without the native solver, and orders to fail make no difference. -/
structure Backend.InMemory (B : Backend → Prop) : Prop where
  orders (fs gs : List InjectedFailure) (h : B (.faulty fs)) : B (.faulty gs)
  notNative (i : Option Nat) : ¬B (.native i)

theorem Backend.staysNearZero_inMemory : InMemory StaysNearZero :=
  ⟨fun _ gs _ => .faulty gs, nofun⟩

theorem Backend.nearestToZero_inMemory : InMemory (· = .nearestToZero) :=
  ⟨fun _ _ h => Backend.noConfusion h, fun _ h => Backend.noConfusion h⟩

/-! ## Numbers -/

/-- A double is the number between two others that is nearest to zero. -/
structure NearestToZero (lower upper x : Double) : Prop where
  finite : x.isFinite = true
  between : (x.value : ℝ) ∈ (Number.float lower).between (.float upper)
  nearest : ∀ r ∈ (Number.float lower).between (.float upper), |(x.value : ℝ)| ≤ |r|

namespace Engine

variable {l u : Double} {a b : Int}

theorem place?_larger {x y : Double} (hx : x.place? = some (.point a))
    (hy : y.place? = some (.point b)) :
    (if x.lt y then y else x).place? = some (.point (max a b)) := by
  rw [Double.lt_of_places hx hy]
  show (if decide (a < b) = true then y else x).place? = _
  rcases lt_or_ge a b with h | h
  · rw [if_pos (decide_eq_true h), hy, max_eq_right h.le]
  · rw [if_neg (by simpa using h), hx, max_eq_left h]

theorem place?_smaller {x y : Double} (hx : x.place? = some (.point a))
    (hy : y.place? = some (.point b)) :
    (if y.lt x then y else x).place? = some (.point (min a b)) := by
  rw [Double.lt_of_places hy hx]
  show (if decide (b < a) = true then y else x).place? = _
  rcases lt_or_ge b a with h | h
  · rw [if_pos (decide_eq_true h), hy, min_eq_right h.le]
  · rw [if_neg (by simpa using h), hx, min_eq_left h]

/-- What is nearest to zero between two bounds is zero cut to them. -/
theorem place?_nearestToZero (hl : l.place? = some (.point a)) (hu : u.place? = some (.point b)) :
    (nearestToZero l u).place? = some (.point (min (max 0 a) b)) :=
  place?_smaller (place?_larger Double.place?_zero hl) hu

theorem value_of_point {x : Double} {n : Int} (h : x.place? = some (.point n)) :
    x.value = (n : ℚ) / stepsPerUnit := by
  rw [Double.value, Double.value?, h]
  rfl

theorem mem_between_points {r : ℝ} (hl : l.place? = some (.point a))
    (hu : u.place? = some (.point b)) :
    r ∈ (Number.float l).between (.float u) ↔
      (a : ℝ) / stepsPerUnit ≤ r ∧ r ≤ (b : ℝ) / stepsPerUnit := by
  show (Number.float l).AtMost r ∧ (Number.float u).AtLeast r ↔ _
  rw [Number.atMost_iff (x := .float l) hl, Number.atLeast_iff (x := .float u) hu]
  simp only [Place.toEReal, EReal.coe_le_coe_iff]

/-- No number between two bounds is nearer to zero than zero cut to them. -/
theorem nearestToZero_spec (hl : l.place? = some (.point a)) (hu : u.place? = some (.point b))
    (hab : a ≤ b) : NearestToZero l u (nearestToZero l u) := by
  have hplace := place?_nearestToZero hl hu
  have hpos : (0 : ℝ) < stepsPerUnit := Nat.cast_pos.2 stepsPerUnit_pos
  have hvalue : ((nearestToZero l u).value : ℝ) =
      ((min (max 0 a) b : Int) : ℝ) / stepsPerUnit := by
    rw [value_of_point hplace]
    push_cast
    rfl
  refine ⟨Double.isFinite_iff.2 ⟨_, hplace⟩, ?_, fun r hr => ?_⟩
  · rw [mem_between_points hl hu, hvalue]
    constructor
    · refine div_le_div_of_nonneg_right ?_ hpos.le
      exact_mod_cast le_min (le_max_right 0 a) hab
    · refine div_le_div_of_nonneg_right ?_ hpos.le
      exact_mod_cast min_le_right _ b
  · obtain ⟨hlow, hhigh⟩ := (mem_between_points hl hu).1 hr
    rw [hvalue]
    rcases lt_or_ge 0 a with ha | ha
    · -- all numbers between the bounds are above zero, and the lower bound is the first of them
      have hzero : (0 : ℝ) ≤ (a : ℝ) / stepsPerUnit := by positivity
      rw [max_eq_right ha.le, min_eq_left hab, abs_of_nonneg hzero]
      exact hlow.trans (le_abs_self r)
    · rw [max_eq_left ha]
      rcases lt_or_ge b 0 with hb | hb
      · have hzero : (b : ℝ) / stepsPerUnit ≤ 0 :=
          div_nonpos_of_nonpos_of_nonneg (by exact_mod_cast hb.le) hpos.le
        rw [min_eq_right hb.le, abs_of_nonpos hzero]
        exact (neg_le_neg hhigh).trans (neg_le_abs r)
      · rw [min_eq_left hb, Int.cast_zero, zero_div, abs_zero]
        exact abs_nonneg r

/-- Between whole bounds it is a whole number. -/
theorem nearestToZero_whole (hl : l.place? = some (.point (a * stepsPerUnit)))
    (hu : u.place? = some (.point (b * stepsPerUnit))) :
    ∃ n : Int, (nearestToZero l u).value = n := by
  have hpos : (0 : Int) < stepsPerUnit := steps_pos
  refine ⟨min (max 0 a) b, ?_⟩
  have hne : (stepsPerUnit : ℚ) ≠ 0 := Nat.cast_ne_zero.2 stepsPerUnit_pos.ne'
  have hmin : min (max 0 (a * (stepsPerUnit : Int))) (b * stepsPerUnit) =
      min (max 0 a) b * stepsPerUnit := by
    rw [min_mul_of_nonneg _ _ hpos.le, max_mul_of_nonneg _ _ hpos.le, zero_mul]
  rw [value_of_point (place?_nearestToZero hl hu), hmin, Int.cast_mul, Int.cast_natCast,
    mul_div_cancel_right₀ _ hne]

/-! ## Solving -/

open Milp.Action

/-- What stands behind an engine is one of some things. -/
def HasBackend (B : Backend → Prop) (s : Engine × Surroundings) : Prop := B s.1.backend

variable {B : Backend → Prop}

theorem HasBackend.patient (hB : Backend.InMemory B) : Patient (HasBackend B) := by
  intro s t ha hending hs
  cases ha with
  | orders e w fs gs h =>
    have hs : B e.backend := hs
    exact hB.orders fs gs (h ▸ hs)
  | finish e w backend h =>
    rcases h with rfl | rfl
    · exact hs
    · -- an engine with the native solver keeps no log, and this one does
      have hlogs : (!Engine.isNative { e with ended := true, backend := .native none }) =
          !e.isNative := congrArg Ending.logs hending
      have hnative : e.isNative = true := (Bool.not_inj hlogs).symm
      have hs : B e.backend := hs
      cases hbackend : e.backend with
      | native i => exact absurd (hbackend ▸ hs) (hB.notNative i)
      | _ =>
        rw [isNative, hbackend] at hnative
        cases hnative
  | _ => exact hs

/-- Such an engine has been solved: its solution is the one near zero. -/
def SolvedNearZero (s : Engine × Surroundings) : Prop :=
  ∃ iis, s.1.solution = zeroSolution s.1.columns iis

/-- Solving that is accepted stores the solution near zero. -/
theorem optimize_nearest : Leads (HasBackend Backend.StaysNearZero) optimize
    (Answered (HasBackend Backend.StaysNearZero) SolvedNearZero)
    (HasBackend Backend.StaysNearZero) := by
  have hheedless := Patient.heedless (HasBackend.patient Backend.staysNearZero_inMemory)
  refine recorded_answered hheedless rfl (engine_then fun s hs => ?_)
  have hs : s.1.backend.StaysNearZero := hs
  cases hbackend : s.1.backend with
  | nearestToZero | faulty fs => exact fun t ht => .inl ⟨rfl, _, rfl⟩
  | store | native i =>
    rw [hbackend] at hs
    cases hs

/-! ## Reading -/

variable {e : Engine} {w : Surroundings}

/-- The value that is read of a column is the one in the solution. -/
theorem perform_getVarAttribute_value {i : Nat} {c : Column} {values : List Double} {x : Double}
    (h : e.injected? "get_var_attr" = none) (hc : e.columns[i]? = some c)
    (hvalues : e.solution.values = some values) (hx : values[i]? = some x) :
    (getVarAttribute (.text VarAttribute.value.label) (.int i)).perform (e, w) =
      (.ok (found (.float x)), e, w) := by
  have hposition : (Action.ofExcept (isPosition (.int i) e.columns.length) : Acting Bool).perform
      (e, w) = (.ok true, e, w) := by
    rw [isPosition_of_getElem? hc]
    rfl
  unfold getVarAttribute readUnlessInjected
  rw [perform_unlessInjected h, perform_bind_of_ok perform_engine, perform_bind_of_ok hposition]
  simp only [Bool.not_true, Bool.false_eq_true, if_false]
  rw [Value.equals_text, hvalues, solutionAnswer, elementAt_int hx]
  rfl

theorem perform_getObjective {x : Number} (h : e.injected? "get_dbl_attr" = none)
    (hx : e.solution.objective = some x) :
    (getObjective (.text objectiveAttribute)).perform (e, w) =
      (.ok (found (.number x)), e, w) := by
  have hname : (ofFault ((Value.text objectiveAttribute).equals (.text objectiveAttribute)) :
      Acting Bool).perform (e, w) = (.ok true, e, w) := by
    rw [Value.equals_text]
    rfl
  rw [getObjective, readUnlessInjected, perform_unlessInjected h, perform_bind_of_ok hname]
  simp only [Bool.not_true, Bool.false_eq_true, if_false]
  rw [perform_bind_of_ok perform_engine, hx]
  rfl

end Engine

end Milp

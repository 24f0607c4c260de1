import Milp.Proofs.Engine.Frame
import Milp.Proofs.Engine.Arguments
set_option autoImplicit false

/-! # Reading attributes

A reader that is not made to fail answers what is stored for the column or row at a position, and
changes nothing. -/

namespace Milp

theorem Value.equals_text (s t : String) : equals (.text s) (.text t) = .ok (decide (s = t)) := by
  have hdepth (u : String) : depth (.text u) = 0 := rfl
  rw [equals, hdepth, hdepth, equalsUpTo.eq_def]
  rfl

namespace Engine

open Milp.Action

variable {e : Engine} {w : Surroundings}

theorem perform_engine : engine.perform (e, w) = (.ok e, e, w) := rfl

theorem perform_injectedCode_none {operation : String} (h : e.injected? operation = none) :
    (injectedCode operation).perform (e, w) = (.ok accepted, e, w) := by
  rw [injectedCode, perform_bind_of_ok perform_engine, h]
  rfl

theorem perform_isTrue_bind {α : Type} (v : Value) (f : Bool → Acting α) :
    (isTrue v >>= f).perform (e, w) =
      match v.truthy w.view with
      | .ok b => (f b).perform (e, w)
      | .error x => (.error (.fault x), e, w) := by
  show (ofFault (v.truthy w.view) >>= f).perform (e, w) = _
  cases v.truthy w.view <;> rfl

theorem perform_unlessInjected {α : Type} {operation : String} (h : e.injected? operation = none)
    (refuse : Value → α) (x : Acting α) :
    (unlessInjected operation refuse x).perform (e, w) = x.perform (e, w) := by
  rw [unlessInjected, perform_bind_of_ok (perform_injectedCode_none h), perform_isTrue_bind,
    Value.truthy_accepted]
  rfl

theorem elementAt_int {α : Type} {xs : List α} {i : Nat} {x : α} (h : xs[i]? = some x) :
    elementAt xs (.int i) = .ok x := by
  have hindex : (Value.int i).toIndex = .ok (i : Int) := rfl
  unfold elementAt
  rw [hindex]
  simp only [bind, Except.bind, Int.toNat_natCast, h]
  rfl

theorem isPosition_of_getElem? {α : Type} {xs : List α} {i : Nat} {x : α} (h : xs[i]? = some x) :
    isPosition (.int i) xs.length = .ok true := by
  obtain ⟨hi, -⟩ := List.getElem?_eq_some_iff.1 h
  rw [isPosition_int, decide_eq_true hi]

/-- What is read of a column is what is stored for it. -/
theorem perform_getVarAttribute {a : VarAttribute} {i : Nat} {c : Column} (ha : a ≠ .value)
    (h : e.injected? "get_var_attr" = none) (hc : e.columns[i]? = some c) :
    (getVarAttribute (.text a.label) (.int i)).perform (e, w) =
      (.ok (found (columnAttribute c a)), e, w) := by
  have hlabel : Value.equals (.text a.label) (.text VarAttribute.value.label) = .ok false := by
    rw [Value.equals_text, decide_eq_false]
    revert ha
    cases a <;> decide
  have hdecode : decode VarAttribute.ofLabel? (.text a.label) = .ok (some a) := by
    cases a <;> rfl
  have hposition : (Action.ofExcept (isPosition (.int i) e.columns.length) : Acting Bool).perform (e, w) =
      (.ok true, e, w) := by
    rw [isPosition_of_getElem? hc]
    rfl
  unfold getVarAttribute readUnlessInjected
  rw [perform_unlessInjected h, perform_bind_of_ok perform_engine, perform_bind_of_ok hposition]
  simp only [Bool.not_true, Bool.false_eq_true, if_false]
  rw [hlabel, hdecode, elementAt_int hc]
  rfl

theorem attributeOf_name (a : ModelAttribute) :
    attributeOf ModelAttribute.name (.text a.name) ModelAttribute.all = .ok (some a) := by
  cases a <;> simp [attributeOf, ModelAttribute.all, ModelAttribute.name, Value.equals_text, bind,
    Except.bind, pure, Except.pure]

/-- What is read of the model is what is stored for it. -/
theorem perform_getModelAttribute (a : ModelAttribute) (h : e.injected? "get_int_attr" = none) :
    (getModelAttribute (.text a.name)).perform (e, w) = (.ok (found (modelAttribute e a)), e, w) := by
  rw [getModelAttribute, readUnlessInjected, perform_unlessInjected h, attributeOf_name]
  rfl

/-- What a row has for an attribute; whether it is in an irreducible infeasible subsystem is not its
own. -/
def rowAttribute (r : Row) : ConstraintAttribute → Value
  | .bound => .float r.bound
  | .sense => .text r.sense.code
  | .name => r.name
  | .inIis => .nothing

/-- What is answered for a row, which is its own unless it is about a subsystem. -/
theorem perform_getConstraintAttribute_of_row (a : ConstraintAttribute) {i : Nat} {r : Row}
    (h : e.injected? "get_constr_attr" = none) (hr : e.rows[i]? = some r) :
    (getConstraintAttribute (.text a.label) (.int i)).perform (e, w) =
      (ofFault (if a = .inIis then iisAnswer e.solution.iis (.int i)
        else .ok (found (rowAttribute r a))) : Acting Answer).perform (e, w) := by
  have hattribute : attributeOf ConstraintAttribute.label (.text a.label)
      [.bound, .sense, .name, .inIis] = .ok (some a) := by
    cases a <;> simp [attributeOf, Value.equals_text, ConstraintAttribute.label, bind, Except.bind,
      pure, Except.pure]
  have hposition : (Action.ofExcept (isPosition (.int i) e.rows.length) : Acting Bool).perform (e, w) =
      (.ok true, e, w) := by
    rw [isPosition_of_getElem? hr]
    rfl
  unfold getConstraintAttribute readUnlessInjected
  rw [perform_unlessInjected h, perform_bind_of_ok perform_engine, perform_bind_of_ok hposition]
  simp only [Bool.not_true, Bool.false_eq_true, if_false]
  rw [elementAt_int hr, hattribute]
  cases a <;> rfl

/-- What is read of a row is what is stored for it. -/
theorem perform_getConstraintAttribute {a : ConstraintAttribute} {i : Nat} {r : Row}
    (ha : a ≠ .inIis) (h : e.injected? "get_constr_attr" = none) (hr : e.rows[i]? = some r) :
    (getConstraintAttribute (.text a.label) (.int i)).perform (e, w) =
      (.ok (found (rowAttribute r a)), e, w) := by
  rw [perform_getConstraintAttribute_of_row a h hr, if_neg ha]
  rfl

/-- Whether a row is in the subsystem that was found last. -/
theorem perform_getConstraintAttribute_inIis {i : Nat} {r : Row} {iis : List Nat}
    (h : e.injected? "get_constr_attr" = none) (hr : e.rows[i]? = some r)
    (hiis : e.solution.iis = some iis) :
    (getConstraintAttribute (.text ConstraintAttribute.inIis.label) (.int i)).perform (e, w) =
      (.ok (found (.int (if i ∈ iis then 1 else 0))), e, w) := by
  have hany : (iis.any fun r => (r : Int) = (i : Int)) = decide (i ∈ iis) := by
    rw [Bool.eq_iff_iff, List.any_eq_true, decide_eq_true_iff]
    simp only [decide_eq_true_eq, Int.ofNat_inj, exists_eq_right]
  have hanswer : iisAnswer e.solution.iis (.int i) =
      .ok (found (.int (if (iis.any fun r => (r : Int) = (i : Int)) then 1 else 0))) := by
    rw [hiis]
    rfl
  rw [perform_getConstraintAttribute_of_row .inIis h hr, if_pos rfl, hanswer, hany]
  simp only [decide_eq_true_eq]
  rfl

end Engine

end Milp

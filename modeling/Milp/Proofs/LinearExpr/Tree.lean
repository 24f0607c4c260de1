import Milp.Proofs.LinearExpr.Assignment
set_option autoImplicit false

/-! # Trees of operators are computed on their leaves

A tree of variables, numbers and operators comes to a number or to an expression. Each operator
carries the values that its operands have at an assignment over to its result, as long as nothing is
rounded (`Value.ValueAt.combine`, `Value.ValueAt.negate`); so the value of a tree is the one that is
computed on the numbers that the assignment puts in the place of its variables
(`OperatorTree.valueAt_eval`). Together with what operators do to single coefficients, this is the
arithmetic of expressions (`LinearExpr.arithmetic_pointwise`). -/

namespace Milp

open Double (Alike)

/-! ## Operators without rounding -/

/-- No number that comes up when an operator meets two values is rounded. -/
inductive Operator.Unrounded (op : Operator) : Value → Value → Prop where
  | numbers {x y : Number} : op.ExactOn x y → Unrounded op (.number x) (.number y)
  | expressions {v w : Value} {a b : LinearExpr} : v.operand? = some a → w.operand? = some b →
      (∀ t ∈ a.terms ++ b.terms,
        op.ExactOn (.float (a.coefficient t.1)) (.float (b.coefficient t.1))) →
      Unrounded op v w
  | numberRight {v : Value} {e : LinearExpr} {x : Number} : v.operand? = some e →
      (∀ t ∈ e.terms, op.ExactOn (.float t.2) x) → Unrounded op v (.number x)
  | numberLeft {w : Value} {e : LinearExpr} {x : Number} : w.operand? = some e →
      (∀ t ∈ e.terms, op.ExactOn (.float t.2) x) → Unrounded op (.number x) w

namespace OperatorTree

/-- A tree of variables, plain numbers and operators, in which no number is rounded. -/
def Unrounded (view : View) : OperatorTree → Prop
  | member _ => True
  | number x => x.element? = none ∧ x.value?.isSome = true
  | operate op a b => a.Unrounded view ∧ b.Unrounded view ∧ op.rational?.isSome = true ∧
      ∀ v w, a.eval view = .ok v → b.eval view = .ok w → op.Unrounded v w
  | negate t => t.Unrounded view
  | _ => False

/-- The number that a tree comes to, computed on the numbers that an assignment gives its
variables. -/
def compute (σ : Nat → ℚ) : OperatorTree → Option ℚ
  | member v => some (σ v.id)
  | number x => x.value?
  | operate op a b => do return (← op.rational?) (← a.compute σ) (← b.compute σ)
  | negate t => (fun q => -q) <$> t.compute σ
  | _ => none

end OperatorTree

/-- A value is a plain number or an expression, and has the value `q` at an assignment. -/
inductive Value.ValueAt (σ : Nat → ℚ) : Value → ℚ → Prop where
  | number {x : Number} {q : ℚ} : x.element? = none → x.value? = some q → ValueAt σ (.number x) q
  | expression {v : Value} {e : LinearExpr} : v.operand? = some e → ValueAt σ v (e.valueAt σ)

/-! ## One operator -/

namespace Number

/-- Plain numbers are combined to a plain number. -/
theorem plain_of_apply {o : Operation} {x y z : Number} (hx : x.element? = none)
    (hy : y.element? = none) (h : o.apply x y = .ok z) : z.element? = none := by
  rw [Operation.apply.eq_def] at h
  simp only [hx, hy] at h
  split at h
  · cases h
    rfl
  · split at h <;>
    · obtain ⟨_, _, h⟩ := bind_eq_ok_iff.1 h
      obtain ⟨_, _, h⟩ := bind_eq_ok_iff.1 h
      cases h
      rfl

theorem eq_zero_of_same {x : Number} {q : ℚ} (hx : x.element? = none) (hq : x.value? = some q)
    (h : (Value.number x).same (.int 0) = true) : q = 0 := by
  have hsame : x.same (.int 0) = true := by
    rw [Value.int, Value.same, Value.sameNumber, Number.eq, hx] at h
    exact h
  obtain ⟨place, hplace, hq⟩ := Option.bind_eq_some_iff.1 hq
  rw [same_of_place? hx rfl hplace rfl, Int.zero_mul] at hsame
  obtain rfl : place = .point 0 := of_decide_eq_true hsame
  rw [← Option.some.inj hq, Int.cast_zero, zero_div]

end Number

namespace Value.ValueAt

variable {σ : Nat → ℚ} {v w r : Value} {e : LinearExpr} {x y : Number} {p q : ℚ} {op : Operator}
  {f : ℚ → ℚ → ℚ}

theorem of_valueAt (h : e.valueAt σ = p) : ValueAt σ (.expr 0 e) p := h ▸ .expression rfl

theorem of_operand (h : ValueAt σ v p) (hv : v.operand? = some e) : p = e.valueAt σ := by
  cases h with
  | number => cases hv
  | expression hv' => rw [Option.some.inj (hv.symm.trans hv')]

theorem of_number (h : ValueAt σ (.number x) p) : x.element? = none ∧ x.value? = some p := by
  cases h with
  | number hx hp => exact ⟨hx, hp⟩
  | expression hv => cases hv

theorem numbers (hx : ValueAt σ (.number x) p) (hy : ValueAt σ (.number y) q)
    (hexact : op.ExactOn x y) (hf : op.rational? = some f)
    (h : Value.combine 0 op (.number x) (.number y) = .ok r) : ValueAt σ r (f p q) := by
  obtain ⟨hx, hp⟩ := hx.of_number
  obtain ⟨hy, hq⟩ := hy.of_number
  obtain ⟨f', p', q', z, hf', hp', hq', hz, hvalue⟩ := hexact.exists_value
  obtain rfl : f = f' := Option.some.inj (hf.symm.trans hf')
  obtain rfl : p = p' := Option.some.inj (hp.symm.trans hp')
  obtain rfl : q = q' := Option.some.inj (hq.symm.trans hq')
  rw [combine_numbers, hz] at h
  cases h
  refine .number ?_ hvalue
  cases op with
  | plus | minus | times =>
    obtain ⟨z', hz', heq⟩ := map_eq_ok_iff.1 hz
    cases heq
    exact Number.plain_of_apply hx hy hz'
  | _ => cases hf

theorem expressions {a b : LinearExpr} (ha : v.operand? = some a) (hb : w.operand? = some b)
    (hexact : ∀ t ∈ a.terms ++ b.terms,
      op.ExactOn (.float (a.coefficient t.1)) (.float (b.coefficient t.1)))
    (hf : op.rational? = some f) (h : Value.combine 0 op v w = .ok r) :
    ValueAt σ r (f (a.valueAt σ) (b.valueAt σ)) := by
  rw [combine_operand 0 op ha] at h
  cases op with
  | plus =>
    cases hf
    obtain ⟨e, he, rfl⟩ := map_eq_ok_iff.1 h
    obtain ⟨b', hb', rfl⟩ := LinearExpr.of_plusValue he
    obtain rfl : b = b' := Option.some.inj (hb.symm.trans hb')
    exact of_valueAt (LinearExpr.valueAt_plus hexact)
  | minus =>
    cases hf
    obtain ⟨e, he, rfl⟩ := map_eq_ok_iff.1 h
    obtain ⟨b', hb', rfl⟩ := LinearExpr.of_minusValue he
    obtain rfl : b = b' := Option.some.inj (hb.symm.trans hb')
    exact of_valueAt (LinearExpr.valueAt_minus hexact)
  | times =>
    -- two expressions have no product
    obtain ⟨e, he, rfl⟩ := map_eq_ok_iff.1 h
    obtain ⟨x, rfl, -⟩ := LinearExpr.of_timesValue he
    cases hb
  | _ => cases hf

theorem product (hx : x.element? = none) (hq : x.value? = some q)
    (hexact : ∀ t ∈ e.terms, Operator.times.ExactOn (.float t.2) x)
    (h : expr 0 <$> e.timesValue (.number x) = .ok r) : ValueAt σ r (e.valueAt σ * q) := by
  obtain ⟨p, hp, rfl⟩ := map_eq_ok_iff.1 h
  obtain ⟨y, hy, hp⟩ := LinearExpr.of_timesValue hp
  obtain rfl := Value.number.inj hy
  exact of_valueAt (LinearExpr.valueAt_timesNumber hx hq hp hexact)

theorem numberRight (hv : v.operand? = some e) (hx : ValueAt σ (.number x) q)
    (hexact : ∀ t ∈ e.terms, op.ExactOn (.float t.2) x) (hf : op.rational? = some f)
    (h : Value.combine 0 op v (.number x) = .ok r) : ValueAt σ r (f (e.valueAt σ) q) := by
  obtain ⟨hx, hq⟩ := hx.of_number
  rw [combine_operand 0 op hv] at h
  cases op with
  | plus =>
    obtain ⟨p, hp, rfl⟩ := map_eq_ok_iff.1 h
    obtain ⟨b, hb, rfl⟩ := LinearExpr.of_plusValue hp
    cases hb
  | minus =>
    obtain ⟨p, hp, rfl⟩ := map_eq_ok_iff.1 h
    obtain ⟨b, hb, rfl⟩ := LinearExpr.of_minusValue hp
    cases hb
  | times =>
    cases hf
    exact product hx hq hexact h
  | _ => cases hf

theorem numberLeft (hx : ValueAt σ (.number x) p) (hw : w.operand? = some e)
    (hexact : ∀ t ∈ e.terms, op.ExactOn (.float t.2) x) (hf : op.rational? = some f)
    (h : Value.combine 0 op (.number x) w = .ok r) : ValueAt σ r (f p (e.valueAt σ)) := by
  obtain ⟨hx, hp⟩ := hx.of_number
  rw [combine_number 0 op hx hw] at h
  cases op with
  | plus =>
    cases hf
    rw [Operator.onExprRight.eq_def] at h
    dsimp only at h
    split at h
    · -- what is added to zero stays as it is
      rename_i hzero
      obtain rfl := Number.eq_zero_of_same hx hp (Bool.and_eq_true_iff.1 hzero).2
      have hr : r.operand? = some e := by
        rw [← Except.ok.inj h]
        split
        · exact hw
        · rfl
      have hsum : ValueAt σ r (e.valueAt σ) := .expression hr
      rw [← zero_add (e.valueAt σ)] at hsum
      exact hsum
    · obtain ⟨q, hq, rfl⟩ := map_eq_ok_iff.1 h
      obtain ⟨b, hb, rfl⟩ := LinearExpr.of_plusValue hq
      cases hb
  | minus =>
    obtain ⟨q, hq, rfl⟩ := map_eq_ok_iff.1 h
    obtain ⟨b, hb, rfl⟩ := LinearExpr.of_plusValue hq
    cases hb
  | times =>
    cases hf
    have hvalue : ValueAt σ r (e.valueAt σ * p) := product hx hp hexact h
    rw [mul_comm] at hvalue
    exact hvalue
  | _ => cases hf

theorem combine (hv : ValueAt σ v p) (hw : ValueAt σ w q) (hop : op.Unrounded v w)
    (hf : op.rational? = some f) (h : Value.combine 0 op v w = .ok r) : ValueAt σ r (f p q) := by
  cases hop with
  | numbers hexact => exact hv.numbers hw hexact hf h
  | expressions ha hb hexact =>
    obtain rfl := hv.of_operand ha
    obtain rfl := hw.of_operand hb
    exact expressions ha hb hexact hf h
  | numberRight hv' hexact =>
    obtain rfl := hv.of_operand hv'
    exact numberRight hv' hw hexact hf h
  | numberLeft hw' hexact =>
    obtain rfl := hw.of_operand hw'
    exact numberLeft hv hw' hexact hf h

theorem negate (hv : ValueAt σ v p) (h : v.negate = .ok r) : ValueAt σ r (-p) := by
  rw [Value.negate, negateUpTo.eq_def] at h
  cases hv with
  | @number x _ hx hp =>
    obtain ⟨y, hy, rfl⟩ := map_eq_ok_iff.1 (Failure.lift_eq_ok.1 h)
    obtain ⟨hplain, hvalue⟩ := Number.value?_of_neg hx hp hy
    exact .number hplain hvalue
  | @expression _ e hv =>
    have hr : r = .expr 0 e.negate := by
      rcases operand?_cases hv with ⟨tag, rfl⟩ | ⟨x, rfl, rfl⟩
      · exact (Except.ok.inj h).symm
      · exact (Except.ok.inj h).symm
    rw [hr]
    exact of_valueAt (LinearExpr.valueAt_negate e σ)

end Value.ValueAt

/-! ## Trees -/

namespace OperatorTree

theorem valueAt_eval {view : View} {tree : OperatorTree} {v : Value} {σ : Nat → ℚ}
    (htree : tree.Unrounded view) (hv : tree.eval view = .ok v) :
    ∃ q, tree.compute σ = some q ∧ v.ValueAt σ q := by
  fun_induction Unrounded view tree generalizing v with
  | case1 x =>
    cases hv
    exact ⟨_, rfl, LinearExpr.valueAt_ofVar x σ ▸ .expression rfl⟩
  | case2 x =>
    obtain ⟨q, hq⟩ := Option.isSome_iff_exists.1 htree.2
    cases hv
    exact ⟨q, hq, .number htree.1 hq⟩
  | case3 op a b iha ihb =>
    obtain ⟨ha, hb, hnumbers, hop⟩ := htree
    obtain ⟨f, hf⟩ := Option.isSome_iff_exists.1 hnumbers
    obtain ⟨u, hu, hv⟩ := bind_eq_ok_iff.1 hv
    obtain ⟨w, hw, hv⟩ := bind_eq_ok_iff.1 hv
    obtain ⟨p, hp, hup⟩ := iha ha hu
    obtain ⟨q, hq, hwq⟩ := ihb hb hw
    refine ⟨f p q, ?_, hup.combine hwq (hop u w hu hw) hf hv⟩
    rw [compute, hf, hp, hq]
    rfl
  | case4 t ih =>
    obtain ⟨u, hu, hv⟩ := bind_eq_ok_iff.1 hv
    obtain ⟨p, hp, hup⟩ := ih htree hu
    refine ⟨-p, ?_, hup.negate hv⟩
    rw [compute, hp]
    rfl
  | case5 => exact htree.elim

end OperatorTree

namespace LinearExpr

/-- What operators do to coefficients, up to the sign of a zero. -/
structure Pointwise (a b : LinearExpr) : Prop where
  plus : ∀ v, Alike ((a.plus b).coefficient v) (a.coefficient v + b.coefficient v)
  minus : ∀ v, Alike ((a.minus b).coefficient v) (a.coefficient v + -b.coefficient v)
  negate : ∀ v, Alike (a.negate.coefficient v) (-a.coefficient v)
  times : ∀ (x : Number) (d : Double), (Value.number x).isNumber = true → x.Converts d →
    ∃ p, a.timesValue (.number x) = .ok p ∧ ∀ v, Alike (p.coefficient v) (a.coefficient v * d)

theorem pointwise (a b : LinearExpr) : a.Pointwise b where
  plus := coefficient_plus a b
  minus := coefficient_minus a b
  negate := coefficient_negate a
  times x d hx hd := by
    obtain ⟨p, hp, hcoefficient⟩ := coefficient_timesNumber hd a
    refine ⟨p, ?_, hcoefficient⟩
    rw [timesValue_number hx, hp]
    rfl

/-- Arithmetic is done coefficient by coefficient. So sums do not depend on the order of two terms,
two changes of sign cancel, a difference of an expression from itself is empty, and a tree in which
nothing is rounded has the value that is computed on its leaves. -/
theorem arithmetic_pointwise (a b : LinearExpr) :
    a.Pointwise b ∧
    (∀ v, (a.plus b).coefficient v = (b.plus a).coefficient v) ∧
    (∀ v, a.negate.negate.coefficient v = a.coefficient v) ∧
    ((∀ t ∈ a.terms, t.2.isFinite = true) → (a.minus a).terms = []) ∧
    ∀ (view : View) (tree : OperatorTree) (v : Value), tree.Unrounded view →
      tree.eval view = .ok v → ∀ σ, ∃ q, tree.compute σ = some q ∧ v.ValueAt σ q :=
  ⟨pointwise a b, coefficient_plus_comm a b, coefficient_negate_negate a, terms_minus_self,
    fun _ _ _ htree hv _ => OperatorTree.valueAt_eval htree hv⟩

/-- A number times a sum, and a variable taken away from it again. -/
theorem arithmetic_pointwise_tree :
    let named (id : Nat) : Var :=
      { id, domain := .default .continuous, lower := .int 0, upper := .int 1,
        objective := Double.zero, name := none }
    let a := (ofVar (named 1)).plus (ofVar (named 2))
    let tree : OperatorTree :=
      .operate .minus (.operate .times (.operate .plus (.member (named 1)) (.member (named 2)))
        (.number (.float 3))) (.member (named 1))
    (∃ p, a.timesValue (.int 3) = .ok p ∧
      ∀ v, Alike (p.coefficient v) (a.coefficient v * .ofInt 3)) ∧
    (a.minus a).terms = [] ∧
    tree.Unrounded .blank ∧ ∃ v, tree.eval .blank = .ok v ∧
      ∀ σ, ∃ q, tree.compute σ = some q ∧ v.ValueAt σ q := by
  intro named a tree
  have hpointwise := arithmetic_pointwise a a
  obtain ⟨hab, -, -, hempty, htrees⟩ := hpointwise
  have hsum : Value.combine 0 .plus (.var (named 1)) (.var (named 2)) = .ok (.expr 0 a) := by
    rw [Value.combine_operand 0 .plus rfl]
    rfl
  have hproduct : Value.combine 0 .times (.expr 0 a) (.float 3) = .ok (.expr 0 (a.times 3)) := by
    rw [Value.combine_operand 0 .times (e := a) rfl, Operator.onExpr, Value.float,
      timesValue_number rfl, timesNumber_float]
    rfl
  have hdifference : Value.combine 0 .minus (.expr 0 (a.times 3)) (.var (named 1)) =
      .ok (.expr 0 ((a.times 3).minus (ofVar (named 1)))) := by
    rw [Value.combine_operand 0 .minus (e := a.times 3) rfl]
    rfl
  have hleft : (OperatorTree.operate .times (.operate .plus (.member (named 1))
      (.member (named 2))) (.number (.float 3))).eval .blank = .ok (.expr 0 (a.times 3)) := by
    rw [OperatorTree.eval, show OperatorTree.eval .blank (.operate .plus (.member (named 1))
      (.member (named 2))) = .ok (.expr 0 a) from hsum]
    exact hproduct
  have htree : tree.Unrounded .blank := by
    refine ⟨⟨⟨trivial, trivial, rfl, ?_⟩, ⟨rfl, by decide +kernel⟩, rfl, ?_⟩, trivial, rfl, ?_⟩
    · rintro v w ⟨⟩ ⟨⟩
      exact .expressions (a := ofVar (named 1)) (b := ofVar (named 2)) rfl rfl (by decide +kernel)
    · intro v w hv hw
      obtain rfl : .expr 0 a = v := Except.ok.inj (hsum.symm.trans hv)
      cases hw
      exact .numberRight (e := a) rfl (by decide +kernel)
    · intro v w hv hw
      obtain rfl : .expr 0 (a.times 3) = v := Except.ok.inj (hleft.symm.trans hv)
      cases hw
      exact .expressions (a := a.times 3) (b := ofVar (named 1)) rfl rfl (by decide +kernel)
  have heval : tree.eval .blank = .ok (.expr 0 ((a.times 3).minus (ofVar (named 1)))) := by
    rw [OperatorTree.eval, hleft]
    exact hdifference
  have hfinite : (Double.ofInt 3).isFinite = true := by decide +kernel
  have hthree : Number.Converts (.int 3) (.ofInt 3) :=
    ⟨by rw [Number.toDouble, Number.doubleOf, if_pos hfinite], hfinite, by rintro _ ⟨⟩⟩
  exact ⟨hab.times (.int 3) (.ofInt 3) rfl hthree, hempty (by decide +kernel), htree, _, heval,
    htrees .blank tree _ htree heval⟩

end LinearExpr

end Milp

import Milp.Proofs.Double.Alike
import Mathlib.Data.List.Nodup
set_option autoImplicit false

/-! # Arithmetic is done coefficient by coefficient

Every operator puts the terms of its operands in one list, which is merged and cleared of zeros. Seen
from a single variable, all that happens is one addition, one change of sign or one product: a variable
without a term has the coefficient zero, and a term that comes to zero is as good as none
(`LinearExpr.coefficient_plus` and its siblings). -/

namespace Milp

open Double (Alike)

/-! ## Sums of coefficients -/

theorem total_append (ts us : List Term) (id : Nat) :
    total (ts ++ us) id = (us.filter (·.id = id)).foldl (fun k t => k + t.2) (total ts id) := by
  rw [total, total, List.filter_append, List.foldl_append]

theorem total_nil (id : Nat) : total [] id = Double.zero := total_of_not_mem List.not_mem_nil

namespace LinearExpr

variable {a b e : LinearExpr} {v : Var}

theorem mem_of_find? {ts : List Term} {t : Term} {id : Nat}
    (h : ts.find? (·.id = id) = some t) : t ∈ ts ∧ t.id = id :=
  ⟨List.mem_of_find?_eq_some h, by simpa using List.find?_some h⟩

theorem exists_var (id : Nat) : ∃ v : Var, v.id = id :=
  ⟨{ id, domain := .default .continuous, lower := .int 0, upper := .int 1,
     objective := Double.zero, name := none }, rfl⟩

/-- A variable has at most one term. -/
theorem filter_terms (e : LinearExpr) (id : Nat) :
    e.terms.filter (·.id = id) = (e.terms.find? (·.id = id)).toList := by
  have hfilter : ∀ ts : List Term, (ts.map Term.id).Nodup →
      ts.filter (·.id = id) = (ts.find? (·.id = id)).toList := by
    intro ts
    induction ts with
    | nil => exact fun _ => rfl
    | cons t rest ih =>
      intro hids
      rw [List.map_cons, List.nodup_cons] at hids
      by_cases ht : t.id = id
      · have hrest : rest.filter (·.id = id) = [] := by
          rw [List.filter_eq_nil_iff]
          intro u hu hid
          exact hids.1 (List.mem_map.2 ⟨u, hu, (of_decide_eq_true hid).trans ht.symm⟩)
        rw [List.filter_cons_of_pos (by simpa using ht), hrest,
          List.find?_cons_of_pos (by simpa using ht)]
        rfl
      · rw [List.filter_cons_of_neg (by simpa using ht), ih hids.2,
          List.find?_cons_of_neg (by simpa using ht)]
  exact hfilter e.terms e.distinct

/-- The terms of an expression that come after others add its coefficient. -/
theorem total_append_terms (ts : List Term) (e : LinearExpr) (v : Var) :
    Alike (total (ts ++ e.terms) v.id) (total ts v.id + e.coefficient v) := by
  rw [total_append, filter_terms, coefficient]
  cases e.terms.find? (·.id = v.id) with
  | none =>
    simp only [Option.toList_none, List.foldl_nil]
    exact (Double.add_alike_self _ Double.zero_eq_zero).symm
  | some t =>
    simp only [Option.toList_some, List.foldl_cons, List.foldl_nil]
    exact .refl _

theorem coefficient_alike_total (e : LinearExpr) (v : Var) :
    Alike (e.coefficient v) (total e.terms v.id) := by
  have htotal := total_append_terms [] e v
  rw [List.nil_append, total_nil] at htotal
  exact (htotal.trans (Double.zero_add_alike_self _)).symm

/-- What is dropped on the way to an expression was a zero. -/
theorem total_ofTerms (ts : List Term) (id : Nat) :
    Alike (total (ofTerms ts).terms id) (total ts id) := by
  have hcollects := collects_ofTerms ts
  have hsingle : total (ofTerms ts).terms id =
      ((ofTerms ts).terms.find? (·.id = id)).toList.foldl (fun k t => k + t.2) Double.zero := by
    rw [total, filter_terms]
  rw [hsingle]
  cases hfind : (ofTerms ts).terms.find? (·.id = id) with
  | some t =>
    obtain ⟨ht, rfl⟩ := mem_of_find? hfind
    have hne : t.2.eq Double.zero = false := (ofTerms ts).nonzero t ht
    simp only [Option.toList_some, List.foldl_cons, List.foldl_nil]
    rw [Double.zero_add_of_ne hne, hcollects.coefficient t ht]
    exact .refl _
  | none =>
    simp only [Option.toList_none, List.foldl_nil]
    by_cases hid : id ∈ ts.map Term.id
    · have habsent : id ∉ (ofTerms ts).ids := by
        intro hmem
        obtain ⟨t, ht, rfl⟩ := List.mem_map.1 hmem
        exact absurd (decide_eq_true rfl) (List.find?_eq_none.1 hfind t ht)
      exact (Double.alike_zero ((hcollects.absent id hid).1 habsent)).symm
    · rw [total_of_not_mem hid]
      exact .refl _

theorem coefficient_ofTerms (ts : List Term) (v : Var) :
    Alike ((ofTerms ts).coefficient v) (total ts v.id) :=
  (coefficient_alike_total _ v).trans (total_ofTerms ts v.id)

/-! ## Operators -/

theorem coefficient_plus (a b : LinearExpr) (v : Var) :
    Alike ((a.plus b).coefficient v) (a.coefficient v + b.coefficient v) := by
  refine (coefficient_ofTerms _ v).trans ((total_append_terms a.terms b v).trans ?_)
  exact (coefficient_alike_total a v).symm.add_right _

/-- An operation on each coefficient that leaves zero a zero. -/
theorem coefficient_map {f : Double → Double} (hf : (f Double.zero).eq Double.zero = true)
    (e : LinearExpr) (v : Var) :
    Alike ((ofTerms (e.terms.map fun t => (t.1, f t.2))).coefficient v) (f (e.coefficient v)) := by
  refine (coefficient_ofTerms _ v).trans ?_
  have hfilter : (e.terms.map fun t => (t.1, f t.2)).filter (fun t => Term.id t = v.id) =
      (e.terms.find? (·.id = v.id)).toList.map fun t => (t.1, f t.2) := by
    rw [← filter_terms, List.filter_map]
    rfl
  rw [total, hfilter, coefficient]
  cases e.terms.find? (·.id = v.id) with
  | none =>
    simp only [Option.toList_none, List.map_nil, List.foldl_nil]
    exact (Double.alike_zero hf).symm
  | some t =>
    simp only [Option.toList_some, List.map_cons, List.map_nil, List.foldl_cons, List.foldl_nil]
    exact Double.zero_add_alike_self _

theorem coefficient_negate (e : LinearExpr) (v : Var) :
    Alike (e.negate.coefficient v) (-e.coefficient v) :=
  coefficient_map (f := (-·)) (by decide +kernel) e v

theorem coefficient_minus (a b : LinearExpr) (v : Var) :
    Alike ((a.minus b).coefficient v)
      (Number.Operation.minus (a.coefficient v) (b.coefficient v)) :=
  (coefficient_plus a b.negate v).trans ((Alike.refl _).add (coefficient_negate b v))

end LinearExpr

/-! ## Factors -/

namespace Number

/-- A finite number that stands for a double. An element of an array may be complex, and it is its
real part that counts. -/
structure Converts (x : Number) (d : Double) : Prop where
  double : x.toDouble = .ok d
  finite : d.isFinite = true
  imaginary : ∀ e, x.element? = some e → e.imaginaryPart.isFinite = true

/-- A double meets an element in the kind that both are brought to. -/
theorem apply_element (o : Operation) {x : Number} {e : Element} (hx : x.element? = some e)
    (c : Double) :
    o.apply (float c) x = (do
      return item (← o.onElements (← (float c).toElement (e.kind.join .real))
        (← x.toElement (e.kind.join .real)))) := by
  have hc : (float c).element? = none := rfl
  have hjoint : jointKind (float c) x = e.kind.join .real := by
    rw [jointKind, hc, hx]
    rfl
  rw [Operation.apply.eq_def, hc, hx]
  simp only [hjoint]

/-- A coefficient that is multiplied by an element of an array is multiplied by its real part. -/
theorem mul_element {x : Number} {e : Element} (hx : x = item e ∨ x = cell e)
    (hreal : e.realPart.isFinite = true) (himaginary : e.imaginaryPart.isFinite = true)
    (c : Double) :
    ∃ y z, (float c).mul x = .ok y ∧ y.toDouble = .ok z ∧ Alike z (c * e.realPart) := by
  have helement : x.element? = some e := by rcases hx with rfl | rfl <;> rfl
  have hreals (hkind : e.kind.join .real = .real)
      (hd : x.toElement .real = .ok (.real e.realPart)) :
      ∃ y z, (float c).mul x = .ok y ∧ y.toDouble = .ok z ∧ Alike z (c * e.realPart) := by
    have hmul : Operation.product.apply (float c) x =
        .ok (item (.real (Operation.product.double c e.realPart))) := by
      rw [apply_element _ helement, hkind, hd]
      rfl
    refine ⟨_, c * e.realPart, hmul, ?_, .refl _⟩
    simp only [toDouble, Element.realPart, Operation.product]
  have hkinds (he : (item e).toElement .real = .ok (e.toKind .real))
      (hkind : e.toKind .real = .real e.realPart) : x.toElement .real = .ok (.real e.realPart) := by
    rw [← hkind, ← he]
    rcases hx with rfl | rfl <;> rfl
  cases e with
  | truth b => exact hreals rfl (hkinds rfl rfl)
  | real y => exact hreals rfl (hkinds rfl rfl)
  | signed n | unsigned n =>
    have hd : x.toElement .real = .real <$> doubleOf n := by rcases hx with rfl | rfl <;> rfl
    rw [Element.realPart] at hreal
    rw [doubleOf, if_pos hreal] at hd
    refine hreals rfl ?_
    rw [hd, Element.realPart]
    exact Except.map_ok _ _
  | complex re im =>
    have hd : x.toElement .complex = .ok (.complex re im) := by rcases hx with rfl | rfl <;> rfl
    -- the imaginary part of a coefficient is zero
    have hpart : Alike (Operation.minus (c * re) (Double.zero * im)) (c * re) := by
      refine Double.add_alike_self _ (Double.neg_eq_zero ?_)
      exact Double.zero_mul_eq_zero Double.zero_eq_zero himaginary
    have hmul (o : Operation) : o.apply (float c) x =
        .ok (item (.complex (o.complex (c, Double.zero) (re, im)).1
          (o.complex (c, Double.zero) (re, im)).2)) := by
      rw [apply_element _ helement]
      show (do return item (← o.onElements (.complex c Double.zero) (← x.toElement .complex))) = _
      rw [hd]
      rfl
    refine ⟨_, _, hmul _, ?_, hpart⟩
    simp only [toDouble, Element.realPart, Operation.product]

/-- A coefficient that is multiplied by a plain number is multiplied by the double of that. -/
theorem mul_plain {x : Number} (hx : x.element? = none) (hcomplex : ∀ re im, x ≠ complex re im)
    (c : Double) : (float c).mul x = (fun d => float (c * d)) <$> x.toDouble := by
  have happly (o : Operation) :
      o.apply (float c) x = (fun d => float (o.double c d)) <$> x.toDouble := by
    generalize hd : x.toDouble = result
    cases x with
    | item _ | cell _ => cases hx
    | complex re im => exact absurd rfl (hcomplex re im)
    | _ =>
      simp only [Operation.apply, element?, whole?, hd]
      cases result <;> rfl
  rw [Number.mul, happly]
  simp only [Operation.product]

theorem Converts.mul {x : Number} {d : Double} (h : x.Converts d) (c : Double) :
    ∃ y z, (float c).mul x = .ok y ∧ y.toDouble = .ok z ∧ Alike z (c * d) := by
  obtain ⟨hdouble, hfinite, himaginary⟩ := h
  have hplain (hx : x.element? = none) (hcomplex : ∀ re im, x ≠ complex re im) :
      ∃ y z, (float c).mul x = .ok y ∧ y.toDouble = .ok z ∧ Alike z (c * d) := by
    refine ⟨float (c * d), c * d, ?_, by rw [toDouble], .refl _⟩
    rw [mul_plain hx hcomplex, hdouble]
    rfl
  cases x with
  | item e =>
    cases hdouble
    exact mul_element (.inl rfl) hfinite (himaginary e rfl) c
  | cell e =>
    rw [toDouble] at hdouble
    split at hdouble
    · cases hdouble
    · cases hdouble
      exact mul_element (.inr rfl) hfinite (himaginary e rfl) c
  | complex re im => cases hdouble
  | _ => exact hplain rfl (by rintro _ _ ⟨⟩)

end Number

namespace LinearExpr

theorem terms_ofVar (v : Var) : (ofVar v).terms = [(v, Double.one)] := by
  have hone : Double.one.eq Double.zero = false := by decide +kernel
  have hmerge : mergeTerms [(v, Double.one)] = [(v, Double.one)] := by
    rw [mergeTerms, List.foldl_cons, List.foldl_nil, addTerm, Double.zero_add_of_ne hone]
  rw [ofVar, ofTerms]
  dsimp only
  rw [hmerge, List.filter_cons_of_pos (by rw [Term.isZero, hone]; rfl), List.filter_nil]

theorem coefficient_timesNumber {x : Number} {d : Double} (h : x.Converts d) (e : LinearExpr) :
    ∃ p, e.timesNumber x = .ok p ∧ ∀ v, Alike (p.coefficient v) (e.coefficient v * d) := by
  choose y f hy hf halike using h.mul
  have hterm (t : Term) : (do return (t.1, ← (← (Number.float t.2).mul x).toDouble)) =
      (.ok (t.1, f t.2) : Except Fault Term) := by
    rw [hy]
    show (do return (t.1, ← (y t.2).toDouble)) = (.ok (t.1, f t.2) : Except Fault Term)
    rw [hf]
    rfl
  have hterms := mapM_map_eq_ok (f := fun t : Term => t) hterm e.terms
  rw [List.map_id'] at hterms
  refine ⟨ofTerms (e.terms.map fun t => (t.1, f t.2)), ?_, fun v => ?_⟩
  · rw [timesNumber, hterms]
    rfl
  · have hzero : (f Double.zero).eq Double.zero = true := by
      rw [(halike Double.zero).eq_zero]
      exact Double.zero_mul_eq_zero Double.zero_eq_zero h.finite
    exact (coefficient_map hzero e v).trans (halike _)

/-! ## Equal coefficients -/

theorem coefficient_of_mem {e : LinearExpr} {t : Term} (h : t ∈ e.terms) :
    e.coefficient t.1 = t.2 := by
  rw [coefficient]
  cases hfind : e.terms.find? (·.id = t.1.id) with
  | none => exact absurd (decide_eq_true rfl) (List.find?_eq_none.1 hfind t h)
  | some u =>
    obtain ⟨hu, hid⟩ := mem_of_find? hfind
    have hut : u = t := List.inj_on_of_nodup_map e.distinct hu h hid
    rw [hut]

/-- A variable with the coefficient zero has no term. -/
theorem coefficient_eq_zero {e : LinearExpr} {v : Var}
    (h : (e.coefficient v).eq Double.zero = true) : e.coefficient v = Double.zero := by
  rw [coefficient] at h ⊢
  cases hfind : e.terms.find? (·.id = v.id) with
  | none => rfl
  | some t =>
    rw [hfind] at h
    cases h.symm.trans (e.nonzero t (mem_of_find? hfind).1)

theorem coefficient_eq_of_alike {a b : LinearExpr} {v w : Var}
    (h : Alike (a.coefficient v) (b.coefficient w)) : a.coefficient v = b.coefficient w := by
  rcases h with h | ⟨ha, hb⟩
  · exact h
  · rw [coefficient_eq_zero ha, coefficient_eq_zero hb]

/-- A difference of an expression from itself has no terms, as far as its coefficients are finite. -/
theorem terms_minus_self {e : LinearExpr} (h : ∀ t ∈ e.terms, t.2.isFinite = true) :
    (e.minus e).terms = [] := by
  rw [List.eq_nil_iff_forall_not_mem]
  intro t ht
  have hfinite : (e.coefficient t.1).isFinite = true := by
    rw [coefficient]
    cases hfind : e.terms.find? (·.id = t.1.id) with
    | none => exact Double.isFinite_iff.2 ⟨0, Double.place?_zero⟩
    | some u => exact h u (mem_of_find? hfind).1
  have hzero : (t.2).eq Double.zero = true := by
    rw [← coefficient_of_mem ht, (coefficient_minus e e t.1).eq_zero]
    exact Double.add_neg_eq_zero hfinite
  cases hzero.symm.trans ((e.minus e).nonzero t ht)

theorem coefficient_plus_comm (a b : LinearExpr) (v : Var) :
    (a.plus b).coefficient v = (b.plus a).coefficient v := by
  refine coefficient_eq_of_alike ((coefficient_plus a b v).trans ?_)
  rw [Double.add_comm]
  exact (coefficient_plus b a v).symm

theorem coefficient_negate_negate (e : LinearExpr) (v : Var) :
    e.negate.negate.coefficient v = e.coefficient v := by
  refine coefficient_eq_of_alike ((coefficient_negate _ v).trans ?_)
  refine (coefficient_negate e v).neg.trans ?_
  rw [Double.neg_neg]
  exact .refl _

end LinearExpr

/-! ## Operators on values -/

namespace Value

variable {v w : Value} {e : LinearExpr}

theorem operand?_cases (h : v.operand? = some e) :
    (∃ tag, v = .expr tag e) ∨ ∃ x, v = .var x ∧ e = LinearExpr.ofVar x := by
  cases v with
  | expr tag e' =>
    obtain rfl : e' = e := Option.some.inj h
    exact .inl ⟨tag, rfl⟩
  | var x => exact .inr ⟨x, rfl, (Option.some.inj h).symm⟩
  | _ => cases h

theorem ofValue_operand (h : v.operand? = some e) (caller : String) :
    LinearExpr.ofValue caller v = .ok e := by
  rcases operand?_cases h with ⟨tag, rfl⟩ | ⟨x, rfl, rfl⟩ <;> rfl

/-- An expression on the left decides what an operator does. -/
theorem combine_operand (id : Nat) (op : Operator) (h : v.operand? = some e) (w : Value) :
    combine id op v w = op.onExpr id e w := by
  rw [combine, combineUpTo.eq_def]
  simp only [h]

/-- A plain number on the left leaves the work to an expression on the right. -/
theorem combine_number (id : Nat) (op : Operator) {x : Number} (hx : x.element? = none)
    (h : w.operand? = some e) :
    combine id op (number x) w = op.onExprRight id (number x) w e := by
  have hgrid : isGrid (number x) = false := by
    cases x with
    | item _ | cell _ => cases hx
    | _ => rfl
  have hgrid' : isGrid w = false := by
    rcases operand?_cases h with ⟨tag, rfl⟩ | ⟨y, rfl, rfl⟩ <;> rfl
  have hnone : operand? (number x) = none := rfl
  rw [combine, combineUpTo.eq_def]
  simp only [hnone, h, hgrid, hgrid', Bool.or_false, Bool.false_eq_true, if_false]

end Value

namespace LinearExpr

variable {v : Value} {e p : LinearExpr}

theorem operand_of_ofValue {caller : String} (h : ofValue caller v = .ok e) :
    v.operand? = some e := by
  cases v with
  | expr tag e' => exact congrArg some (Except.ok.inj h)
  | var x => exact congrArg some (Except.ok.inj h)
  | _ => cases h

theorem of_plusValue (h : e.plusValue v = .ok p) : ∃ b, v.operand? = some b ∧ p = e.plus b := by
  obtain ⟨b, hb, h⟩ := bind_eq_ok_iff.1 h
  exact ⟨b, operand_of_ofValue hb, (Except.ok.inj h).symm⟩

theorem of_minusValue (h : e.minusValue v = .ok p) :
    ∃ b, v.operand? = some b ∧ p = e.minus b := by
  obtain ⟨b, hb, h⟩ := bind_eq_ok_iff.1 h
  exact ⟨b, operand_of_ofValue hb, (Except.ok.inj h).symm⟩

theorem timesValue_number {x : Number} (hx : (Value.number x).isNumber = true) (e : LinearExpr) :
    e.timesValue (.number x) = Failure.lift (e.timesNumber x) := by
  rw [timesValue.eq_def, hx]

theorem of_timesValue (h : e.timesValue v = .ok p) :
    ∃ x, v = .number x ∧ e.timesNumber x = .ok p := by
  rw [timesValue.eq_def] at h
  split at h
  · exact ⟨_, rfl, Failure.lift_eq_ok.1 h⟩
  · cases h

end LinearExpr

end Milp

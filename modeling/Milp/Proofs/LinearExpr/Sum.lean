import Milp.Proofs.LinearExpr.Coefficient
set_option autoImplicit false

/-! # Ways to sum up

A sum of variables and expressions can be taken step by step, each time with a new expression, or by
merging all terms at once. Seen from a single variable both add its coefficients from left to right
(`LinearExpr.coefficient_foldl_plus`, `LinearExpr.coefficient_sum`): a partial sum of zero is dropped on
the way in one case and kept in the other, which makes no difference to what is added later. It makes
one to the order of the terms, since a variable that was dropped comes back at the end; where no
variable is dropped before it occurs for the last time, the orders are the same
(`LinearExpr.ids_foldl_plus`). -/

namespace Milp

open Double (Alike)

theorem Double.Alike.foldl {α : Type} {f : α → Double} (xs : List α) {k l : Double}
    (h : Alike k l) :
    Alike (xs.foldl (fun k x => k + f x) k) (xs.foldl (fun k x => k + f x) l) := by
  induction xs generalizing k l with
  | nil => exact h
  | cons x rest ih => exact ih (h.add_right (f x))

namespace LinearExpr

variable {a b e : LinearExpr} {es : List LinearExpr}

/-! ## Coefficients -/

/-- The coefficients of a variable in a list of expressions, added up from left to right. -/
def added (es : List LinearExpr) (v : Var) : Double :=
  es.foldl (fun k e => k + e.coefficient v) Double.zero

/-- Summing up step by step adds coefficients from left to right. -/
theorem coefficient_foldl_plus (a : LinearExpr) (es : List LinearExpr) (v : Var) :
    Alike ((es.foldl plus a).coefficient v)
      (es.foldl (fun k e => k + e.coefficient v) (a.coefficient v)) := by
  induction es generalizing a with
  | nil => exact .refl _
  | cons e rest ih => exact (ih (a.plus e)).trans ((coefficient_plus a e v).foldl rest)

theorem total_flatMap_terms (ts : List Term) (es : List LinearExpr) (v : Var) :
    Alike (total (ts ++ es.flatMap terms) v.id)
      (es.foldl (fun k e => k + e.coefficient v) (total ts v.id)) := by
  induction es generalizing ts with
  | nil =>
    rw [List.flatMap_nil, List.append_nil]
    exact .refl _
  | cons e rest ih =>
    rw [List.flatMap_cons, ← List.append_assoc]
    exact (ih (ts ++ e.terms)).trans ((total_append_terms ts e v).foldl rest)

/-- Merging all terms at once adds coefficients from left to right. -/
theorem coefficient_sum (es : List LinearExpr) (v : Var) :
    Alike ((sum es).coefficient v) (added es v) := by
  have htotal := total_flatMap_terms [] es v
  rw [List.nil_append, total_nil] at htotal
  exact (coefficient_ofTerms _ v).trans htotal

theorem coefficient_foldl_eq_sum (es : List LinearExpr) (v : Var) :
    (es.foldl plus empty).coefficient v = (sum es).coefficient v :=
  coefficient_eq_of_alike ((coefficient_foldl_plus empty es v).trans (coefficient_sum es v).symm)

/-- A variable has a term exactly if its coefficient is not zero. -/
theorem mentions_eq (e : LinearExpr) (v : Var) :
    e.mentions v = !(e.coefficient v).eq Double.zero := by
  rw [coefficient, mentions, ← List.isSome_find?]
  cases hfind : e.terms.find? (·.id = v.id) with
  | none =>
    show false = !Double.zero.eq Double.zero
    rw [Double.zero_eq_zero]
    rfl
  | some t =>
    have hne : t.2.eq Double.zero = false := e.nonzero t (mem_of_find? hfind).1
    show true = !t.2.eq Double.zero
    rw [hne]
    rfl

/-! ## Order -/

/-- No partial sum of the coefficients of a variable is zero before the variable occurs for the last
time. -/
def NeverCancels (es : List LinearExpr) : Prop :=
  ∀ i (h : i < es.length), ∀ id ∈ es[i].ids, id ∈ (es.take i).flatMap ids →
    (total ((es.take i).flatMap terms) id).eq Double.zero = false

instance (es : List LinearExpr) : Decidable (NeverCancels es) := by
  unfold NeverCancels
  infer_instance

theorem NeverCancels.of_concat (h : NeverCancels (es ++ [e])) : NeverCancels es := by
  intro i hi
  have hall := h i (by rw [List.length_append]; omega)
  rw [List.getElem_append_left hi, List.take_append_of_le_length (Nat.le_of_lt hi)] at hall
  exact hall

theorem NeverCancels.last (h : NeverCancels (es ++ [e])) {id : Nat} (he : id ∈ e.ids)
    (hid : id ∈ es.flatMap ids) : (total (es.flatMap terms) id).eq Double.zero = false := by
  have hlast := h es.length (by simp)
  rw [List.getElem_concat_length rfl, List.take_left] at hlast
  exact hlast id he hid

theorem empty_plus (e : LinearExpr) : empty.plus e = e := ofTerms_terms e

theorem ids_flatMap_terms (es : List LinearExpr) :
    (es.flatMap terms).map Term.id = es.flatMap ids := by
  rw [List.map_flatMap]
  rfl

theorem total_append_of_not_mem {id : Nat} (h : id ∉ e.ids) (ts : List Term) :
    total (ts ++ e.terms) id = total ts id := by
  have hnone : e.terms.filter (·.id = id) = [] := by
    rw [List.filter_eq_nil_iff]
    intro t ht hid
    exact h (List.mem_map.2 ⟨t, ht, of_decide_eq_true hid⟩)
  rw [total_append, hnone, List.foldl_nil]

theorem eraseDups_of_nodup {xs : List Nat} (h : xs.Nodup) : xs.eraseDups = xs := by
  induction xs with
  | nil => rfl
  | cons x rest ih =>
    rw [List.nodup_cons] at h
    have hrest : rest.filter (fun y => !y == x) = rest := by
      rw [List.filter_eq_self]
      intro y hy
      simpa using fun he : y = x => h.1 (he ▸ hy)
    rw [List.eraseDups_cons, hrest, ih h.2]

/-- What is dropped from a list makes no difference to the order in the end, if it is dropped in the
end anyway and does not come back. -/
theorem filter_eraseDups_append {xs ys : List Nat} {p q : Nat → Bool}
    (hp : ∀ id ∈ xs, p id = true → q id = true) (hq : ∀ id ∈ xs, id ∈ ys → q id = true)
    (hkept : (xs.eraseDups.filter q).eraseDups = xs.eraseDups.filter q) :
    (xs.eraseDups.filter q ++ ys).eraseDups.filter p = (xs ++ ys).eraseDups.filter p := by
  have hold : (xs.eraseDups.filter q).filter p = xs.eraseDups.filter p := by
    rw [List.filter_filter]
    refine List.filter_congr fun id hid => ?_
    have hid : id ∈ xs := List.mem_eraseDups.1 hid
    cases hpid : p id with
    | false => rfl
    | true => rw [hp id hid hpid, Bool.and_self]
  have hnew : ys.removeAll (xs.eraseDups.filter q) = ys.removeAll xs := by
    refine List.filter_congr fun id hid => ?_
    have hmem : id ∈ xs.eraseDups.filter q ↔ id ∈ xs := by
      rw [List.mem_filter, List.mem_eraseDups]
      exact ⟨And.left, fun h => ⟨h, hq id h hid⟩⟩
    simp [hmem]
  rw [List.eraseDups_append, List.eraseDups_append, List.filter_append, List.filter_append, hkept,
    hold, hnew]

/-- Summing up step by step keeps the order, as long as no variable is dropped before it occurs for
the last time. -/
theorem ids_foldl_plus (h : NeverCancels es) : (es.foldl plus empty).ids = (sum es).ids := by
  -- the last expression is added last, and the ones before it are covered by the induction
  induction es using List.reverseRecOn with
  | nil => rfl
  | append_singleton es e ih =>
    have hids := ih h.of_concat
    rw [sum, ids_ofTerms, ids_flatMap_terms] at hids
    generalize hE : es.foldl plus empty = E at hids
    have htotal (id : Nat) : (total (E.terms ++ e.terms) id).eq Double.zero =
        (total (es.flatMap terms ++ e.terms) id).eq Double.zero := by
      obtain ⟨v, rfl⟩ := exists_var id
      have hcoefficient : Alike (total E.terms v.id) (total (es.flatMap terms) v.id) := by
        refine (coefficient_alike_total E v).symm.trans ?_
        rw [← hE, coefficient_foldl_eq_sum]
        exact coefficient_ofTerms _ v
      exact ((total_append_terms _ e v).trans
        ((hcoefficient.add_right _).trans (total_append_terms _ e v).symm)).eq_zero
    calc ((es ++ [e]).foldl plus empty).ids
        = (E.plus e).ids := by rw [List.foldl_append, hE]; rfl
      _ = (E.ids ++ e.ids).eraseDups.filter fun id =>
            !(total (es.flatMap terms ++ e.terms) id).eq Double.zero := by
          rw [plus, ids_ofTerms, List.map_append]
          exact List.filter_congr fun id _ => congrArg _ (htotal id)
      _ = (es.flatMap ids ++ e.ids).eraseDups.filter fun id =>
            !(total (es.flatMap terms ++ e.terms) id).eq Double.zero := by
          have hkept := eraseDups_of_nodup E.canonical.once
          rw [hids] at hkept ⊢
          refine filter_eraseDups_append (fun id hid hp => ?_) (fun id hid he => ?_) hkept
          · by_cases he : id ∈ e.ids
            · rw [h.last he hid]
              rfl
            · rw [total_append_of_not_mem he] at hp
              exact hp
          · rw [h.last he hid]
            rfl
      _ = (sum (es ++ [e])).ids := by
          rw [sum, ids_ofTerms, ids_flatMap_terms, List.flatMap_append, List.flatMap_append,
            List.flatMap_singleton, List.flatMap_singleton]

end LinearExpr

/-! ## Sums of values -/

namespace Value

variable {xs : List Value} {es : List LinearExpr}

theorem foldlM_plus (h : xs.map operand? = es.map some) (tag : Nat) (a : LinearExpr) :
    ∃ tag', xs.foldlM (combine 0 .plus) (.expr tag a) = .ok (.expr tag' (es.foldl .plus a)) := by
  induction xs generalizing es tag a with
  | nil =>
    obtain rfl : es = [] := List.map_eq_nil_iff.1 h.symm
    exact ⟨tag, rfl⟩
  | cons x rest ih =>
    cases es with
    | nil => cases h
    | cons e es =>
      obtain ⟨hx, hrest⟩ := List.cons.inj h
      obtain ⟨tag', hsum⟩ := ih hrest 0 (a.plus e)
      refine ⟨tag', ?_⟩
      have hplus : combine 0 .plus (.expr tag a) x = .ok (.expr 0 (a.plus e)) := by
        rw [combine_operand 0 .plus rfl, Operator.onExpr, LinearExpr.plusValue, ofValue_operand hx]
        rfl
      rw [List.foldlM_cons, hplus]
      exact hsum

/-- Zero is what a sum starts from. -/
theorem zero_plus {w : Value} {e : LinearExpr} (h : w.operand? = some e) :
    ∃ tag, combine 0 .plus (.int 0) w = .ok (.expr tag e) := by
  have hzero : ((number (.int 0)).isNumber && (number (.int 0)).same (.int 0)) = true := by
    decide +kernel
  rw [Value.int, combine_number 0 .plus rfl h, Operator.onExprRight.eq_def]
  dsimp only
  rw [if_pos hzero]
  rcases operand?_cases h with ⟨tag, rfl⟩ | ⟨x, rfl, rfl⟩
  · exact ⟨tag, rfl⟩
  · exact ⟨0, congrArg Except.ok (if_neg Bool.false_ne_true)⟩

theorem sum_eq (hne : xs ≠ []) (h : xs.map operand? = es.map some) :
    ∃ tag, sum xs (.int 0) = .ok (.expr tag (es.foldl .plus .empty)) := by
  cases xs with
  | nil => exact absurd rfl hne
  | cons x rest =>
    cases es with
    | nil => cases h
    | cons e es =>
      obtain ⟨hx, hrest⟩ := List.cons.inj h
      obtain ⟨tag, hfirst⟩ := zero_plus hx
      obtain ⟨tag', hsum⟩ := foldlM_plus hrest tag e
      refine ⟨tag', ?_⟩
      show (x :: rest).foldlM (combine 0 .plus) (.int 0) = _
      rw [List.foldlM_cons, hfirst, List.foldl_cons, LinearExpr.empty_plus]
      exact hsum

theorem sumExpressions_eq {view : View} {v : Value} (hv : v.elements view = .ok (.finite xs))
    (h : xs.map operand? = es.map some) :
    sumExpressions view v = .ok (.expr 0 (LinearExpr.sum es)) := by
  have hread : xs.mapM (LinearExpr.ofValue "sum_expr") = .ok es := by
    rw [mapM_eq_ok_iff]
    have hpairs := List.forall₂_map_left_iff.1 (List.forall₂_map_right_iff.1
      (List.forall₂_eq_eq_eq ▸ h : List.Forall₂ (· = ·) (xs.map operand?) (es.map some)))
    exact hpairs.imp fun _ _ he => ofValue_operand he _
  rw [sumExpressions, hv]
  show (do return expr 0 (LinearExpr.sum (← xs.mapM (LinearExpr.ofValue "sum_expr")))) = _
  rw [hread]
  rfl

/-! ## Products -/

/-- Numbers that coefficients are written with. -/
inductive IsCoefficient : Number → Prop where
  | int (n : Int) : IsCoefficient (.int n)
  | float (x : Double) : IsCoefficient (.float x)

namespace IsCoefficient

variable {k : Number}

theorem plain (h : IsCoefficient k) : k.element? = none := by cases h <;> rfl

theorem isNumber (h : IsCoefficient k) : (number k).isNumber = true := by cases h <;> rfl

theorem ne_complex (h : IsCoefficient k) (re im : Double) : k ≠ .complex re im := by
  cases h <;> exact fun h => nomatch h

theorem toDouble (h : IsCoefficient k) :
    (∃ d, k.toDouble = .ok d) ∨ k.toDouble = .error .overflow := by
  cases h with
  | float x => exact .inl ⟨x, rfl⟩
  | int n =>
    rw [Number.toDouble, Number.doubleOf]
    split
    · exact .inl ⟨_, rfl⟩
    · exact .inr rfl

end IsCoefficient

/-- The product of a coefficient and a variable. -/
theorem combine_times_var {k : Number} (hk : IsCoefficient k) (v : Var) :
    combine 0 .times (.number k) (.var v) =
      (fun d => .expr 0 (.ofTerms [(v, d)])) <$> Failure.lift k.toDouble := by
  have hterm : ([(v, Double.one)] : List Term).mapM (fun t => do
      return (t.1, ← (← (Number.float t.2).mul k).toDouble)) =
      (fun d => [(v, d)]) <$> k.toDouble := by
    rw [List.mapM_cons, List.mapM_nil, Number.mul_plain hk.plain hk.ne_complex]
    cases k.toDouble with
    | error f => rfl
    | ok d =>
      simp only [Double.one_mul]
      rfl
  rw [combine_number 0 .times hk.plain (e := .ofVar v) rfl, Operator.onExprRight.eq_def]
  show Value.expr 0 <$> (LinearExpr.ofVar v).timesValue (.number k) = _
  rw [LinearExpr.timesValue_number hk.isNumber, LinearExpr.timesNumber, LinearExpr.terms_ofVar, hterm]
  cases k.toDouble <;> rfl

/-- A pair of a variable and a coefficient is read as a term. -/
theorem termOfValue_pair (view : View) (v : Var) {k : Number} (hk : IsCoefficient k) :
    LinearExpr.termOfValue view (tuple [.var v, .number k]) =
      (v, ·) <$> Failure.lift k.toDouble := by
  have hread : coefficientOfValue "LinearExpr" (.number k) = Failure.lift k.toDouble := by
    rw [coefficientOfValue, if_pos hk.isNumber]
    rfl
  show (do return (v, ← coefficientOfValue "LinearExpr" (.number k))) = _
  rw [hread]
  rfl

/-- Products that are formed one by one, and pairs that are read as terms: both succeed or both
fail. -/
theorem products_cases (view : View) {pairs : List (Var × Number)}
    (h : ∀ p ∈ pairs, IsCoefficient p.2) :
    (∃ ts : List Term, ts.length = pairs.length ∧
      pairs.mapM (fun p => combine 0 .times (.number p.2) (.var p.1)) =
        .ok (ts.map fun t => .expr 0 (.ofTerms [t])) ∧
      pairs.mapM (fun p => LinearExpr.termOfValue view (tuple [.var p.1, .number p.2])) = .ok ts) ∨
    ((∃ p ∈ pairs, p.2.toDouble = .error .overflow) ∧
      pairs.mapM (fun p => combine 0 .times (.number p.2) (.var p.1)) =
        .error (.fault .overflow) ∧
      pairs.mapM (fun p => LinearExpr.termOfValue view (tuple [.var p.1, .number p.2])) =
        .error (.fault .overflow)) := by
  induction pairs with
  | nil => exact .inl ⟨[], rfl, rfl, rfl⟩
  | cons p rest ih =>
    have hp := h p List.mem_cons_self
    rw [List.mapM_cons, List.mapM_cons, combine_times_var hp, termOfValue_pair view p.1 hp]
    rcases hp.toDouble with ⟨d, hd⟩ | hd
    · rw [hd]
      rcases ih fun q hq => h q (List.mem_cons_of_mem p hq) with
        ⟨ts, hlength, hproducts, hterms⟩ | ⟨⟨q, hq, hover⟩, hproducts, hterms⟩
      · refine .inl ⟨(p.1, d) :: ts, congrArg (· + 1) hlength, ?_, ?_⟩
        · rw [hproducts]
          rfl
        · rw [hterms]
          rfl
      · refine .inr ⟨⟨q, List.mem_cons_of_mem p hq, hover⟩, ?_, ?_⟩
        · rw [hproducts]
          rfl
        · rw [hterms]
          rfl
    · rw [hd]
      exact .inr ⟨⟨p, List.mem_cons_self, hd⟩, rfl, rfl⟩

end Value

namespace LinearExpr

/-- Terms may be made to expressions one by one. -/
theorem total_flatMap_ofTerms (ts : List Term) (v : Var) :
    Alike (total ((ts.map fun t => ofTerms [t]).flatMap terms) v.id) (total ts v.id) := by
  induction ts using List.reverseRecOn with
  | nil => exact .refl _
  | append_singleton ts t ih =>
    have hone : Alike ((ofTerms [t]).coefficient v)
        (if t.id = v.id then Double.zero + t.2 else Double.zero) := by
      have htotal := total_concat [] t v.id
      rw [total_nil] at htotal
      rw [← htotal]
      exact coefficient_ofTerms [t] v
    rw [List.map_append, List.flatMap_append, List.map_singleton, List.flatMap_singleton,
      total_concat]
    refine (total_append_terms _ _ v).trans ((ih.add_right _).trans ?_)
    split at hone
    · rename_i hid
      rw [if_pos hid]
      exact (Alike.refl _).add (hone.trans (Double.zero_add_alike_self _))
    · rename_i hid
      rw [if_neg hid]
      exact Double.add_alike_self _ (hone.eq_zero.trans Double.zero_eq_zero)

end LinearExpr

namespace Value

/-- A scalar product over variables and their numbers is the expression of the terms read pair by
pair. -/
theorem scalarProduct_pairs (view : View) (pairs : List (Var × Number)) :
    scalarProduct view (.list (pairs.map fun p => .var p.1))
        (.list (pairs.map fun p => .number p.2)) =
      .expr 0 <$> LinearExpr.ofTerms <$> pairs.mapM fun p =>
        LinearExpr.termOfValue view (tuple [.var p.1, .number p.2]) := by
  have hzip : List.zipWith (fun x y => tuple [x, y]) (pairs.map fun p => Value.var p.1)
      (pairs.map fun p => Value.number p.2) =
      pairs.map fun p => tuple [.var p.1, .number p.2] := by
    rw [List.zipWith_map, List.zipWith_self]
  have hread : scalarProduct view (.list (pairs.map fun p => .var p.1))
      (.list (pairs.map fun p => .number p.2)) =
      Value.expr 0 <$> LinearExpr.ofPairs view (List.zipWith (fun x y => tuple [x, y])
        (pairs.map fun p => .var p.1) (pairs.map fun p => .number p.2)) := rfl
  rw [hread, hzip, LinearExpr.ofPairs, List.mapM_map]
  rfl

/-- Ways to sum up agree: step by step or at once, and for products also from their coefficients. -/
theorem sums_agree (view : View) :
    (∀ (v : Value) (xs : List Value) (es : List LinearExpr), v.elements view = .ok (.finite xs) →
      xs ≠ [] → xs.map operand? = es.map some →
      ∃ tag e e', sum xs (.int 0) = .ok (.expr tag e) ∧
        sumExpressions view v = .ok (.expr 0 e') ∧
        (∀ x, e.mentions x = e'.mentions x ∧ e.coefficient x = e'.coefficient x ∧
          Alike (e.coefficient x) (LinearExpr.added es x)) ∧
        (LinearExpr.NeverCancels es → e.ids = e'.ids)) ∧
    ∀ pairs : List (Var × Number), pairs ≠ [] → (∀ p ∈ pairs, IsCoefficient p.2) →
      let products := pairs.mapM fun p => combine 0 .times (.number p.2) (.var p.1)
      let product := scalarProduct view (.list (pairs.map fun p => .var p.1))
        (.list (pairs.map fun p => .number p.2))
      (∃ xs tag e e', products = .ok xs ∧ sum xs (.int 0) = .ok (.expr tag e) ∧
        product = .ok (.expr 0 e') ∧ ∀ x, e'.coefficient x = e.coefficient x) ∨
      ((∃ p ∈ pairs, p.2.toDouble = .error .overflow) ∧
        products = .error (.fault .overflow) ∧ product = .error (.fault .overflow)) := by
  constructor
  · intro v xs es hv hne h
    obtain ⟨tag, hsum⟩ := sum_eq hne h
    refine ⟨tag, _, _, hsum, sumExpressions_eq hv h, fun x => ?_, LinearExpr.ids_foldl_plus⟩
    have hcoefficient := LinearExpr.coefficient_foldl_eq_sum es x
    refine ⟨?_, hcoefficient, ?_⟩
    · rw [LinearExpr.mentions_eq, LinearExpr.mentions_eq, hcoefficient]
    · rw [hcoefficient]
      exact LinearExpr.coefficient_sum es x
  · intro pairs hne h products product
    have hproduct : product = _ := scalarProduct_pairs view pairs
    rcases products_cases view h with ⟨ts, hlength, hproducts, hterms⟩ | ⟨hover, hproducts, hterms⟩
    · refine .inl ?_
      have hoperands : (ts.map fun t => expr 0 (.ofTerms [t])).map operand? =
          (ts.map fun t => LinearExpr.ofTerms [t]).map some := by
        rw [List.map_map, List.map_map]
        rfl
      have hnonempty : (ts.map fun t => expr 0 (.ofTerms [t])) ≠ [] := by
        rintro hnil
        rw [List.map_eq_nil_iff.1 hnil] at hlength
        exact hne (List.eq_nil_of_length_eq_zero hlength.symm)
      obtain ⟨tag, hsum⟩ := sum_eq hnonempty hoperands
      refine ⟨_, tag, _, LinearExpr.ofTerms ts, hproducts, hsum, ?_, fun x => ?_⟩
      · rw [hproduct, hterms]
        rfl
      · rw [LinearExpr.coefficient_foldl_eq_sum]
        refine LinearExpr.coefficient_eq_of_alike ((LinearExpr.coefficient_ofTerms ts x).trans ?_)
        exact (LinearExpr.total_flatMap_ofTerms ts x).symm.trans
          (LinearExpr.coefficient_ofTerms _ x).symm
    · refine .inr ⟨hover, hproducts, ?_⟩
      rw [hproduct, hterms]
      rfl

/-- A variable that is taken away and added again: the sums have the same coefficients, but not the
same order. -/
theorem sums_agree_crossing :
    let named (id : Nat) : Var :=
      { id, domain := .default .continuous, lower := .int 0, upper := .int 1,
        objective := Double.zero, name := none }
    let x := named 1
    let y := named 2
    let crossing : List Value := [.var x, .var y, .expr 0 (LinearExpr.ofVar x).negate, .var x]
    let plain : List Value := [.var x, .var y, .var x]
    (∃ tag e e', sum crossing (.int 0) = .ok (.expr tag e) ∧
      sumExpressions .blank (.list crossing) = .ok (.expr 0 e') ∧
      (∀ v, e.mentions v = e'.mentions v ∧ e.coefficient v = e'.coefficient v) ∧
      e.ids = [2, 1] ∧ e'.ids = [1, 2]) ∧
    (∃ tag e e', sum plain (.int 0) = .ok (.expr tag e) ∧
      sumExpressions .blank (.list plain) = .ok (.expr 0 e') ∧ e.ids = e'.ids) ∧
    ∃ products tag e e', [(x, Number.int 3), (y, .float (-1))].mapM
        (fun p => combine 0 .times (.number p.2) (.var p.1)) = .ok products ∧
      sum products (.int 0) = .ok (.expr tag e) ∧
      scalarProduct .blank (.list [.var x, .var y]) (.list [.int 3, .float (-1)]) =
        .ok (.expr 0 e') ∧
      ∀ v, e'.coefficient v = e.coefficient v := by
  intro named x y crossing plain
  obtain ⟨hsums, hproducts⟩ := sums_agree .blank
  refine ⟨?_, ?_, ?_⟩
  · have hoperands : crossing.map operand? =
        [LinearExpr.ofVar x, .ofVar y, (LinearExpr.ofVar x).negate, .ofVar x].map some := rfl
    obtain ⟨tag, e, e', hsum, hsum', hsame, -⟩ :=
      hsums (.list crossing) crossing _ rfl (List.cons_ne_nil _ _) hoperands
    refine ⟨tag, e, e', hsum, hsum', fun v => ⟨(hsame v).1, (hsame v).2.1⟩, ?_, ?_⟩
    · obtain ⟨tag', heq⟩ := sum_eq (List.cons_ne_nil _ _) hoperands
      obtain ⟨-, rfl⟩ := expr.inj (Except.ok.inj (hsum.symm.trans heq))
      decide +kernel
    · have heq : sumExpressions .blank (.list crossing) = _ := sumExpressions_eq rfl hoperands
      obtain ⟨-, rfl⟩ := expr.inj (Except.ok.inj (hsum'.symm.trans heq))
      decide +kernel
  · have hoperands : plain.map operand? =
        [LinearExpr.ofVar x, .ofVar y, .ofVar x].map some := rfl
    obtain ⟨tag, e, e', hsum, hsum', -, horder⟩ :=
      hsums (.list plain) plain _ rfl (List.cons_ne_nil _ _) hoperands
    exact ⟨tag, e, e', hsum, hsum', horder (by decide +kernel)⟩
  · have hcoefficients : ∀ p ∈ [(x, Number.int 3), (y, .float (-1))], IsCoefficient p.2 := by
      intro p hp
      rcases List.mem_pair.1 hp with rfl | rfl
      · exact .int 3
      · exact .float (-1)
    rcases hproducts _ (List.cons_ne_nil _ _) hcoefficients with
      ⟨products, tag, e, e', hproducts, hsum, hscalar, hsame⟩ | ⟨⟨p, hp, hover⟩, -⟩
    · exact ⟨products, tag, e, e', hproducts, hsum, hscalar, hsame⟩
    · -- three and minus one are no large numbers
      rcases List.mem_pair.1 hp with rfl | rfl
      · have hfinite : (Double.ofInt 3).isFinite = true := by decide +kernel
        rw [Number.toDouble, Number.doubleOf, if_pos hfinite] at hover
        cases hover
      · cases hover

end Value

end Milp

import Milp.Arithmetic
import Milp.Proofs.Except
import Mathlib.Data.List.Induction
set_option autoImplicit false

/-! # Expressions are canonical

Terms of one variable are added up from left to right, from `0.0` on, and what comes to zero is
dropped; what is left stands in the order of first occurrence (`LinearExpr.collects_ofTerms`). An
expression is a fixed point of this: its own terms make it again (`LinearExpr.ofTerms_terms`). So is
every expression that a tree of constructors and operators comes to. -/

namespace Milp

/-! ## Doubles -/

namespace Double

theorem zero_eq : zero = finite false 0 (by decide +kernel) := by decide +kernel

private theorem eq_zero_finite (s : Bool) (n : Nat) (h : Representable n) :
    (finite s n h).eq zero = decide (n = 0) := by
  have hpoint : Place.point (signed s n) = Place.point 0 ↔ n = 0 := by
    rw [Place.point.injEq]
    cases s <;> simp [signed]
  rw [zero_eq]
  exact decide_eq_decide.2 hpoint

private theorem ofSteps_signed (s : Bool) {n : Nat} (h : Representable n) (hn : n ≠ 0) (b : Bool) :
    ofSteps b (signed s n) = finite s n h := by
  have hne : signed s n ≠ 0 := by cases s <;> simp [signed, hn]
  have hsign : decide (signed s n < 0) = s := by
    cases s
    · exact decide_eq_false (Int.not_lt.2 (Int.natCast_nonneg n))
    · exact decide_eq_true (Int.neg_neg_of_pos (Int.natCast_pos.2 (Nat.pos_of_ne_zero hn)))
  have habs : (signed s n).natAbs = n := by cases s <;> simp [signed]
  have hround : roundQuotient n 1 = n := roundQuotient_of_fitsMantissa h.1
  rw [ofSteps, if_neg hne, hsign, habs, ofQuotient]
  simp only [hround, dif_pos h.2]

/-- Nothing is lost by starting from zero, except the sign of a zero. -/
theorem zero_add_of_ne {k : Double} (h : k.eq zero = false) : zero + k = k := by
  show zero.add k = k
  rw [zero_eq]
  cases k with
  | nan => rfl
  | infinite s => rfl
  | finite s n hn =>
    rw [eq_zero_finite] at h
    show ofSteps (false && s) (signed false 0 + signed s n) = _
    have hzero : signed false 0 = 0 := rfl
    rw [hzero, Int.zero_add]
    exact ofSteps_signed s hn (of_decide_eq_false h) _

end Double

/-! ## Merging -/

/-- The sum of the coefficients of a variable, from left to right. -/
def total (ts : List Term) (id : Nat) : Double :=
  (ts.filter (·.id = id)).foldl (fun k t => k + t.2) Double.zero

theorem total_concat (ts : List Term) (t : Term) (id : Nat) :
    total (ts ++ [t]) id = if t.id = id then total ts id + t.2 else total ts id := by
  unfold total
  by_cases h : t.id = id <;> simp [List.filter_append, h]

theorem total_of_not_mem {ts : List Term} {id : Nat} (h : id ∉ ts.map Term.id) :
    total ts id = Double.zero := by
  have hnone : ts.filter (·.id = id) = [] := by
    rw [List.filter_eq_nil_iff]
    intro t ht
    rw [decide_eq_true_iff]
    exact fun he => h (List.mem_map.2 ⟨t, ht, he⟩)
  rw [total, hnone, List.foldl_nil]

theorem mergeTerms_concat (ts : List Term) (t : Term) :
    mergeTerms (ts ++ [t]) = addTerm (mergeTerms ts) t := List.foldl_concat ..

theorem addTerm_of_not_mem {acc : List Term} {t : Term} (h : t.id ∉ acc.map Term.id) :
    addTerm acc t = acc ++ [(t.1, Double.zero + t.2)] := by
  induction acc with
  | nil => rfl
  | cons u rest ih =>
    rw [List.map_cons, List.mem_cons, not_or] at h
    rw [addTerm, if_neg (fun he => h.1 he.symm), ih h.2, List.cons_append]

/-- What is in the list after a term was added: the terms of other variables, and the one of its
variable. -/
theorem mem_addTerm {acc : List Term} (hacc : (acc.map Term.id).Nodup) {t u : Term}
    (h : u ∈ addTerm acc t) :
    (u ∈ acc ∧ u.id ≠ t.id) ∨ (∃ w ∈ acc, w.id = t.id ∧ u = (w.1, w.2 + t.2)) ∨
      (t.id ∉ acc.map Term.id ∧ u = (t.1, Double.zero + t.2)) := by
  by_cases hnew : t.id ∈ acc.map Term.id
  -- the induction runs up to the term that the variable has already
  · induction acc with
    | nil => cases hnew
    | cons w rest ih =>
      rw [List.map_cons, List.nodup_cons] at hacc
      by_cases hw : w.id = t.id
      · rw [addTerm, if_pos hw] at h
        cases h with
        | head => exact .inr (.inl ⟨w, List.mem_cons_self, hw, rfl⟩)
        | tail _ h =>
          refine .inl ⟨List.mem_cons_of_mem w h, fun he => hacc.1 ?_⟩
          exact List.mem_map.2 ⟨u, h, he.trans hw.symm⟩
      · rw [addTerm, if_neg hw] at h
        cases h with
        | head => exact .inl ⟨List.mem_cons_self, hw⟩
        | tail _ h =>
          have hrest : t.id ∈ rest.map Term.id :=
            (List.mem_cons.1 hnew).resolve_left fun he => hw he.symm
          obtain ⟨hu, hne⟩ | ⟨x, hx, hid, rfl⟩ | ⟨hnot, -⟩ := ih hacc.2 h hrest
          · exact .inl ⟨List.mem_cons_of_mem w hu, hne⟩
          · exact .inr (.inl ⟨x, List.mem_cons_of_mem w hx, hid, rfl⟩)
          · exact absurd hrest hnot
  · rw [addTerm_of_not_mem hnew, List.mem_append, List.mem_singleton] at h
    obtain hu | rfl := h
    · exact .inl ⟨hu, fun he => hnew (List.mem_map.2 ⟨u, hu, he⟩)⟩
    · exact .inr (.inr ⟨hnew, rfl⟩)

theorem ids_mergeTerms (ts : List Term) :
    (mergeTerms ts).map Term.id = (ts.map Term.id).eraseDups := by
  -- terms are merged from the left, so the induction takes the last one off
  induction ts using List.reverseRecOn with
  | nil => rfl
  | append_singleton ts t ih =>
    rw [mergeTerms_concat, ids_addTerm, ih, List.map_append, List.eraseDups_append, List.map_singleton]
    by_cases h : t.id ∈ ts.map Term.id
    · have hold : [t.id].removeAll (ts.map Term.id) = [] := by simp [List.removeAll, h]
      rw [if_pos (List.mem_eraseDups.2 h), hold]
      simp
    · have hnew : [t.id].removeAll (ts.map Term.id) = [t.id] := by simp [List.removeAll, h]
      rw [if_neg (fun hm => h (List.mem_eraseDups.1 hm)), hnew]
      rfl

/-- Each merged term has the total of its variable, which is one of the list. -/
theorem mem_mergeTerms {ts : List Term} {u : Term} (h : u ∈ mergeTerms ts) :
    u.2 = total ts u.id ∧ u.1 ∈ ts.map Prod.fst := by
  induction ts using List.reverseRecOn generalizing u with
  | nil => cases h
  | append_singleton ts t ih =>
    rw [mergeTerms_concat] at h
    rw [total_concat, List.map_append, List.mem_append]
    obtain ⟨hu, hne⟩ | ⟨w, hw, hid, rfl⟩ | ⟨hnew, rfl⟩ := mem_addTerm (nodup_ids_merge ts) h
    · -- a term of another variable
      rw [if_neg (fun he => hne he.symm)]
      exact ⟨(ih hu).1, .inl (ih hu).2⟩
    · -- the variable had a term already
      have hu : Term.id (w.1, w.2 + t.2) = w.id := by rw [Term.id, Term.id]
      rw [hu, if_pos hid.symm, ← (ih hw).1]
      exact ⟨rfl, .inl (ih hw).2⟩
    · -- the variable occurs for the first time
      have hu : Term.id (t.1, Double.zero + t.2) = t.id := by rw [Term.id, Term.id]
      rw [ids_mergeTerms, List.mem_eraseDups] at hnew
      rw [hu, if_pos rfl, total_of_not_mem hnew]
      dsimp only
      exact ⟨rfl, .inr (List.mem_map_of_mem (List.mem_singleton_self t))⟩

/-! ## Expressions -/

namespace LinearExpr

def ids (e : LinearExpr) : List Nat := e.terms.map Term.id

/-- The expression has each variable of the terms once, with the sum of its coefficients, unless that
is zero, in the order of first occurrence. -/
structure Collects (e : LinearExpr) (ts : List Term) : Prop where
  once : e.ids.Nodup
  coefficient : ∀ t ∈ e.terms, t.2 = total ts t.id
  met : ∀ t ∈ e.terms, t.1 ∈ ts.map Prod.fst
  absent : ∀ id ∈ ts.map Term.id, id ∉ e.ids ↔ (total ts id).eq Double.zero = true
  order : e.ids = (ts.map Term.id).eraseDups.filter fun id => !(total ts id).eq Double.zero

theorem ids_ofTerms (ts : List Term) :
    (ofTerms ts).ids = (ts.map Term.id).eraseDups.filter fun id => !(total ts id).eq Double.zero := by
  have hzero : ∀ t ∈ mergeTerms ts, (!t.isZero) = !(total ts t.id).eq Double.zero := by
    intro t ht
    rw [Term.isZero, (mem_mergeTerms ht).1]
  calc (ofTerms ts).ids
      = ((mergeTerms ts).filter fun t => !(total ts t.id).eq Double.zero).map Term.id := by
        rw [← List.filter_congr hzero]
        rfl
    _ = ((mergeTerms ts).map Term.id).filter fun id => !(total ts id).eq Double.zero := by
        rw [List.filter_map]
        rfl
    _ = _ := by rw [ids_mergeTerms]

theorem collects_ofTerms (ts : List Term) : (ofTerms ts).Collects ts where
  once := (ofTerms ts).distinct
  coefficient _ ht := (mem_mergeTerms (List.mem_filter.1 ht).1).1
  met _ ht := (mem_mergeTerms (List.mem_filter.1 ht).1).2
  absent id hid := by
    have hmem : id ∈ (ts.map Term.id).eraseDups := List.mem_eraseDups.2 hid
    rw [ids_ofTerms, List.mem_filter]
    simp [hmem]
  order := ids_ofTerms ts

theorem eq_of_terms {a b : LinearExpr} (h : a.terms = b.terms) : a = b := by
  cases a
  cases b
  cases h
  rfl

/-- The terms of an expression make the same expression again. -/
theorem ofTerms_terms (e : LinearExpr) : ofTerms e.terms = e := by
  -- The accumulator and what is still to come have no variable in common.
  have hmerge : ∀ ts acc : List Term, ((acc ++ ts).map Term.id).Nodup →
      (∀ t ∈ ts, t.isZero = false) → ts.foldl addTerm acc = acc ++ ts := by
    intro ts
    induction ts with
    | nil => intro acc _ _; exact (List.append_nil acc).symm
    | cons t rest ih =>
      intro acc hids hzero
      have hnew : t.id ∉ acc.map Term.id := by
        rw [List.map_append, List.nodup_append] at hids
        exact fun hm => hids.2.2 t.id hm t.id List.mem_cons_self rfl
      have ht : (t.1, Double.zero + t.2) = t := by
        rw [Double.zero_add_of_ne (hzero t List.mem_cons_self)]
      have hsplit : acc ++ t :: rest = acc ++ [t] ++ rest := by simp
      rw [hsplit] at hids ⊢
      rw [List.foldl_cons, addTerm_of_not_mem hnew, ht]
      exact ih _ hids fun u hu => hzero u (List.mem_cons_of_mem t hu)
  have hterms : mergeTerms e.terms = e.terms := hmerge e.terms [] e.distinct e.nonzero
  refine eq_of_terms ?_
  show (mergeTerms e.terms).filter (fun t => !t.isZero) = e.terms
  rw [hterms, List.filter_eq_self]
  intro t ht
  rw [e.nonzero t ht]
  rfl

/-- No variable comes twice, none has the coefficient zero, and the terms make the expression
again. -/
structure Canonical (e : LinearExpr) : Prop where
  once : e.ids.Nodup
  nonzero : ∀ t ∈ e.terms, t.2.eq Double.zero = false
  fixed : ofTerms e.terms = e

theorem canonical (e : LinearExpr) : e.Canonical := ⟨e.distinct, e.nonzero, e.ofTerms_terms⟩

end LinearExpr

/-! ## Listed terms -/

/-- The double that a number stands for as a coefficient. Truth values are no coefficients, and
neither are numbers that are too large or complex. -/
inductive Number.StandsFor : Number → Double → Prop where
  | float (d : Double) : StandsFor (.float d) d
  | int {n : Int} : (Double.ofInt n).isFinite = true → StandsFor (.int n) (.ofInt n)
  | refusal (r : Refusal) : StandsFor (.refusal r) (.ofInt r.code)
  | item {e : Element} : e.kind ≠ .truth → StandsFor (.item e) e.realPart
  | cell {e : Element} : e.kind ≠ .truth → e.kind ≠ .complex → StandsFor (.cell e) e.realPart

theorem Number.StandsFor.coefficient {x : Number} {d : Double} (h : x.StandsFor d)
    (caller : String) : coefficientOfValue caller (.number x) = .ok d := by
  have hread (hnumber : (Value.number x).isNumber = true) (hd : x.toDouble = .ok d) :
      coefficientOfValue caller (.number x) = .ok d := by
    rw [coefficientOfValue, if_pos hnumber, Failure.lift_eq_ok]
    exact hd
  have hwhole {n : Int} (hn : (Double.ofInt n).isFinite = true) :
      Number.doubleOf n = .ok (.ofInt n) := by rw [Number.doubleOf, if_pos hn]
  cases h with
  | float => exact hread rfl rfl
  | int hn => exact hread rfl (hwhole hn)
  | refusal r => exact hread rfl (hwhole (by cases r <;> decide +kernel))
  | @item e htruth =>
    refine hread ?_ rfl
    cases e with
    | truth => exact absurd rfl htruth
    | _ => rfl
  | @cell e htruth hcomplex =>
    refine hread ?_ (if_neg hcomplex)
    cases e with
    | truth => exact absurd rfl htruth
    | _ => rfl

namespace LinearExpr

/-- A pair of a variable and a number lists a term. -/
inductive Lists (view : View) : Value → Term → Prop where
  | pair {p : Value} {v : Var} {x : Number} {d : Double} :
      p.elements view = .ok (.finite [.var v, .number x]) → x.StandsFor d → Lists view p (v, d)

theorem Lists.termOfValue {view : View} {p : Value} {t : Term} (h : Lists view p t) :
    termOfValue view p = .ok t := by
  obtain ⟨hp, hx⟩ := h
  unfold LinearExpr.termOfValue
  rw [hp]
  simp only [hx.coefficient]
  rfl

/-- A list of pairs is an expression that collects what they list. -/
theorem collects_ofListing {view : View} {pairs : List Value} {ts : List Term}
    (h : List.Forall₂ (Lists view) pairs ts) :
    ∃ e, ofListing view (.list pairs) = .ok e ∧ e.Collects ts := by
  refine ⟨ofTerms ts, ?_, collects_ofTerms ts⟩
  show ofTerms <$> pairs.mapM (LinearExpr.termOfValue view) = _
  rw [mapM_eq_ok_iff.2 (h.imp fun _ _ hp => hp.termOfValue)]
  rfl

end LinearExpr

/-! ## Trees of operators -/

/-- An expression as a caller writes it, from variables and numbers by constructors and operators. -/
inductive OperatorTree where
  | member (v : Var)
  | number (x : Number)
  | nothing
  | listing (t : OperatorTree)
  | sequence (ts : List OperatorTree)
  | table (keys values : List OperatorTree)
  | operate (op : Operator) (a b : OperatorTree)
  | negate (t : OperatorTree)
  | sum (ts : List OperatorTree) (start : OperatorTree)
  | sumExpressions (t : OperatorTree)
  | scalarProduct (factors coefficients : OperatorTree)

namespace OperatorTree

mutual

/-- What a tree comes to. -/
def eval (view : View) : OperatorTree → Except Failure Value
  | member v => .ok (.var v)
  | number x => .ok (.number x)
  | nothing => .ok .nothing
  | listing t => do return .expr 0 (← LinearExpr.ofListing view (← t.eval view))
  | sequence ts => .list <$> evalAll view ts
  | table keys values => do
    return Value.tableOf ((← evalAll view keys).zip (← evalAll view values))
  | operate op a b => do Value.combine 0 op (← a.eval view) (← b.eval view)
  | negate t => do (← t.eval view).negate
  | sum ts start => do Value.sum (← evalAll view ts) (← start.eval view)
  | sumExpressions t => do Value.sumExpressions view (← t.eval view)
  | scalarProduct a b => do Value.scalarProduct view (← a.eval view) (← b.eval view)

def evalAll (view : View) : List OperatorTree → Except Failure (List Value)
  | [] => .ok []
  | t :: rest => do return (← t.eval view) :: (← evalAll view rest)

end

/-- Lists of pairs of a variable and a number are expressions that collect the listed terms, and every
expression that a tree comes to is canonical. -/
theorem expressions_canonical (view : View) :
    (∀ (pairs : List Value) (ts : List Term), List.Forall₂ (LinearExpr.Lists view) pairs ts →
      ∃ e, LinearExpr.ofListing view (.list pairs) = .ok e ∧ e.Collects ts) ∧
    ∀ (tree : OperatorTree) (tag : Nat) (e : LinearExpr),
      tree.eval view = .ok (.expr tag e) → e.Canonical := by
  constructor
  · exact fun _ _ h => LinearExpr.collects_ofListing h
  -- Distinct variables and coefficients other than zero are fields of an expression. Only
  -- `LinearExpr.ofTerms` fills them in, and all constructors and operators make their results by it.
  · exact fun _ _ e _ => e.canonical

/-- A variable whose partial sum passes through zero keeps its place, one whose sum is zero is absent,
and a difference is canonical. -/
theorem expressions_canonical_crossing :
    let named (id : Nat) : Var :=
      { id, domain := .default .continuous, lower := .int 0, upper := .int 1,
        objective := Double.zero, name := none }
    let pair (id : Nat) (x : Number) : Value := .tuple [.var (named id), .number x]
    (∃ e, LinearExpr.ofListing .blank (.list [pair 1 (.int 1), pair 2 (.float 2),
        pair 3 (.float 5), pair 1 (.int (-1)), pair 3 (.int (-5)), pair 1 (.float 3)]) = .ok e ∧
      e.terms.map (fun t => (t.id, t.2)) = [(1, 3), (2, 2)]) ∧
    ∃ e, (operate .minus (member (named 1)) (member (named 2))).eval .blank = .ok (.expr 0 e) ∧
      e.Canonical := by
  intro named pair
  constructor
  · have hint {n : Int} (hn : (Double.ofInt n).isFinite = true) (id : Nat) :
        LinearExpr.Lists .blank (pair id (.int n)) (named id, .ofInt n) := .pair rfl (.int hn)
    have hfloat (d : Double) (id : Nat) :
        LinearExpr.Lists .blank (pair id (.float d)) (named id, d) := .pair rfl (.float d)
    obtain ⟨e, he, hcollects⟩ := (expressions_canonical .blank).1 _ _
      (.cons (hint (n := 1) (by decide +kernel) 1) (.cons (hfloat 2 2) (.cons (hfloat 5 3)
        (.cons (hint (n := -1) (by decide +kernel) 1) (.cons (hint (n := -5) (by decide +kernel) 3)
          (.cons (hfloat 3 1) .nil))))))
    refine ⟨e, he, ?_⟩
    have hterms (ts : List Term) (h : e.Collects ts) :
        e.terms.map (fun t => (t.id, t.2)) = e.ids.map fun id => (id, total ts id) := by
      rw [LinearExpr.ids, List.map_map]
      exact List.map_congr_left fun t ht => congrArg (t.id, ·) (h.coefficient t ht)
    rw [hterms _ hcollects, hcollects.order]
    decide +kernel
  · have heval : (operate .minus (member (named 1)) (member (named 2))).eval .blank =
        .ok (.expr 0 ((LinearExpr.ofVar (named 1)).minus (LinearExpr.ofVar (named 2)))) := by
      show Value.combine 0 .minus (.var (named 1)) (.var (named 2)) = _
      rw [Value.combine]
      rfl
    exact ⟨_, heval, (expressions_canonical .blank).2 _ _ _ heval⟩

end OperatorTree

end Milp

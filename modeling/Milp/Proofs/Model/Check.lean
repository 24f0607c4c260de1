import Mathlib.Data.List.Induction
import Milp.Proofs.Model.Image
import Milp.Proofs.Table
set_option autoImplicit false

/-! # What queues are checked for

A queue is scanned from its first entity on, and what is found is found at the first place where there
is something to find (`StopsAt`). A scan stops at entities that are committed or repeated, at
constraints with a variable that is not committed, and, when the queue is encoded, at positions that
are too large. What is committed can be read off the tables of a model as long as these belong to its
entities (`Indexed`). -/

namespace Milp

/-! ## Scans -/

section Scans

variable {α : Type} {stops : List α → α → Prop} {xs before before' : List α} {x y : α}

/-- A scan does not stop at any element of a list; whether it does may depend on the elements
before. -/
def Passes (stops : List α → α → Prop) (xs : List α) : Prop :=
  ∀ before x after, xs = before ++ x :: after → ¬stops before x

/-- A scan stops at an element of a list, and at none before it. -/
structure StopsAt (stops : List α → α → Prop) (xs before : List α) (x : α) : Prop where
  here : ∃ after, xs = before ++ x :: after
  passes : Passes stops before
  stops : stops before x

theorem passes_nil : Passes stops [] := by
  intro before x after h
  cases before <;> cases h

theorem passes_concat : Passes stops (xs ++ [x]) ↔ Passes stops xs ∧ ¬stops xs x := by
  constructor
  · intro h
    refine ⟨fun before y after hxs => h before y (after ++ [x]) ?_, h xs x [] rfl⟩
    rw [hxs, List.append_assoc, List.cons_append]
  · rintro ⟨hxs, hx⟩ before y after h
    rcases List.eq_nil_or_concat after with rfl | ⟨after, z, rfl⟩
    · obtain ⟨rfl, hy⟩ := List.append_inj' h rfl
      cases hy
      exact hx
    · rw [List.concat_eq_append, ← List.cons_append, ← List.append_assoc] at h
      exact hxs before y after (List.append_inj' h rfl).1

/-- A scan that stops at less passes more. -/
theorem Passes.mono {stops' : List α → α → Prop} (h : Passes stops xs)
    (hstops : ∀ before x, stops' before x → stops before x) : Passes stops' xs :=
  fun before x after hxs hx => h before x after hxs (hstops before x hx)

theorem StopsAt.not_passes (h : StopsAt stops xs before x) : ¬Passes stops xs := by
  obtain ⟨after, hxs⟩ := h.here
  exact fun hpasses => hpasses before x after hxs h.stops

/-- A scan stops at one place only. -/
theorem StopsAt.unique (h : StopsAt stops xs before x) (h' : StopsAt stops xs before' y) :
    before = before' ∧ x = y := by
  obtain ⟨after, hxs⟩ := h.here
  obtain ⟨after', hxs'⟩ := h'.here
  have hsplits : before ++ x :: after = before' ++ y :: after' := hxs.symm.trans hxs'
  -- one of the places is not after the other, and if it were before, the other scan had stopped there
  rcases List.append_eq_append_iff.1 hsplits with ⟨zs, hzs, hrest⟩ | ⟨zs, hzs, hrest⟩
  · cases zs with
    | nil =>
      rw [List.append_nil] at hzs
      cases hrest
      exact ⟨hzs.symm, rfl⟩
    | cons z zs =>
      cases hrest
      exact absurd h.stops (h'.passes before x zs hzs)
  · cases zs with
    | nil =>
      rw [List.append_nil] at hzs
      cases hrest
      exact ⟨hzs, rfl⟩
    | cons z zs =>
      cases hrest
      exact absurd h'.stops (h.passes before' y zs hzs)

/-- The first element with a property is where a scan for it stops. -/
theorem stopsAt_of_find? {p : α → Bool} {q : α → Prop} (hp : ∀ y, p y = true ↔ q y)
    (h : xs.find? p = some x) : ∃ before, StopsAt (fun _ => q) xs before x := by
  obtain ⟨hx, before, after, hxs, hbefore⟩ := List.find?_eq_some_iff_append.1 h
  refine ⟨before, ⟨after, hxs⟩, fun earlier y later hy hq => ?_, (hp x).1 hx⟩
  have hnot := hbefore y (by rw [hy]; exact List.mem_append_right _ List.mem_cons_self)
  rw [(hp y).2 hq] at hnot
  cases hnot

end Scans

namespace Model

variable {m : Model}

/-! ## Duplicates -/

/-- An entity is committed or stands earlier in the queue. -/
def Repeats {α : Type} (id : α → Nat) (committed before : List α) (x : α) : Prop :=
  id x ∈ (committed ++ before).map id

section Duplicates

variable {α : Type} {id : α → Nat} {committed before : List α} {seen : List Nat}

/-- In a queue without duplicates entities are distinct and new. -/
theorem nodup_of_passes {xs : List α} (h : Passes (Repeats id committed) xs) :
    (xs.map id).Nodup ∧ ∀ x ∈ xs, id x ∉ committed.map id := by
  induction xs using List.reverseRecOn with
  | nil => exact ⟨List.nodup_nil, fun _ hx => absurd hx List.not_mem_nil⟩
  | append_singleton xs x ih =>
    obtain ⟨hxs, hx⟩ := passes_concat.1 h
    obtain ⟨hnodup, hnew⟩ := ih hxs
    rw [Repeats, List.map_append, List.mem_append, not_or] at hx
    constructor
    · rw [List.map_append, List.map_singleton, List.nodup_append]
      refine ⟨hnodup, by simp, fun i hi j hj hij => hx.2 ?_⟩
      rwa [← List.mem_singleton.1 hj, ← hij]
    · intro y hy
      rcases List.mem_append.1 hy with hy | hy
      · exact hnew y hy
      · rw [List.mem_singleton.1 hy]
        exact hx.1

/-- What has been seen of a queue are the entities before. -/
theorem repeats_iff (hseen : ∀ i, i ∈ seen ↔ i ∈ before.map id) (x : α) :
    ((Table.positions (committed.map id)).contains (id x) || decide (id x ∈ seen)) = true ↔
      Repeats id committed before x := by
  rw [Repeats, List.map_append, List.mem_append, ← hseen, Bool.or_eq_true, decide_eq_true_iff,
    ← Bool.not_eq_false, Table.contains_positions, not_not]

theorem seen_concat (hseen : ∀ i, i ∈ seen ↔ i ∈ before.map id) (x : α) (i : Nat) :
    i ∈ id x :: seen ↔ i ∈ (before ++ [x]).map id := by
  rw [List.mem_cons, hseen, List.map_append, List.mem_append, List.map_singleton,
    List.mem_singleton, or_comm]

/-- The search for a duplicate finds the first one. The induction is on what is left of the queue. -/
theorem firstDuplicate?_cases (hseen : ∀ i, i ∈ seen ↔ i ∈ before.map id)
    (hbefore : Passes (Repeats id committed) before) (xs : List α) :
    (firstDuplicate? id (.positions (committed.map id)) seen xs = none ∧
        Passes (Repeats id committed) (before ++ xs)) ∨
      ∃ earlier x, firstDuplicate? id (.positions (committed.map id)) seen xs = some x ∧
        StopsAt (Repeats id committed) (before ++ xs) earlier x := by
  induction xs generalizing before seen with
  | nil =>
    rw [List.append_nil]
    exact .inl ⟨rfl, hbefore⟩
  | cons x rest ih =>
    rw [firstDuplicate?]
    by_cases hx : Repeats id committed before x
    · rw [if_pos ((repeats_iff hseen x).2 hx)]
      exact .inr ⟨before, x, rfl, ⟨rest, rfl⟩, hbefore, hx⟩
    · rw [if_neg (mt (repeats_iff hseen x).1 hx), List.append_cons]
      exact ih (seen_concat hseen x) (passes_concat.2 ⟨hbefore, hx⟩)

end Duplicates

/-! ## Tables -/

/-- The tables of a model belong to its committed entities, which are distinct. -/
structure Indexed (m : Model) : Prop where
  distinctVars : (m.vars.map Var.id).Nodup
  distinctConstraints : (m.constraints.map Constraint.id).Nodup
  varCount : m.varCount = m.vars.length
  varIndices : m.varIndices = .positions (m.vars.map Var.id)
  constraintIndices : m.constraintIndices = .positions (m.constraints.map Constraint.id)
  varsByName : m.varsByName = .firstOf m.vars

/-! ## Variables -/

/-- What comes of the check of the queued variables. -/
inductive VarsCheck (m : Model) : Except Failure Unit → Prop
  | passed (h : Passes (Repeats Var.id m.vars) m.pendingVars) : VarsCheck m (.ok ())
  | duplicate {before : List Var} {v : Var}
      (h : StopsAt (Repeats Var.id m.vars) m.pendingVars before v) :
      VarsCheck m (.error (.duplicate (.text "Variable") (.var v)))

theorem Indexed.checkVars (h : m.Indexed) : m.VarsCheck m.checkVars := by
  have hbefore : Passes (Repeats Var.id m.vars) [] := passes_nil
  have hcases := firstDuplicate?_cases (fun _ => .rfl) hbefore m.pendingVars
  rw [List.map_nil, List.nil_append, ← h.varIndices] at hcases
  rw [Model.checkVars]
  rcases hcases with ⟨hnone, hpasses⟩ | ⟨before, v, hsome, hstops⟩
  · rw [hnone]
    exact .passed hpasses
  · rw [hsome]
    exact .duplicate hstops

theorem Indexed.passes_of_checkVars (h : m.Indexed) (hm : m.checkVars = .ok ()) :
    Passes (Repeats Var.id m.vars) m.pendingVars := by
  have hcheck := h.checkVars
  rw [hm] at hcheck
  cases hcheck with
  | passed hpasses => exact hpasses

/-! ## Constraints -/

/-- A variable is not committed. -/
def Unknown (m : Model) (v : Var) : Prop := v.id ∉ m.vars.map Var.id

/-- A constraint is a duplicate, or has a variable that is not committed. -/
def Rejects (m : Model) (before : List Constraint) (c : Constraint) : Prop :=
  Repeats Constraint.id m.constraints before c ∨ ∃ v ∈ c.expr.vars, m.Unknown v

theorem Indexed.unknown_iff (h : m.Indexed) (v : Var) :
    (!m.isCommittedVar v) = true ↔ m.Unknown v := by
  rw [Unknown, ← Table.contains_positions, ← h.varIndices, Bool.not_eq_true']
  rfl

theorem Indexed.unknownVar?_cases (h : m.Indexed) (c : Constraint) :
    (m.unknownVar? c = none ∧ ¬∃ v ∈ c.expr.vars, m.Unknown v) ∨
      ∃ known v, m.unknownVar? c = some v ∧
        StopsAt (fun _ => m.Unknown) c.expr.vars known v := by
  cases hfound : m.unknownVar? c with
  | none =>
    refine .inl ⟨rfl, ?_⟩
    rintro ⟨v, hv, hunknown⟩
    exact List.find?_eq_none.1 hfound v hv ((h.unknown_iff v).2 hunknown)
  | some v =>
    obtain ⟨known, hstops⟩ := stopsAt_of_find? h.unknown_iff hfound
    exact .inr ⟨known, v, rfl, hstops⟩

/-- What comes of the check of the constraints of a queue. -/
inductive ConstraintsCheck (m : Model) (cs : List Constraint) : Except Failure Unit → Prop
  | passed (h : Passes m.Rejects cs) : ConstraintsCheck m cs (.ok ())
  | duplicate {before : List Constraint} {c : Constraint} (h : StopsAt m.Rejects cs before c)
      (hc : Repeats Constraint.id m.constraints before c) :
      ConstraintsCheck m cs (.error (.duplicate (.text "Constraint") (.constraint c)))
  | unknown {before : List Constraint} {c : Constraint} {known : List Var} {v : Var}
      (h : StopsAt m.Rejects cs before c) (hc : ¬Repeats Constraint.id m.constraints before c)
      (hv : StopsAt (fun _ => m.Unknown) c.expr.vars known v) :
      ConstraintsCheck m cs (.error (.unknownVariable (.var v) (.constraint c)))

theorem Indexed.checkConstraintsFrom (h : m.Indexed) {before : List Constraint} {seen : List Nat}
    (hseen : ∀ i, i ∈ seen ↔ i ∈ before.map Constraint.id) (hbefore : Passes m.Rejects before)
    (cs : List Constraint) :
    m.ConstraintsCheck (before ++ cs) (m.checkConstraintsFrom seen cs) := by
  induction cs generalizing before seen with
  | nil =>
    rw [List.append_nil]
    exact .passed hbefore
  | cons c rest ih =>
    have hc : _ ↔ Repeats Constraint.id m.constraints before c := repeats_iff hseen c
    rw [← h.constraintIndices] at hc
    rw [Model.checkConstraintsFrom]
    by_cases hrepeats : Repeats Constraint.id m.constraints before c
    · rw [if_pos (hc.2 hrepeats)]
      exact .duplicate ⟨⟨rest, rfl⟩, hbefore, .inl hrepeats⟩ hrepeats
    · rw [if_neg (mt hc.1 hrepeats)]
      rcases h.unknownVar?_cases c with ⟨hnone, hknown⟩ | ⟨known, v, hsome, hstops⟩
      · rw [hnone, List.append_cons]
        have hpasses := passes_concat.2 ⟨hbefore, fun hc => hc.elim hrepeats hknown⟩
        exact ih (seen_concat hseen c) hpasses
      · -- the constraint is rejected because of this variable, but there may be others
        rw [hsome]
        obtain ⟨later, hvars⟩ := hstops.here
        have hv : v ∈ c.expr.vars := by
          rw [hvars]
          exact List.mem_append_right _ List.mem_cons_self
        exact .unknown ⟨⟨rest, rfl⟩, hbefore, .inr ⟨v, hv, hstops.stops⟩⟩ hrepeats hstops

theorem Indexed.checkConstraints (h : m.Indexed) :
    m.ConstraintsCheck m.pendingConstraints m.checkConstraints := by
  have hbefore : Passes m.Rejects [] := passes_nil
  exact h.checkConstraintsFrom (fun _ => .rfl) hbefore m.pendingConstraints

theorem Indexed.passes_of_checkConstraints (h : m.Indexed) (hm : m.checkConstraints = .ok ()) :
    Passes m.Rejects m.pendingConstraints := by
  have hcheck := h.checkConstraints
  rw [hm] at hcheck
  cases hcheck with
  | passed hpasses => exact hpasses

/-! ## Positions -/

/-- The index of a variable is too large for 32 bits. -/
def IndexOverflows (m : Model) (v : Var) : Prop := ∃ i, m.varIndex? v = some i ∧ power 2 31 ≤ i

/-- A row starts at a position that is too large for 32 bits, or has a variable with such an index. -/
def Overflows (m : Model) (before : List Constraint) (c : Constraint) : Prop :=
  power 2 31 ≤ (before.map (·.expr.size)).sum ∨ ∃ v ∈ c.expr.vars, m.IndexOverflows v

/-- All variables of an expression are committed. -/
def Covers (m : Model) (e : LinearExpr) : Prop := ∀ v ∈ e.vars, ∃ i, m.varIndex? v = some i

theorem position32_cases (n : Nat) :
    (n < power 2 31 ∧ position32 n = .ok n) ∨
      (power 2 31 ≤ n ∧ position32 n = .error .overflow) := by
  unfold position32
  by_cases h : n < power 2 31
  · exact .inl ⟨h, if_pos h⟩
  · exact .inr ⟨Nat.le_of_not_lt h, if_neg h⟩

theorem encodeTerm_cases {t : Term} {i : Nat} (h : m.varIndex? t.1 = some i) :
    (¬m.IndexOverflows t.1 ∧ ∃ u, m.encodeTerm t = .ok u) ∨
      (m.IndexOverflows t.1 ∧ m.encodeTerm t = .error .overflow) := by
  have hencode : m.encodeTerm t = (do return (← position32 i, t.2)) := by
    rw [encodeTerm, h]
  rw [hencode]
  rcases position32_cases i with ⟨hi, hposition⟩ | ⟨hi, hposition⟩
  · refine .inl ⟨?_, (i, t.2), by rw [hposition]; rfl⟩
    rintro ⟨j, hj, hlarge⟩
    cases h.symm.trans hj
    exact absurd hi (Nat.not_lt_of_le hlarge)
  · exact .inr ⟨⟨i, h, hi⟩, by rw [hposition]; rfl⟩

theorem encodeTerms_cases {e : LinearExpr} (h : m.Covers e) :
    ((¬∃ v ∈ e.vars, m.IndexOverflows v) ∧ ∃ ts, m.encodeTerms e = .ok ts ∧ ts.length = e.size) ∨
      ((∃ v ∈ e.vars, m.IndexOverflows v) ∧ m.encodeTerms e = .error .overflow) := by
  have hvars : (∃ v ∈ e.vars, m.IndexOverflows v) ↔ ∃ t ∈ e.terms, m.IndexOverflows t.1 := by
    simp only [LinearExpr.vars, List.mem_map, exists_exists_and_eq_and]
  rw [hvars, encodeTerms]
  have hterms : ∀ t ∈ e.terms, (¬m.IndexOverflows t.1 ∧ ∃ u, m.encodeTerm t = .ok u) ∨
      (m.IndexOverflows t.1 ∧ m.encodeTerm t = .error .overflow) := by
    intro t ht
    obtain ⟨i, hi⟩ := h t.1 (List.mem_map_of_mem ht)
    exact encodeTerm_cases hi
  refine (mapM_cases hterms).imp_left ?_
  rintro ⟨hnone, ts, hts⟩
  exact ⟨hnone, ts, hts, (mapM_eq_ok_iff.1 hts).length_eq.symm⟩

/-- Rows can be encoded unless a position overflows. The induction is on what is left of the rows;
the position is where those before them end. -/
theorem encodeRowsFrom_cases {before : List Constraint} (hbefore : Passes m.Overflows before)
    {cs : List Constraint} (h : ∀ c ∈ cs, m.Covers c.expr) :
    (Passes m.Overflows (before ++ cs) ∧
        ∃ rows, m.encodeRowsFrom (before.map (·.expr.size)).sum cs = .ok rows) ∨
      (¬Passes m.Overflows (before ++ cs) ∧
        m.encodeRowsFrom (before.map (·.expr.size)).sum cs = .error .overflow) := by
  induction cs generalizing before with
  | nil =>
    rw [List.append_nil]
    exact .inl ⟨hbefore, _, rfl⟩
  | cons c rest ih =>
    have hstops (hc : m.Overflows before c) : ¬Passes m.Overflows (before ++ c :: rest) :=
      StopsAt.not_passes ⟨⟨rest, rfl⟩, hbefore, hc⟩
    rw [encodeRowsFrom]
    rcases position32_cases (before.map (·.expr.size)).sum with ⟨hsmall, hstart⟩ | ⟨hlarge, hstart⟩
    · rcases encodeTerms_cases (h c List.mem_cons_self) with
        ⟨hnone, ts, hts, hlength⟩ | ⟨hlarge, hts⟩
      · have hc : ¬m.Overflows before c := fun hc => hc.elim (Nat.not_le_of_lt hsmall) hnone
        -- the next row starts where this one ends
        have hend : ((before ++ [c]).map (·.expr.size)).sum =
            (before.map (·.expr.size)).sum + ts.length := by
          rw [List.map_append, List.sum_append, List.map_singleton, List.sum_singleton, hlength]
        have hrest := ih (passes_concat.2 ⟨hbefore, hc⟩) fun d hd => h d (List.mem_cons_of_mem c hd)
        rw [← List.append_cons, hend] at hrest
        rw [hstart, hts]
        rcases hrest with ⟨hpasses, rows, hrows⟩ | ⟨hnot, hrows⟩
        · refine .inl ⟨hpasses, ((before.map (·.expr.size)).sum :: rows.1, ts ++ rows.2), ?_⟩
          show (m.encodeRowsFrom _ rest >>= _ : Except Fault _) = _
          rw [hrows]
          rfl
        · refine .inr ⟨hnot, ?_⟩
          show (m.encodeRowsFrom _ rest >>= _ : Except Fault _) = _
          rw [hrows]
          rfl
      · exact .inr ⟨hstops (.inr hlarge), by rw [hstart, hts]; rfl⟩
    · exact .inr ⟨hstops (.inl hlarge), by rw [hstart]; rfl⟩

/-- Constraints can be handed over unless a position overflows. -/
theorem constraintsCall_cases {cs : List Constraint} (h : ∀ c ∈ cs, m.Covers c.expr) :
    (Passes m.Overflows cs ∧ ∃ x, m.constraintsCall cs = .ok x) ∨
      (¬Passes m.Overflows cs ∧ m.constraintsCall cs = .error .overflow) := by
  have hbefore : Passes m.Overflows [] := passes_nil
  unfold constraintsCall
  split
  · rename_i c
    -- a single row starts at 0, so that only its indices can be too large
    have hc : Passes m.Overflows [c] ↔ ¬∃ v ∈ c.expr.vars, m.IndexOverflows v := by
      rw [← List.nil_append [c], passes_concat, and_iff_right hbefore, Overflows,
        or_iff_right (Nat.not_le_of_lt (by decide))]
    rw [hc, addOneConstraint]
    rcases encodeTerms_cases (h c List.mem_cons_self) with ⟨hnone, ts, hts, -⟩ | ⟨hlarge, hts⟩
    · exact .inl ⟨hnone, _, by rw [hts]; rfl⟩
    · exact .inr ⟨not_not.2 hlarge, by rw [hts]; rfl⟩
  · rw [addManyConstraints, encodeRows]
    rcases encodeRowsFrom_cases hbefore h with ⟨hpasses, rows, hrows⟩ | ⟨hnot, hrows⟩
    · rw [List.map_nil, List.sum_nil] at hrows
      exact .inl ⟨hpasses, _, by rw [hrows]; rfl⟩
    · rw [List.map_nil, List.sum_nil] at hrows
      exact .inr ⟨hnot, by rw [hrows]; rfl⟩

end Model

end Milp

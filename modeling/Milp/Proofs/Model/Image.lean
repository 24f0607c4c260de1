import Milp.Proofs.Engine.Addition
import Milp.Proofs.Except
set_option autoImplicit false

/-! # What entities stand for in an engine

A variable stands for a column, and a constraint of a model for a row, with the indices of its
variables in the order of its terms. The calls with which a model hands entities over, one at a time
or in batches, add exactly these columns and rows (`varsCall_answered`, `constraintsCall_answered`). -/

namespace Milp

open Milp.Action Engine

/-- The column that a variable stands for; bounds that no double can hold have none. -/
def Var.column (v : Var) : Except Fault Column :=
  return { objective := v.objective, lower := ← v.lower.toDouble, upper := ← v.upper.toDouble,
           kind := v.kind, name := .ofName v.name }

namespace Model

/-- A term with the index of its variable, which must be committed. -/
def place (m : Model) (t : Term) : Except Fault (Nat × Double) :=
  match m.varIndex? t.1 with
  | some i => .ok (i, t.2)
  | none => .error .missingKey

/-- The row that a constraint stands for, with its terms in their order. -/
def termRow (m : Model) (c : Constraint) : Except Fault TermRow :=
  return { terms := ← c.expr.terms.mapM m.place, sense := c.sense, bound := c.bound, name := c.name }

/-- The row that a constraint stands for, as an engine stores it. -/
def row (m : Model) (c : Constraint) : Except Fault Row := TermRow.row <$> m.termRow c

/-! ## Variables -/

theorem columnOf_var (v : Var) :
    columnOf (.float v.objective) (.number v.lower) (.number v.upper) v.kind (.ofName v.name) =
      v.column := rfl

/-- The parts of the columns of variables whose bounds have been read. -/
theorem columns_of_bounds {vs : List Var} {lowers uppers : List Double}
    (hl : List.Forall₂ (fun v x => v.lower.toDouble = .ok x) vs lowers)
    (hu : List.Forall₂ (fun v x => v.upper.toDouble = .ok x) vs uppers) :
    ∃ cs : List Column, List.Forall₂ (fun v c => v.column = .ok c) vs cs ∧
      lowers = cs.map (·.lower) ∧ uppers = cs.map (·.upper) := by
  induction hl generalizing uppers with
  | nil =>
    cases hu
    exact ⟨[], .nil, rfl, rfl⟩
  | @cons v lower vs lowers hlower hlowers ih =>
    obtain ⟨upper, uppers, hupper, huppers, rfl⟩ := List.forall₂_cons_left_iff.1 hu
    obtain ⟨cs, hcs, rfl, rfl⟩ := ih huppers
    have hc : v.column = .ok ⟨v.objective, lower, upper, v.kind, .ofName v.name⟩ := by
      rw [Var.column, hlower, hupper]
      rfl
    exact ⟨_ :: cs, .cons hc hcs, rfl, rfl⟩

theorem column_eq_ok {v : Var} {c : Column} (h : v.column = .ok c) :
    c.objective = v.objective ∧ v.lower.toDouble = .ok c.lower ∧
      v.upper.toDouble = .ok c.upper ∧ c.kind = v.kind ∧ c.name = .ofName v.name := by
  obtain ⟨lower, hlower, h⟩ := bind_eq_ok_iff.1 h
  obtain ⟨upper, hupper, h⟩ := bind_eq_ok_iff.1 h
  cases h
  exact ⟨rfl, hlower, hupper, rfl, rfl⟩

/-- A batch of variables is passed on as their columns. -/
theorem addManyVars_eq_ok {vs : List Var} {x : Engine.Acting Value} (h : addManyVars vs = .ok x) :
    ∃ cs, vs.mapM Var.column = .ok cs ∧ x = Engine.addColumns cs := by
  obtain ⟨lowers, hlowers, h⟩ := bind_eq_ok_iff.1 h
  obtain ⟨uppers, huppers, h⟩ := bind_eq_ok_iff.1 h
  obtain ⟨cs, hcs, rfl, rfl⟩ :=
    columns_of_bounds (mapM_eq_ok_iff.1 hlowers) (mapM_eq_ok_iff.1 huppers)
  refine ⟨cs, mapM_eq_ok_iff.2 hcs, (Except.ok.inj h).symm.trans ?_⟩
  -- bounds have been read by now, and each other list is one of the columns as well
  have hobjectives : vs.map (·.objective) = cs.map (·.objective) :=
    map_eq_map hcs fun _ _ hc => (column_eq_ok hc).1.symm
  have hkinds : (vs.map fun v => Value.text v.kind.code) = cs.map fun c => .text c.kind.code :=
    map_eq_map hcs fun _ _ hc => by rw [(column_eq_ok hc).2.2.2.1]
  have hnames : (vs.map fun v => Value.ofName v.name) = cs.map (·.name) :=
    map_eq_map hcs fun _ _ hc => (column_eq_ok hc).2.2.2.2.symm
  have hnames' : names (vs.map (·.name)) = .list (cs.map (·.name)) := by
    rw [names, List.map_map, ← hnames]
    rfl
  rw [hobjectives, hkinds, hnames', hcs.length_eq]
  simp only [floats, List.map_map]
  rfl

/-! ## Constraints -/

theorem position32_eq_ok {n i : Nat} (h : position32 n = .ok i) : i = n := by
  unfold position32 at h
  split at h
  · exact (Except.ok.inj h).symm
  · cases h

theorem encodeTerm_eq_ok {m : Model} {t : Term} {u : Nat × Double}
    (h : m.encodeTerm t = .ok u) : m.place t = .ok u := by
  unfold encodeTerm at h
  unfold place
  cases hindex : m.varIndex? t.1 with
  | none =>
    rw [hindex] at h
    cases h
  | some i =>
    rw [hindex] at h
    obtain ⟨j, hj, h⟩ := bind_eq_ok_iff.1 h
    rw [position32_eq_ok hj] at h
    exact h

theorem encodeTerms_eq_ok {m : Model} {e : LinearExpr} {ts : List (Nat × Double)}
    (h : m.encodeTerms e = .ok ts) : e.terms.mapM m.place = .ok ts :=
  mapM_eq_ok_iff.2 ((mapM_eq_ok_iff.1 h).imp fun _ _ => encodeTerm_eq_ok)

theorem termRow_of_encodeTerms {m : Model} {c : Constraint} {ts : List (Nat × Double)}
    (h : m.encodeTerms c.expr = .ok ts) : m.termRow c = .ok ⟨ts, c.sense, c.bound, c.name⟩ := by
  rw [termRow, encodeTerms_eq_ok h]
  rfl

/-- A single constraint is passed on as its row. -/
theorem addOneConstraint_eq_ok {m : Model} {c : Constraint} {x : Engine.Acting Value}
    (h : m.addOneConstraint c = .ok x) : ∃ r, m.termRow c = .ok r ∧ x = Engine.addRow r := by
  obtain ⟨ts, hts, h⟩ := bind_eq_ok_iff.1 h
  refine ⟨_, termRow_of_encodeTerms hts, (Except.ok.inj h).symm.trans ?_⟩
  simp only [ints, floats, List.map_map]
  rfl

theorem encodeRowsFrom_eq_ok {m : Model} {cs : List Constraint} {position : Nat}
    {starts : List Nat} {ts : List (Nat × Double)}
    (h : m.encodeRowsFrom position cs = .ok (starts, ts)) :
    ∃ rs, List.Forall₂ (fun c r => m.termRow c = .ok r) cs rs ∧
      starts = TermRow.startsFrom position rs ∧ ts = TermRow.allTerms rs := by
  induction cs generalizing position starts ts with
  | nil =>
    cases h
    exact ⟨[], .nil, rfl, rfl⟩
  | cons c rest ih =>
    obtain ⟨start, hstart, h⟩ := bind_eq_ok_iff.1 h
    obtain ⟨terms, hterms, h⟩ := bind_eq_ok_iff.1 h
    obtain ⟨⟨others, after⟩, hothers, h⟩ := bind_eq_ok_iff.1 h
    obtain ⟨rs, hrs, rfl, rfl⟩ := ih hothers
    cases position32_eq_ok hstart
    cases h
    exact ⟨_ :: rs, .cons (termRow_of_encodeTerms hterms) hrs, rfl, rfl⟩

theorem termRow_eq_ok {m : Model} {c : Constraint} {r : TermRow} (h : m.termRow c = .ok r) :
    c.expr.terms.mapM m.place = .ok r.terms ∧ r.sense = c.sense ∧ r.bound = c.bound ∧
      r.name = c.name := by
  obtain ⟨ts, hts, h⟩ := bind_eq_ok_iff.1 h
  cases h
  exact ⟨hts, rfl, rfl, rfl⟩

/-- A batch of constraints is passed on as their rows. -/
theorem addManyConstraints_eq_ok {m : Model} {cs : List Constraint} {x : Engine.Acting Value}
    (h : m.addManyConstraints cs = .ok x) :
    ∃ rs, cs.mapM m.termRow = .ok rs ∧ x = Engine.addRows rs := by
  obtain ⟨⟨starts, ts⟩, hrows, h⟩ := bind_eq_ok_iff.1 h
  obtain ⟨rs, hrs, rfl, rfl⟩ := encodeRowsFrom_eq_ok hrows
  refine ⟨rs, mapM_eq_ok_iff.2 hrs, (Except.ok.inj h).symm.trans ?_⟩
  have hsenses : (cs.map fun c => Value.text c.sense.code) = rs.map fun r => .text r.sense.code :=
    map_eq_map hrs fun _ _ hr => by rw [(termRow_eq_ok hr).2.1]
  have hbounds : cs.map (·.bound) = rs.map (·.bound) :=
    map_eq_map hrs fun _ _ hr => (termRow_eq_ok hr).2.2.1.symm
  have hnames : cs.map (·.name) = rs.map (·.name) :=
    map_eq_map hrs fun _ _ hr => (termRow_eq_ok hr).2.2.2.symm
  rw [hsenses, hbounds, hnames, hrs.length_eq]
  simp only [ints, floats, names, List.map_map]
  rfl

/-! ## Handing over -/

section HandingOver

variable {I J K L : Engine × Surroundings → Prop} {x : Engine.Acting Value}

/-- Handing variables over, one or several, adds their columns if the native solver takes them. -/
theorem varsCall_answered (hI : Heedless I) (hJ : Forgets L J) {vs : List Var}
    (h : varsCall vs = .ok x)
    (hone : ∀ v, vs = [v] → Leads I (ifNative (addNativeColumn (.float v.objective)
      (.number v.lower) (.number v.upper) v.kind (.ofName v.name)))
      (fun added s => if added then K s else I s) I)
    (hmany : ∀ cs, vs.mapM Var.column = .ok cs →
      Leads I (ifNative (addNativeColumns (cs.map fun c => .float c.objective)
        (cs.map fun c => .float c.lower) (cs.map fun c => .float c.upper) (cs.map (·.kind))
        (cs.map (·.name)))) (fun added s => if added then K s else I s) I)
    (hstore : ∀ cs e w, vs.mapM Var.column = .ok cs → K (e, w) →
      L ({ e with columns := e.columns ++ cs }, w))
    (hfail : ∀ f s, vs.mapM Var.column = .error f → K s → I s) :
    Leads I x (Answered I J) I := by
  unfold varsCall at h
  split at h
  · rename_i v
    cases h
    refine addVar_answered hI hJ _ _ _ _ _ (hone v rfl) fun s hs => ?_
    rw [columnOf_var]
    cases hc : v.column with
    | error f => exact hfail f s (by rw [List.mapM_cons, hc]; rfl) hs
    | ok c => exact hstore [c] s.1 s.2 (by rw [List.mapM_cons, hc]; rfl) hs
  · obtain ⟨cs, hcs, rfl⟩ := addManyVars_eq_ok h
    exact addColumns_answered hI hJ cs (hmany cs hcs) fun e w hs => hstore cs e w hcs hs

/-- Handing constraints over, one or several, adds their rows if the native solver takes them; it
gets to see rows of columns only that are there. -/
theorem constraintsCall_answered (hI : Heedless I) (hJ : Forgets L J) {m : Model}
    {cs : List Constraint} (h : m.constraintsCall cs = .ok x)
    (hone : ∀ r, cs.mapM m.termRow = .ok [r] →
      Leads (fun s => TermRow.InRange s.1.columns.length r.terms ∧ I s)
        (ifNative (addNativeRow (r.terms.map fun t => .int t.1) (r.terms.map fun t => .float t.2)
          r.sense (.float r.bound) (.ofName r.name))) (fun added s => if added then K s else I s) I)
    (hmany : ∀ rs, cs.mapM m.termRow = .ok rs →
      Leads (fun s => TermRow.InRange s.1.columns.length (TermRow.allTerms rs) ∧ I s)
        (ifNative (addNativeRows ((TermRow.startsFrom 0 rs).map fun (i : Nat) => .int i)
          ((TermRow.allTerms rs).map fun t => .int t.1)
          ((TermRow.allTerms rs).map fun t => .float t.2) (rs.map (·.sense))
          (rs.map fun r => .float r.bound) (rs.map fun r => .ofName r.name)))
        (fun added s => if added then K s else I s) I)
    (hstore : ∀ rs e w, cs.mapM m.termRow = .ok rs → K (e, w) →
      L ({ e with rows := e.rows ++ rs.map TermRow.row }, w)) :
    Leads I x (Answered I J) I := by
  unfold constraintsCall at h
  split at h
  · rename_i c
    obtain ⟨r, hr, rfl⟩ := addOneConstraint_eq_ok h
    have hrs : [c].mapM m.termRow = .ok [r] := by
      rw [List.mapM_cons, hr]
      rfl
    exact addRow_answered hI hJ r (hone r hrs) fun e w hs => hstore [r] e w hrs hs
  · obtain ⟨rs, hrs, rfl⟩ := addManyConstraints_eq_ok h
    exact addRows_answered hI hJ rs (hmany rs hrs) fun e w hs => hstore rs e w hrs hs

theorem varsCall_maintains (hI : Patient I) (hw : ∀ e v w, I (e, v) → I (e, w))
    (hcolumns : ∀ e w cs, I (e, w) → I ({ e with columns := e.columns ++ cs }, w))
    {vs : List Var} (h : varsCall vs = .ok x) : Maintains I x := by
  have hx : Leads I x (Answered I I) I := varsCall_answered hI.heedless hI.forgets h
    (fun v _ => ifNative_leads (fun e => addNativeColumn_keeps _ _ _ _ _) hw)
    (fun cs _ => ifNative_leads (fun e => addNativeColumns_keeps _ _ _ _ _) hw)
    (fun cs e w _ => hcolumns e w cs) fun _ _ _ hs => hs
  exact (hx.mono (fun _ h => h) (fun _ _ h => h.elim And.right And.right) fun _ h => h).maintains

theorem constraintsCall_maintains (hI : Patient I) (hw : ∀ e v w, I (e, v) → I (e, w))
    (hrows : ∀ e w rs, I (e, w) → I ({ e with rows := e.rows ++ rs }, w)) {m : Model}
    {cs : List Constraint} (h : m.constraintsCall cs = .ok x) : Maintains I x := by
  have hx : Leads I x (Answered I I) I := constraintsCall_answered hI.heedless hI.forgets h
    (fun r _ => (ifNative_leads (fun e => addNativeRow_keeps _ _ _ _ _) hw).mono
      (fun _ h => h.2) (fun _ _ h => h) fun _ h => h)
    (fun rs _ => (ifNative_leads (fun e => addNativeRows_keeps _ _ _ _ _ _) hw).mono
      (fun _ h => h.2) (fun _ _ h => h) fun _ h => h)
    fun rs e w _ => hrows e w (rs.map TermRow.row)
  exact (hx.mono (fun _ h => h) (fun _ _ h => h.elim And.right And.right) fun _ h => h).maintains

end HandingOver

end Model

end Milp

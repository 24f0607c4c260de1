import Milp.Proofs.Model.Outcome
set_option autoImplicit false

/-! # Rows in compressed form

Several constraints are handed over in compressed form: the terms of all of them one after the other,
and where those of each one start. Starts are kept in 32 bits, and rows can be encoded exactly if they
all fit (`encodeRows_cases`). What an engine in memory makes of the batch is what it makes of the
constraints one at a time: nothing is lost where a row without terms starts at the same place as the
next one, or at the end (`Alike`). -/

namespace Milp

open Milp.Action Engine

/-- No order makes an operation of the engine fail. -/
def Engine.Obliging (e : Engine) : Prop := ∀ operation, e.injected? operation = none

/-- A call that nothing makes fail is accepted, and its rows are stored. -/
theorem Engine.CallEnds.stored_of_obliging {operation : String} {cs : List Column} {rs : List Row}
    {e : Engine} {w : Surroundings} {r : Except Failure Value × Engine × Surroundings}
    (h : CallEnds operation cs rs e w r) (hobliging : e.Obliging) :
    Accepted r ∧ r.2.1.rows = e.rows ++ rs := by
  cases h with
  | failed hfails =>
    obtain ⟨order, horder, -⟩ := hfails
    rw [hobliging operation] at horder
    cases horder
  | stored _ hfalse hran => exact ⟨⟨_, rfl, hfalse⟩, hran.rows⟩

namespace Model

variable {m : Model} {cs : List Constraint} {begins : List Nat} {terms : List (Nat × Double)}

/-- The number of terms of some constraints. -/
def termCount (cs : List Constraint) : Nat := (cs.map (·.expr.size)).sum

theorem termCount_append (cs ds : List Constraint) :
    termCount (cs ++ ds) = termCount cs + termCount ds := by
  rw [termCount, List.map_append, List.sum_append]
  rfl

/-! ## The form -/

/-- The compressed form of some constraints. -/
structure Compressed (cs : List Constraint) (begins : List Nat) (terms : List (Nat × Double)) :
    Prop where
  length : begins.length = cs.length
  /-- Each row starts where the terms of the rows before it end. -/
  start {k : Nat} (hk : k < cs.length) : begins[k]? = some (termCount (cs.take k))
  first : begins.head? = some 0
  sorted : begins.Pairwise (· ≤ ·)
  bounded : ∀ start ∈ begins, start ≤ terms.length
  size : terms.length = termCount cs

theorem size_of_termRow {c : Constraint} {r : TermRow} (h : m.termRow c = .ok r) :
    c.expr.size = r.terms.length := (mapM_eq_ok_iff.1 (termRow_eq_ok h).1).length_eq

/-- What is encoded is in compressed form. -/
theorem compressed_of_encodeRows (hcs : cs ≠ []) (h : m.encodeRows cs = .ok (begins, terms)) :
    Compressed cs begins terms := by
  obtain ⟨rs, hrs, rfl, rfl⟩ := encodeRowsFrom_eq_ok h
  have hsizes {ds : List Constraint} {qs : List TermRow}
      (hqs : List.Forall₂ (fun c r => m.termRow c = .ok r) ds qs) :
      termCount ds = (qs.map (·.terms.length)).sum :=
    congrArg List.sum (map_eq_map hqs fun _ _ hr => size_of_termRow hr)
  refine ⟨?_, fun {k} hk => ?_, ?_, TermRow.startsFrom_sorted 0 rs, fun start hstart => ?_, ?_⟩
  · rw [TermRow.length_startsFrom, hrs.length_eq]
  · rw [TermRow.getElem?_startsFrom 0 rs (hrs.length_eq ▸ hk), Nat.zero_add,
      hsizes (List.forall₂_take k hrs)]
  · cases hrs with
    | nil => exact absurd rfl hcs
    | cons => rfl
  · have hbounds := TermRow.startsFrom_bounds 0 rs hstart
    omega
  · rw [TermRow.length_allTerms, hsizes hrs]

/-! ## What can be encoded -/

/-- All variables of some constraints are committed, with indices that fit into 32 bits. -/
def Settled (m : Model) (cs : List Constraint) : Prop :=
  ∀ c ∈ cs, ∀ v ∈ c.expr.vars, ∃ i < power 2 31, m.varIndex? v = some i

instance (m : Model) (cs : List Constraint) : Decidable (m.Settled cs) :=
  decidable_of_iff
    (∀ c ∈ cs, ∀ v ∈ c.expr.vars, (m.varIndex? v).any (decide <| · < power 2 31) = true) <| by
    simp only [Settled, Option.any_eq_true, decide_eq_true_eq, and_comm]

theorem Settled.covers (h : m.Settled cs) {c : Constraint} (hc : c ∈ cs) : m.Covers c.expr := by
  intro v hv
  obtain ⟨i, -, hi⟩ := h c hc v hv
  exact ⟨i, hi⟩

theorem Settled.fits (h : m.Settled cs) {c : Constraint} (hc : c ∈ cs) :
    ¬∃ v ∈ c.expr.vars, m.IndexOverflows v := by
  rintro ⟨v, hv, j, hj, hlarge⟩
  obtain ⟨i, hsmall, hi⟩ := h c hc v hv
  cases hi.symm.trans hj
  exact absurd hsmall (Nat.not_lt_of_le hlarge)

/-- Such constraints can be encoded exactly if the last one starts at a position of 32 bits. -/
theorem Settled.passes_iff (h : m.Settled cs) (hcs : cs ≠ []) :
    Passes m.Overflows cs ↔ termCount cs.dropLast < power 2 31 := by
  constructor
  · intro hpasses
    have hlast := hpasses cs.dropLast (cs.getLast hcs) [] (List.dropLast_append_getLast hcs).symm
    exact Nat.lt_of_not_le fun hlarge => hlast (.inl hlarge)
  · intro hsmall before c after hsplit hoverflows
    have hc : c ∈ cs := by
      rw [hsplit]
      exact List.mem_append_right before List.mem_cons_self
    -- the constraints before this one are among those before the last one
    have hbefore : cs.dropLast = before ++ (c :: after).dropLast := by
      rw [hsplit]
      exact List.dropLast_append_cons
    rw [hbefore, termCount_append] at hsmall
    rcases hoverflows with hlarge | hlarge
    · have hbegin : power 2 31 ≤ termCount before := hlarge
      omega
    · exact h.fits hc hlarge

theorem Settled.encodeRows_cases (h : m.Settled cs) (hcs : cs ≠ []) :
    (termCount cs.dropLast < power 2 31 ∧ ∃ rows, m.encodeRows cs = .ok rows) ∨
      (power 2 31 ≤ termCount cs.dropLast ∧ m.encodeRows cs = .error .overflow) := by
  have hbefore : Passes m.Overflows [] := passes_nil
  have hcases := encodeRowsFrom_cases hbefore fun c hc => h.covers hc
  rw [List.nil_append, h.passes_iff hcs, Nat.not_lt] at hcases
  exact hcases

/-! ## What engines make of it -/

/-- A batch of constraints is accepted by an engine, and what it stores are one by one the rows that
the engine would store for the constraints by themselves. -/
def Alike (m : Model) (cs : List Constraint) (e : Engine) (w : Surroundings) : Prop :=
  ∃ (batch : Engine.Acting Value) (rs : List Row), m.addManyConstraints cs = .ok batch ∧
    Accepted (batch.perform (e, w)) ∧ (batch.perform (e, w)).2.1.rows = e.rows ++ rs ∧
    List.Forall₂ (fun c r => ∃ single, m.addOneConstraint c = .ok single ∧
      Accepted (single.perform (e, w)) ∧ (single.perform (e, w)).2.1.rows = e.rows ++ [r]) cs rs

/-- Rows of columns that the model's engine has are rows of columns of any engine with as many. -/
theorem Stored.inRange_of_le (hstored : m.Stored) (hi : m.Indexed) {e : Engine}
    (hcolumns : m.engine.columns.length ≤ e.columns.length) {ds : List Constraint}
    {rows : List TermRow} (hrows : ds.mapM m.termRow = .ok rows) :
    TermRow.InRange e.columns.length (TermRow.allTerms rows) :=
  (hstored.inRange hi hrows).mono hcolumns

theorem Settled.alike (h : m.Settled cs) (hcs : cs ≠ [])
    (hsmall : termCount cs.dropLast < power 2 31) (hi : m.Indexed) (hstored : m.Stored) {e : Engine}
    (hmemory : e.isNative = false) (hobliging : e.Obliging)
    (hcolumns : m.engine.columns.length ≤ e.columns.length) (w : Surroundings) :
    m.Alike cs e w := by
  have hproper (operation : String) : ProperOrder w.view e operation := by
    intro order horder
    rw [hobliging operation] at horder
    cases horder
  have hencoded : ∃ rows, m.encodeRows cs = .ok rows := by
    rcases h.encodeRows_cases hcs with ⟨-, hrows⟩ | ⟨hlarge, -⟩
    · exact hrows
    · exact absurd hsmall (Nat.not_lt_of_le hlarge)
  obtain ⟨rows, hrows⟩ := hencoded
  obtain ⟨batch, hbatch⟩ : ∃ batch, m.addManyConstraints cs = .ok batch :=
    ⟨_, by rw [addManyConstraints, hrows]; rfl⟩
  obtain ⟨rs, hrs, hends⟩ := addManyConstraints_ends hbatch hcs hmemory (hproper "add_constrs")
    fun rows hrows => hstored.inRange_of_le hi hcolumns hrows
  obtain ⟨haccepted, hstores⟩ := hends.stored_of_obliging hobliging
  refine ⟨batch, rs, hbatch, haccepted, hstores, ?_⟩
  -- each row of the batch is the row of its constraint, which is also what the single call stores
  have hall : List.Forall₂ (fun c r => c ∈ cs ∧ m.row c = .ok r) cs rs :=
    (List.forall₂_and_left cs rs).2 ⟨fun _ hc => hc, mapM_eq_ok_iff.1 hrs⟩
  refine hall.imp fun c r hcr => ?_
  obtain ⟨hc, hr⟩ := hcr
  have hsingle : ∃ single, m.addOneConstraint c = .ok single := by
    rcases encodeTerms_cases (h.covers hc) with ⟨-, ts, hts, -⟩ | ⟨hlarge, -⟩
    · exact ⟨_, by rw [addOneConstraint, hts]; rfl⟩
    · exact absurd hlarge (h.fits hc)
  obtain ⟨single, hsingle⟩ := hsingle
  have hrange (q : TermRow) (hq : m.termRow c = .ok q) :
      TermRow.InRange e.columns.length q.terms := by
    have hone := hstored.inRange_of_le hi hcolumns (mapM_eq_ok_iff.2 (.cons hq .nil))
    rwa [TermRow.allTerms, List.flatMap_singleton] at hone
  obtain ⟨r', hr', hends'⟩ := addOneConstraint_ends hsingle hmemory (hproper "add_constr") hrange
  cases hr.symm.trans hr'
  obtain ⟨haccepted', hstores'⟩ := hends'.stored_of_obliging hobliging
  exact ⟨single, hsingle, haccepted', hstores'⟩

namespace History

/-- In every state that a history of a new model leads to, constraints whose variables are all
committed are encoded without loss, as long as the last row starts at a position of 32 bits, and
cannot be encoded otherwise. The engine may be the model's own one, or any other one in memory with
enough columns. -/
theorem run_encodes {env : Environment} {settings : SettingsStore} {place : Nat} {name : Value}
    {w w' : Surroundings} {m : Model}
    (h : (env.newModel settings place name).perform w = (.ok m, w')) (moves : List Move)
    {cs : List Constraint} (hcs : cs ≠ []) :
    let s := run { model := m, surroundings := w' } moves
    s.model.Settled cs →
      (power 2 31 ≤ termCount cs.dropLast → s.model.encodeRows cs = .error .overflow) ∧
      (termCount cs.dropLast < power 2 31 →
        (∃ begins terms, s.model.encodeRows cs = .ok (begins, terms) ∧
          Compressed cs begins terms) ∧
        ∀ (e : Engine) (v : Surroundings), e.isNative = false → e.Obliging →
          s.model.engine.columns.length ≤ e.columns.length → s.model.Alike cs e v) := by
  intro s hsettled
  have hs := storedInOrder_run h moves
  constructor
  · intro hlarge
    rcases hsettled.encodeRows_cases hcs with ⟨hsmall, -⟩ | ⟨-, herror⟩
    · exact absurd hsmall (Nat.not_lt_of_le hlarge)
    · exact herror
  · intro hsmall
    refine ⟨?_, fun e v hmemory hobliging hcolumns =>
      hsettled.alike hcs hsmall hs.inOrder.indexed hs.stored hmemory hobliging hcolumns v⟩
    rcases hsettled.encodeRows_cases hcs with ⟨-, ⟨begins, terms⟩, hrows⟩ | ⟨hlarge, -⟩
    · exact ⟨begins, terms, hrows, compressed_of_encodeRows hcs hrows⟩
    · exact absurd hsmall (Nat.not_lt_of_le hlarge)

/-- Three constraints, of which only the second one has terms: one for each of some variables. -/
def sparse (vs : List Var) : List Constraint :=
  [LinearExpr.empty, .sum (vs.map .ofVar), .empty].map fun expr =>
    { id := 0, expr, sense := .atMost, bound := Double.one, name := none }

theorem sparse_ne_nil (vs : List Var) : sparse vs ≠ [] := List.cons_ne_nil _ _

/-- A row without terms starts where the next one does, or where the terms end. -/
theorem run_encodes_sparse : ∃ m w, Environment.firstModelOn "zero" = (.ok m, w) ∧
    let s := run { model := m, surroundings := w } [.operate 0 (.newVar 0 {}), .operate 0 .update]
    (∃ begins terms, s.model.encodeRows (sparse s.vars) = .ok (begins, terms) ∧ begins = [0, 0, 1] ∧
      Compressed (sparse s.vars) begins terms) ∧
    s.model.Alike (sparse s.vars) s.model.engine s.surroundings := by
  obtain ⟨m, w, h, hp⟩ := Environment.exists_of_made (r := Environment.firstModelOn "zero")
    (p := fun m w =>
      let s := run { model := m, surroundings := w } [.operate 0 (.newVar 0 {}), .operate 0 .update]
      decide (s.model.Settled (sparse s.vars)) &&
        decide (termCount (sparse s.vars).dropLast < power 2 31) &&
        (s.model.engine.backend matches .nearestToZero) &&
        match s.model.encodeRows (sparse s.vars) with
        | .ok (begins, _) => decide (begins = [0, 0, 1])
        | .error _ => false) (by decide +kernel)
  simp only [Bool.and_eq_true, decide_eq_true_eq] at hp
  obtain ⟨⟨⟨hsettled, hsmall⟩, hbackend⟩, hbegins⟩ := hp
  have hengine : (run { model := m, surroundings := w }
      [.operate 0 (.newVar 0 {}), .operate 0 .update]).model.engine.backend = .nearestToZero := by
    split at hbackend
    · rename_i hbackend'
      exact hbackend'
    · cases hbackend
  obtain ⟨⟨begins, terms, hrows, hcompressed⟩, halike⟩ :=
    (run_encodes h [.operate 0 (.newVar 0 {}), .operate 0 .update] (sparse_ne_nil _) hsettled).2 hsmall
  rw [hrows] at hbegins
  refine ⟨m, w, h, ⟨begins, terms, hrows, of_decide_eq_true hbegins, hcompressed⟩, ?_⟩
  refine halike _ _ ?_ (fun operation => ?_) (Nat.le_refl _)
  · rw [Engine.isNative, hengine]
  · rw [Engine.injected?, hengine]

end History

end Model

end Milp

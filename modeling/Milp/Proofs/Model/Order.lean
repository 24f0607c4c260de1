import Milp.Proofs.Model.Check
import Milp.Proofs.Model.Creation
set_option autoImplicit false

/-! # The order of entities

Whatever happens to a model, its committed entities followed by its queued ones are the entities that
it has admitted, in the order in which it has. The tables of indices and names belong to the committed
entities, which are distinct (`Indexed`), and these only ever grow at the end. Committing keeps this up
because a queue is checked for duplicates first and emptied last. -/

namespace Milp.Model

/-! ## Committing -/

/-- Distinct elements followed by distinct new ones. -/
theorem nodup_append_of_new {xs ys : List Nat} (hxs : xs.Nodup) (hys : ys.Nodup)
    (hnew : ∀ y ∈ ys, y ∉ xs) : (xs ++ ys).Nodup :=
  List.nodup_append.2 ⟨hxs, hys, fun _ hx y hy he => hnew y hy (he ▸ hx)⟩

/-- What is new to a list is still new when something else has been added at its end. -/
theorem new_of_nodup_cons {α : Type} {id : α → Nat} {xs rest : List α} {x : α}
    (hnodup : ((x :: rest).map id).Nodup) (hnew : ∀ y ∈ x :: rest, id y ∉ xs.map id) :
    ∀ y ∈ rest, id y ∉ (xs ++ [x]).map id := by
  intro y hy
  rw [List.map_append, List.mem_append, not_or]
  refine ⟨hnew y (List.mem_cons_of_mem _ hy), ?_⟩
  rw [List.map_singleton, List.mem_singleton]
  rw [List.map_cons, List.nodup_cons] at hnodup
  exact fun he => hnodup.1 (List.mem_map.2 ⟨y, hy, he⟩)

theorem commitVarsFrom_eq {m : Model} {vs : List Var}
    (hindices : m.varIndices = .positions (m.vars.map Var.id))
    (hnames : m.varsByName = .firstOf m.vars) (hnodup : (vs.map Var.id).Nodup)
    (hnew : ∀ v ∈ vs, v.id ∉ m.vars.map Var.id) :
    m.commitVarsFrom m.vars.length vs = { m with
      vars := m.vars ++ vs
      varIndices := .positions ((m.vars ++ vs).map Var.id)
      varsByName := .firstOf (m.vars ++ vs) } := by
  -- the tables are known of each model on the way, so it is generalized
  induction vs generalizing m with
  | nil => simp only [commitVarsFrom, List.append_nil, ← hindices, ← hnames]
  | cons v rest ih =>
    have hv := Table.set_positions (hnew v List.mem_cons_self)
    rw [List.length_map, ← hindices] at hv
    have hm : m.commitVar m.vars.length v = { m with
        vars := m.vars ++ [v]
        varIndices := .positions ((m.vars ++ [v]).map Var.id)
        varsByName := .firstOf (m.vars ++ [v]) } := by
      rw [commitVar, hv, List.map_append, Table.firstOf_append, ← hnames]
      rfl
    have hrest := ih (m := m.commitVar m.vars.length v) (by rw [hm]) (by rw [hm])
      (List.nodup_cons.1 hnodup).2 (by rw [hm]; exact new_of_nodup_cons hnodup hnew)
    have hlength : (m.commitVar m.vars.length v).vars.length = m.vars.length + 1 := by
      rw [hm, List.length_append, List.length_singleton]
    rw [hlength] at hrest
    rw [commitVarsFrom, hrest, hm, List.append_assoc]
    rfl

theorem commitConstraintsFrom_eq {m : Model} {cs : List Constraint}
    (hindices : m.constraintIndices = .positions (m.constraints.map Constraint.id))
    (hnodup : (cs.map Constraint.id).Nodup)
    (hnew : ∀ c ∈ cs, c.id ∉ m.constraints.map Constraint.id) :
    m.commitConstraintsFrom m.constraints.length cs = { m with
      constraints := m.constraints ++ cs
      constraintIndices := .positions ((m.constraints ++ cs).map Constraint.id) } := by
  induction cs generalizing m with
  | nil => simp only [commitConstraintsFrom, List.append_nil, ← hindices]
  | cons c rest ih =>
    have hc := Table.set_positions (hnew c List.mem_cons_self)
    rw [List.length_map, ← hindices] at hc
    have hm : m.commitConstraint m.constraints.length c = { m with
        constraints := m.constraints ++ [c]
        constraintIndices := .positions ((m.constraints ++ [c]).map Constraint.id) } := by
      rw [commitConstraint, hc, List.map_append]
      rfl
    have hrest := ih (m := m.commitConstraint m.constraints.length c) (by rw [hm])
      (List.nodup_cons.1 hnodup).2 (by rw [hm]; exact new_of_nodup_cons hnodup hnew)
    have hlength : (m.commitConstraint m.constraints.length c).constraints.length =
        m.constraints.length + 1 := by
      rw [hm, List.length_append, List.length_singleton]
    rw [hlength] at hrest
    rw [commitConstraintsFrom, hrest, hm, List.append_assoc]
    rfl

namespace Indexed

variable {m : Model}

theorem newVars (h : m.Indexed) (hm : m.checkVars = .ok ()) :
    (m.pendingVars.map Var.id).Nodup ∧ ∀ v ∈ m.pendingVars, v.id ∉ m.vars.map Var.id :=
  nodup_of_passes (h.passes_of_checkVars hm)

theorem newConstraints (h : m.Indexed) (hm : m.checkConstraints = .ok ()) :
    (m.pendingConstraints.map Constraint.id).Nodup ∧
      ∀ c ∈ m.pendingConstraints, c.id ∉ m.constraints.map Constraint.id :=
  nodup_of_passes ((h.passes_of_checkConstraints hm).mono fun _ _ => .inl)

/-- Committing the queued variables moves them to the end of the committed ones. -/
theorem commitVars_eq (h : m.Indexed) (hm : m.checkVars = .ok ()) :
    m.commitVars = { m with
      vars := m.vars ++ m.pendingVars
      varIndices := .positions ((m.vars ++ m.pendingVars).map Var.id)
      varsByName := .firstOf (m.vars ++ m.pendingVars)
      varCount := (m.vars ++ m.pendingVars).length
      pendingVars := [] } := by
  obtain ⟨hnodup, hnew⟩ := h.newVars hm
  rw [commitVars, h.varCount, commitVarsFrom_eq h.varIndices h.varsByName hnodup hnew,
    List.length_append]

theorem commitConstraints_eq (h : m.Indexed) (hm : m.checkConstraints = .ok ()) :
    m.commitConstraints = { m with
      constraints := m.constraints ++ m.pendingConstraints
      constraintIndices :=
        .positions ((m.constraints ++ m.pendingConstraints).map Constraint.id)
      pendingConstraints := [] } := by
  obtain ⟨hnodup, hnew⟩ := h.newConstraints hm
  rw [commitConstraints, commitConstraintsFrom_eq h.constraintIndices hnodup hnew]

theorem commitVars (h : m.Indexed) (hm : m.checkVars = .ok ()) : m.commitVars.Indexed := by
  obtain ⟨hnodup, hnew⟩ := h.newVars hm
  rw [h.commitVars_eq hm]
  refine ⟨?_, h.distinctConstraints, rfl, rfl, h.constraintIndices, rfl⟩
  rw [List.map_append]
  refine nodup_append_of_new h.distinctVars hnodup fun i hi => ?_
  obtain ⟨v, hv, rfl⟩ := List.mem_map.1 hi
  exact hnew v hv

theorem commitConstraints (h : m.Indexed) (hm : m.checkConstraints = .ok ()) :
    m.commitConstraints.Indexed := by
  obtain ⟨hnodup, hnew⟩ := h.newConstraints hm
  rw [h.commitConstraints_eq hm]
  refine ⟨h.distinctVars, ?_, h.varCount, h.varIndices, rfl, h.varsByName⟩
  rw [List.map_append]
  refine nodup_append_of_new h.distinctConstraints hnodup fun i hi => ?_
  obtain ⟨c, hc, rfl⟩ := List.mem_map.1 hi
  exact hnew c hc

end Indexed

/-! ## Indices -/

/-- What stands at a place still stands there when something is added at the end. -/
theorem getElem?_of_prefix {α : Type} {xs ys : List α} (h : xs <+: ys) {i : Nat} {x : α}
    (hx : xs[i]? = some x) : ys[i]? = some x := by
  obtain ⟨zs, rfl⟩ := h
  obtain ⟨hi, -⟩ := List.getElem?_eq_some_iff.1 hx
  rw [List.getElem?_append_left hi, hx]

theorem Indexed.varIndex_iff {m : Model} (h : m.Indexed) (v : Var) (i : Nat) :
    m.varIndex? v = some i ↔ ∃ u, m.vars[i]? = some u ∧ u.id = v.id := by
  rw [varIndex?, h.varIndices, Table.get?_positions h.distinctVars, List.getElem?_map,
    Option.map_eq_some_iff]

theorem Indexed.constraintIndex_iff {m : Model} (h : m.Indexed) (c : Constraint) (i : Nat) :
    m.constraintIndex? c = some i ↔ ∃ d, m.constraints[i]? = some d ∧ d.id = c.id := by
  rw [constraintIndex?, h.constraintIndices, Table.get?_positions h.distinctConstraints,
    List.getElem?_map, Option.map_eq_some_iff]

/-- An index stays what it is while entities are only added at the end, and nothing else gets it. -/
theorem Indexed.varIndex_of_prefix {m n : Model} (hm : m.Indexed) (hn : n.Indexed)
    (h : m.vars <+: n.vars) {v : Var} {i : Nat} (hv : m.varIndex? v = some i) :
    n.varIndex? v = some i ∧ ∀ u, n.varIndex? u = some i → u.id = v.id := by
  obtain ⟨u, hu, hid⟩ := (hm.varIndex_iff v i).1 hv
  have hu' := getElem?_of_prefix h hu
  refine ⟨(hn.varIndex_iff v i).2 ⟨u, hu', hid⟩, fun x hx => ?_⟩
  obtain ⟨y, hy, hyid⟩ := (hn.varIndex_iff x i).1 hx
  cases hu'.symm.trans hy
  exact hyid.symm.trans hid

theorem Indexed.constraintIndex_of_prefix {m n : Model} (hm : m.Indexed) (hn : n.Indexed)
    (h : m.constraints <+: n.constraints) {c : Constraint} {i : Nat}
    (hc : m.constraintIndex? c = some i) :
    n.constraintIndex? c = some i ∧ ∀ d, n.constraintIndex? d = some i → d.id = c.id := by
  obtain ⟨d, hd, hid⟩ := (hm.constraintIndex_iff c i).1 hc
  have hd' := getElem?_of_prefix h hd
  refine ⟨(hn.constraintIndex_iff c i).2 ⟨d, hd', hid⟩, fun x hx => ?_⟩
  obtain ⟨y, hy, hyid⟩ := (hn.constraintIndex_iff x i).1 hx
  cases hd'.symm.trans hy
  exact hyid.symm.trans hid

/-! ## Changes -/

variable {Elsewhere : Surroundings → Surroundings → Prop}

/-- Only what stands besides the entities of a model and their tables has changed. -/
def SameEntities (m n : Model) : Prop :=
  n = { m with handler := n.handler, engine := n.engine, ended := n.ended }

/-- The engine has no say in whether a queue can be committed. -/
theorem checkConstraints_engine (m : Model) (e : Engine) :
    { m with engine := e }.checkConstraints = m.checkConstraints := by
  suffices h : ∀ seen cs, { m with engine := e }.checkConstraintsFrom seen cs =
      m.checkConstraintsFrom seen cs from h [] m.pendingConstraints
  intro seen cs
  induction cs generalizing seen with
  | nil => rfl
  | cons c rest ih =>
    rw [checkConstraintsFrom, checkConstraintsFrom, ih]
    rfl

/-- Entities change when a whole queue is committed, and not otherwise. -/
theorem Change.entities {s t : Model × Surroundings} (hc : Change Elsewhere s t) :
    SameEntities s.1 t.1 ∨
      (∃ e, { s.1 with engine := e }.checkVars = .ok () ∧
        t.1 = { s.1 with engine := e }.commitVars) ∨
      (∃ e, { s.1 with engine := e }.checkConstraints = .ok () ∧
        t.1 = { s.1 with engine := e }.commitConstraints) := by
  -- a queue is checked before the call and committed with the engine that the call has left
  cases hc with
  | @commitVars m w x hm _ _ =>
    exact Or.inr (Or.inl ⟨(afterCall m w x).1.engine, hm, rfl⟩)
  | @commitConstraints m w x hm _ _ =>
    exact Or.inr (Or.inr ⟨(afterCall m w x).1.engine, (checkConstraints_engine _ _).trans hm, rfl⟩)
  | aside _ => exact Or.inl rfl
  | message _ _ _ _ => exact Or.inl rfl
  | ending _ _ => exact Or.inl rfl
  | direction _ _ _ => exact Or.inl rfl
  | refuseVars _ _ => exact Or.inl rfl
  | refuseConstraints _ _ => exact Or.inl rfl
  | elsewhere _ _ => exact Or.inl rfl

namespace Indexed

variable {m n : Model}

theorem of_same (h : m.Indexed) (hn : SameEntities m n) : n.Indexed := by
  rw [hn]
  exact ⟨h.distinctVars, h.distinctConstraints, h.varCount, h.varIndices, h.constraintIndices,
    h.varsByName⟩

theorem of_engine (h : m.Indexed) (e : Engine) : { m with engine := e }.Indexed := h.of_same rfl

theorem queueVar (h : m.Indexed) (v : Var) : (m.queueVar v).Indexed :=
  ⟨h.distinctVars, h.distinctConstraints, h.varCount, h.varIndices, h.constraintIndices,
    h.varsByName⟩

theorem queueConstraint (h : m.Indexed) (c : Constraint) : (m.queueConstraint c).Indexed :=
  ⟨h.distinctVars, h.distinctConstraints, h.varCount, h.varIndices, h.constraintIndices,
    h.varsByName⟩

end Indexed

namespace Change

variable {s t : Model × Surroundings}

theorem indexed (hc : Change Elsewhere s t) (h : s.1.Indexed) : t.1.Indexed := by
  rcases hc.entities with ht | ⟨e, hm, ht⟩ | ⟨e, hm, ht⟩
  · exact h.of_same ht
  · rw [ht]
    exact (h.of_engine e).commitVars hm
  · rw [ht]
    exact (h.of_engine e).commitConstraints hm

/-- No variable is lost, and none changes its place. -/
theorem vars (hc : Change Elsewhere s t) (h : s.1.Indexed) :
    t.1.vars ++ t.1.pendingVars = s.1.vars ++ s.1.pendingVars ∧ s.1.vars <+: t.1.vars := by
  rcases hc.entities with ht | ⟨e, hm, ht⟩ | ⟨e, hm, ht⟩
  · rw [ht]
    exact ⟨rfl, List.prefix_rfl⟩
  · rw [ht, (h.of_engine e).commitVars_eq hm]
    exact ⟨List.append_nil _, List.prefix_append _ _⟩
  · rw [ht, (h.of_engine e).commitConstraints_eq hm]
    exact ⟨rfl, List.prefix_rfl⟩

/-- No constraint is lost, and none changes its place. -/
theorem constraints (hc : Change Elsewhere s t) (h : s.1.Indexed) :
    t.1.constraints ++ t.1.pendingConstraints = s.1.constraints ++ s.1.pendingConstraints ∧
      s.1.constraints <+: t.1.constraints := by
  rcases hc.entities with ht | ⟨e, hm, ht⟩ | ⟨e, hm, ht⟩
  · rw [ht]
    exact ⟨rfl, List.prefix_rfl⟩
  · rw [ht, (h.of_engine e).commitVars_eq hm]
    exact ⟨rfl, List.prefix_rfl⟩
  · rw [ht, (h.of_engine e).commitConstraints_eq hm]
    exact ⟨List.append_nil _, List.prefix_append _ _⟩

end Change

/-! ## Histories -/

namespace History

/-- The entities of a model are those that it has admitted, in that order. -/
structure InOrder (h : History) : Prop where
  indexed : h.model.Indexed
  vars : h.model.vars ++ h.model.pendingVars = h.vars
  constraints : h.model.constraints ++ h.model.pendingConstraints = h.constraints

theorem inOrder_blank {b : History} {w : Surroundings} (hb : b.Blank w) : b.InOrder := by
  cases hb with
  | of name environment handler hs =>
    exact ⟨⟨List.nodup_nil, List.nodup_nil, rfl, rfl, rfl, rfl⟩, rfl, rfl⟩

theorem inOrder_step {h k : History} (hstep : Step Elsewhere h k) (hh : h.InOrder) :
    k.InOrder := by
  cases hstep with
  | change hc =>
    exact ⟨hc.indexed hh.indexed, (hc.vars hh.indexed).1.trans hh.vars,
      (hc.constraints hh.indexed).1.trans hh.constraints⟩
  | solve _ => exact ⟨hh.indexed.of_engine _, hh.vars, hh.constraints⟩
  | queueVar v =>
    refine ⟨hh.indexed.queueVar v, ?_, hh.constraints⟩
    show h.model.vars ++ (h.model.pendingVars ++ [v]) = h.vars ++ [v]
    rw [← List.append_assoc, hh.vars]
  | queueConstraint c =>
    refine ⟨hh.indexed.queueConstraint c, hh.vars, ?_⟩
    show h.model.constraints ++ (h.model.pendingConstraints ++ [c]) = h.constraints ++ [c]
    rw [← List.append_assoc, hh.constraints]

/-- Committed entities only ever grow at the end. -/
structure GrowsTo (h k : History) : Prop where
  inOrder : k.InOrder
  vars : h.model.vars <+: k.model.vars
  constraints : h.model.constraints <+: k.model.constraints

theorem growsTo_step {h k l : History} (hstep : Step Elsewhere k l) (hk : h.GrowsTo k) :
    h.GrowsTo l := by
  have hl := inOrder_step hstep hk.inOrder
  cases hstep with
  | change hc =>
    have hindexed := hk.inOrder.indexed
    exact ⟨hl, hk.vars.trans (hc.vars hindexed).2, hk.constraints.trans (hc.constraints hindexed).2⟩
  | solve _ => exact ⟨hl, hk.vars, hk.constraints⟩
  | queueVar v => exact ⟨hl, hk.vars, hk.constraints⟩
  | queueConstraint c => exact ⟨hl, hk.vars, hk.constraints⟩

theorem growsTo_run {h : History} (hh : h.InOrder) (moves : List Move) : h.GrowsTo (h.run moves) := by
  have hsteps : Steps (fun _ _ => True) h (h.run moves) :=
    steps_run h fun move _ => move.spares_any
  exact hsteps.maintains growsTo_step ⟨hh, List.prefix_rfl, List.prefix_rfl⟩

end History

/-! ## What callers see -/

/-- What is told about the index of an entity, whose identity is looked for among some. -/
structure TellsIndex (ids : List Nat) (id : Nat) (answer : Except Fault Value) : Prop where
  index_iff : ∀ i : Nat, answer = .ok (.int i) ↔ ids[i]? = some id
  nothing_iff : answer = .ok .nothing ↔ id ∉ ids

theorem tellsIndex_positions {ids : List Nat} (h : ids.Nodup) (id : Nat) :
    TellsIndex ids id (.ok (Query.ofIndex ((Table.positions ids).get? id))) where
  index_iff i := by
    rw [← Table.get?_positions h]
    cases (Table.positions ids).get? id <;> simp [Query.ofIndex, Query.ofCount, Int.ofNat_inj]
  nothing_iff := by
    rw [← Table.get?_positions_eq_none]
    cases (Table.positions ids).get? id <;> simp [Query.ofIndex, Query.ofCount]

/-- The entities of a model and what it answers about them, for the entities that it has admitted.
Two entities are the same when they have the same identity. -/
structure Orderly (m : Model) (vars : List Var) (constraints : List Constraint) : Prop where
  /-- Committed variables come first, and queued ones wait behind them. -/
  vars_eq : m.vars ++ m.pendingVars = vars
  constraints_eq : m.constraints ++ m.pendingConstraints = constraints
  vars_distinct : (m.vars.map Var.id).Nodup
  constraints_distinct : (m.constraints.map Constraint.id).Nodup
  varCount_eq : m.varCount = m.vars.length
  varIndex_iff : ∀ v i, m.varIndex? v = some i ↔ ∃ u, m.vars[i]? = some u ∧ u.id = v.id
  constraintIndex_iff : ∀ c i,
    m.constraintIndex? c = some i ↔ ∃ d, m.constraints[i]? = some d ∧ d.id = c.id
  /-- The variable of lowest index is found, if one has the name at all. -/
  varByName_eq : ∀ name, m.varByName? name = m.vars.find? (·.name = some name)
  varIndex_answer : ∀ place v,
    TellsIndex (m.vars.map Var.id) v.id ((Query.varIndex (.var v)).answer place m)
  constraintIndex_answer : ∀ place c,
    TellsIndex (m.constraints.map Constraint.id) c.id
      ((Query.constraintIndex (.constraint c)).answer place m)
  varByName_answer : ∀ place name, (Query.varByName (.text name)).answer place m =
    .ok ((m.vars.find? (·.name = some name)).elim .nothing .var)

theorem History.InOrder.orderly {h : History} (hh : h.InOrder) :
    h.model.Orderly h.vars h.constraints where
  vars_eq := hh.vars
  constraints_eq := hh.constraints
  vars_distinct := hh.indexed.distinctVars
  constraints_distinct := hh.indexed.distinctConstraints
  varCount_eq := hh.indexed.varCount
  varIndex_iff := hh.indexed.varIndex_iff
  constraintIndex_iff := hh.indexed.constraintIndex_iff
  varByName_eq name := by rw [varByName?, hh.indexed.varsByName, Table.get?_firstOf]
  varIndex_answer place v := by
    have hanswer : (Query.varIndex (.var v)).answer place h.model =
        .ok (Query.ofIndex (h.model.varIndices.get? v.id)) := rfl
    rw [hanswer, hh.indexed.varIndices]
    exact tellsIndex_positions hh.indexed.distinctVars _
  constraintIndex_answer place c := by
    have hanswer : (Query.constraintIndex (.constraint c)).answer place h.model =
        .ok (Query.ofIndex (h.model.constraintIndices.get? c.id)) := rfl
    rw [hanswer, hh.indexed.constraintIndices]
    exact tellsIndex_positions hh.indexed.distinctConstraints _
  varByName_answer place name := by
    have hanswer : (Query.varByName (.text name)).answer place h.model =
        .ok (((h.model.varsByName.get? name).map Value.var).getD .nothing) := rfl
    rw [hanswer, hh.indexed.varsByName, Table.get?_firstOf]
    cases h.model.vars.find? (·.name = some name) <;> rfl

namespace History

/-- A history that begins with a new model. -/
theorem inOrder_run {env : Environment} {settings : SettingsStore} {place : Nat} {name : Value}
    {w w' : Surroundings} {m : Model}
    (h : (env.newModel settings place name).perform w = (.ok m, w')) (moves : List Move) :
    (run { model := m, surroundings := w' } moves).InOrder := by
  obtain ⟨b, hb, hsteps⟩ := Environment.newModel_steps h fun move _ => move.spares_any
  exact hsteps.maintains inOrder_step (inOrder_blank hb)

/-- In every state that a history of a new model leads to, the committed entities followed by the
queued ones are those that were admitted, and all look-ups agree with that. Whatever happens later,
the committed entities stay where they are, and no other entity ever gets an index of theirs. -/
theorem run_orderly {env : Environment} {settings : SettingsStore} {place : Nat} {name : Value}
    {w w' : Surroundings} {m : Model}
    (h : (env.newModel settings place name).perform w = (.ok m, w')) (moves later : List Move) :
    let s := run { model := m, surroundings := w' } moves
    let t := s.run later
    s.model.Orderly s.vars s.constraints ∧
      s.model.vars <+: t.model.vars ∧ s.model.constraints <+: t.model.constraints ∧
      (∀ v i, s.model.varIndex? v = some i →
        t.model.varIndex? v = some i ∧ ∀ u, t.model.varIndex? u = some i → u.id = v.id) ∧
      ∀ c i, s.model.constraintIndex? c = some i →
        t.model.constraintIndex? c = some i ∧
          ∀ d, t.model.constraintIndex? d = some i → d.id = c.id := by
  intro s t
  have hs : s.InOrder := inOrder_run h moves
  have hgrows : s.GrowsTo t := growsTo_run hs later
  have ht := hgrows.inOrder.indexed
  exact ⟨hs.orderly, hgrows.vars, hgrows.constraints,
    fun _ _ hv => hs.indexed.varIndex_of_prefix ht hgrows.vars hv,
    fun _ _ hc => hs.indexed.constraintIndex_of_prefix ht hgrows.constraints hc⟩

/-- An integer variable. -/
def twoToFive : Var :=
  { id := 0, domain := .default .integer, lower := .int 2, upper := .int 5, objective := 3,
    name := some "twoToFive" }

/-- A continuous variable. -/
def belowZero : Var :=
  { id := 1, domain := .default .continuous, lower := .float (-4), upper := .float (-1),
    objective := -2, name := some "belowZero" }

/-- A constraint on both of them. -/
def atMostNine : Constraint :=
  { id := 0, expr := .ofTerms [(twoToFive, 2), (belowZero, 1)], sense := .atMost, bound := 9,
    name := some "atMostNine" }

/-- A second variable and a constraint are queued, and an update fails that was to commit them. -/
def failedUpdate : List Move :=
  [.operate 0 (.addVar (.var twoToFive)), .operate 0 .update, .operate 0 (.addVar (.var belowZero)),
    .operate 0 (.addConstraint (.constraint atMostNine)),
    .failOn { operation := .text "add_var", code := .int 7, times := .int 1 }, .operate 0 .update]

/-- The update is made again, and an unnamed variable is committed after it. -/
def secondUpdate : List Move := [.operate 0 .update, .operate 0 (.newVar 2 {}), .operate 0 .update]

/-- What was queued when an update failed is committed by the next one, behind what was there, and
stays where it is when an unnamed variable is added. -/
theorem run_orderly_failing : ∃ m w, Environment.firstModelOn "fail" = (.ok m, w) ∧
    let s := run { model := m, surroundings := w } failedUpdate
    let t := s.run secondUpdate
    (s.model.pendingVars = [belowZero] ∧ s.vars = [twoToFive, belowZero]) ∧
      s.model.Orderly s.vars s.constraints ∧ t.model.vars.map Var.id = [0, 1, 2] ∧
      t.model.constraints.map Constraint.id = [0] ∧ t.model.varIndex? twoToFive = some 0 := by
  obtain ⟨m, w, h, hp⟩ := Environment.exists_of_made (r := Environment.firstModelOn "fail")
    (p := fun m w =>
      let s := run { model := m, surroundings := w } failedUpdate
      let t := s.run secondUpdate
      s.model.pendingVars = [belowZero] ∧ s.vars = [twoToFive, belowZero] ∧
        t.model.vars.map Var.id = [0, 1, 2] ∧ t.model.constraints.map Constraint.id = [0] ∧
        s.model.vars = [twoToFive])
    (by decide +kernel)
  obtain ⟨hpending, hadmitted, hvars, hconstraints, hcommitted⟩ := of_decide_eq_true hp
  obtain ⟨horderly, -, -, hindex, -⟩ := run_orderly h failedUpdate secondUpdate
  have htwo := (horderly.varIndex_iff twoToFive 0).2
    ⟨twoToFive, by rw [hcommitted, List.getElem?_cons_zero], rfl⟩
  exact ⟨m, w, h, ⟨hpending, hadmitted⟩, horderly, hvars, hconstraints, (hindex _ _ htwo).1⟩

end History

end Milp.Model

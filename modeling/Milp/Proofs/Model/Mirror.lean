import Milp.Proofs.Model.Order
import Milp.Proofs.Native.Addition
set_option autoImplicit false

/-! # Engines mirror the native solver

What an engine stores and what its instance of the native solver has been told are the same model at
any time (`NativeModel.Mirrors`), however many calls have failed on the way. The invariant is kept by
every change of a model; it holds as long as no deletion has failed, with which failed additions are
taken back. -/

namespace Milp

open Milp.Action Engine

/-! ## The mirror -/

/-- What the native solver has for a column: the same numbers, except that the bounds of a binary
column are cut. It is integer unless it is continuous, and has a name if the column has one. -/
structure NativeColumn.Mirrors (n : NativeColumn) (c : Column) : Prop where
  objective : n.objective = c.objective
  bounds : (n.lower, n.upper) = c.nativeBounds
  integer : n.integer = true ↔ c.kind ≠ .continuous
  name : c.name = .ofName n.name

structure NativeRow.Mirrors (n : NativeRow) (r : Row) : Prop where
  indices : r.indices = n.terms.map fun t => .int t.1
  values : r.values = n.terms.map Prod.snd
  sides : (n.lower, n.upper) = r.sense.sides r.bound
  name : r.name = .ofName n.name

/-- Columns and rows correspond one by one, and the directions are the same. -/
structure NativeModel.Mirrors (m : NativeModel) (e : Engine) : Prop where
  columns : List.Forall₂ NativeColumn.Mirrors m.columns e.columns
  rows : List.Forall₂ NativeRow.Mirrors m.rows e.rows
  direction : e.sense = .int m.direction.number

theorem NativeColumn.of_mirrors {c : Column} (h : ∃ name, c.name = .ofName name) :
    (of c).Mirrors c := by
  obtain ⟨name, hname⟩ := h
  refine ⟨rfl, rfl, decide_eq_true_iff, ?_⟩
  rw [of, hname, Value.text?_ofName]

theorem NativeRow.of_mirrors (r : TermRow) : (of r).Mirrors r.row := by
  refine ⟨?_, ?_, rfl, rfl⟩
  · rw [of, bare, List.map_map]
    rfl
  · rw [of, bare, List.map_map]
    rfl

namespace Engine

/-- The native model is what the engine stores, and its rows are about its own columns. -/
def Mirrored (e : Engine) (m : NativeModel) : Prop := m.Mirrors e ∧ m.Closed

theorem Mirrored.addColumns {e : Engine} {m : NativeModel} (h : Mirrored e m) {cs : List Column}
    (hcs : ∀ c ∈ cs, ∃ name, c.name = .ofName name) :
    Mirrored { e with columns := e.columns ++ cs } (m.addColumns (cs.map NativeColumn.of)) := by
  have hnew : List.Forall₂ NativeColumn.Mirrors (cs.map NativeColumn.of) cs := by
    rw [List.forall₂_map_left_iff, List.forall₂_same]
    exact fun c hc => NativeColumn.of_mirrors (hcs c hc)
  refine ⟨⟨List.rel_append h.1.columns hnew, h.1.rows, h.1.direction⟩, fun r hr t ht => ?_⟩
  have hlt := h.2 r hr t ht
  rw [NativeModel.addColumns, List.length_append]
  omega

theorem Mirrored.addRows {e : Engine} {m : NativeModel} (h : Mirrored e m) {rs : List TermRow}
    (hrs : TermRow.InRange e.columns.length (TermRow.allTerms rs)) :
    Mirrored { e with rows := e.rows ++ rs.map TermRow.row } (m.addRows (rs.map NativeRow.of)) := by
  have hnew : List.Forall₂ NativeRow.Mirrors (rs.map NativeRow.of) (rs.map TermRow.row) := by
    rw [List.forall₂_map_left_iff, List.forall₂_map_right_iff, List.forall₂_same]
    exact fun r _ => NativeRow.of_mirrors r
  refine ⟨⟨h.1.columns, List.rel_append h.1.rows hnew, h.1.direction⟩, fun r hr t ht => ?_⟩
  rcases List.mem_append.1 hr with hr | hr
  · exact h.2 r hr t ht
  · obtain ⟨r', hr', rfl⟩ := List.mem_map.1 hr
    obtain ⟨u, hu, rfl⟩ := List.mem_map.1 ht
    have hlt : u.1 < e.columns.length := hrs u (List.mem_flatMap.2 ⟨r', hr', hu⟩)
    rw [← h.1.columns.length_eq] at hlt
    exact Int.ofNat_lt.2 hlt

/-! ## What is followed through changes -/

/-- Relations to the native model for which only the stored model matters. -/
def Stable (R : Engine → NativeModel → Prop) : Prop :=
  ∀ {e f : Engine}, f.columns = e.columns → f.rows = e.rows → f.sense = e.sense →
    ∀ m, R e m → R f m

theorem mirrored_stable : Stable Mirrored := by
  intro e f hcolumns hrows hsense m h
  refine ⟨⟨?_, ?_, ?_⟩, h.2⟩
  · exact hcolumns ▸ h.1.columns
  · exact hrows ▸ h.1.rows
  · exact hsense ▸ h.1.direction

variable {i : Nat} {earlier : List AnsweredCall} {R S T : Engine → NativeModel → Prop}

theorem Held.of_stored {e f : Engine} {w : Surroundings} (h : Held i earlier R (e, w))
    (hR : Stable R) (hcolumns : f.columns = e.columns) (hrows : f.rows = e.rows)
    (hsense : f.sense = e.sense) (hbackend : f.backend = e.backend ∨ f.backend = .native none) :
    Held i earlier R (f, w) := by
  refine ⟨?_, h.2.mono fun m => hR hcolumns hrows hsense m⟩
  rcases hbackend with hb | hb
  · exact h.1.imp hb.trans hb.trans
  · exact .inr hb

theorem held_indifferent (hR : Stable R) : Indifferent (Held i earlier R) := by
  intro s t ha h
  cases ha with
  | calls e w cs => exact h.of_stored hR rfl rfl rfl (.inl rfl)
  | orders e w fs gs hfs =>
    rcases h.1 with hb | hb <;> cases hfs.symm.trans hb
  | forget e w => exact h.of_stored hR rfl rfl rfl (.inl rfl)
  | iis e w rows => exact h.of_stored hR rfl rfl rfl (.inl rfl)
  | parameters e w ps => exact h.of_stored hR rfl rfl rfl (.inl rfl)
  | finish e w backend hb => exact h.of_stored hR rfl rfl rfl hb
  | files e w f => exact h
  | call e w j c hj hc =>
    rcases h.1 with hb | hb
    · cases hj.symm.trans hb
      exact ⟨h.1, h.2.call_neutral hc⟩
    · cases hj.symm.trans hb
  | scratch e w s hs => exact ⟨h.1, h.2.of_sameAt (hs.sameAt h.2.exists_instance)⟩

theorem ifNative_held {x : Acting Bool} {Q : Bool → Engine × Surroundings → Prop}
    {E : Engine × Surroundings → Prop} (hx : Leads (Held i earlier R) x Q E) :
    Leads (Held i earlier R) (ifNative x) Q E := by
  rintro ⟨e, w⟩ h
  have hnative : (ifNative x).perform (e, w) = x.perform (e, w) := by
    have hifNative : (ifNative x).perform (e, w) =
        (if e.isNative then x else return true).perform (e, w) := rfl
    rw [hifNative, isNative]
    rcases h.1 with (hb | hb : e.backend = _ ∨ e.backend = _) <;> rw [hb] <;> rfl
  rw [hnative]
  exact hx _ h

/-- What follows an addition may rely on its outcome. -/
theorem ifNative_added {x : Acting Bool}
    (hx : Leads (Held i earlier T) x
      (fun added => Held i earlier fun e m => if added then S e m else T e m) (Held i earlier T))
    (hR : ∀ e m, T e m → R e m) :
    Leads (Held i earlier T) (ifNative x)
      (fun added s => if added then Held i earlier S s else Held i earlier R s)
      (Held i earlier R) := by
  refine (ifNative_held hx).mono (fun _ h => h) (fun added s hs => ?_) fun _ hs => hs.mono (hR _)
  cases added
  · exact Held.mono (Q := R) (R := T) hs (hR _)
  · exact hs

/-! ## Changing the direction -/

theorem succeeds_held {c : SolverCall} (hQ : ∀ e m, R e m → c.Fits m ∧ S e (m.apply c)) :
    Leads (Held i earlier R) (succeeds c)
      (fun b => Held i earlier fun e m => if b then S e m else R e m) (Held i earlier R) := by
  rintro ⟨e, w⟩ ⟨(hi | hnone : e.backend = _ ∨ e.backend = _), h⟩
  · exact (succeeds_leads hQ).mono (fun _ h => h) (fun _ _ h => h.held) (fun _ h => h) _ ⟨hi, h⟩
  · have hx : (succeeds c).perform (e, w) = (.error (.fault .missingMember), e, w) := by
      have hcall : (callSolver c).perform (e, w) = (.error (.fault .missingMember), e, w) := by
        rw [perform_callSolver, hnone]
      rw [succeeds, perform_bind_of_error hcall]
    rw [hx]
    exact ⟨.inr hnone, h⟩

theorem directionOf_number (d : Direction) : directionOf (.int d.number) = .ok d := by
  rw [directionOf, Value.equals_int]
  cases d <;> rfl

theorem setDirection_held (d : Direction) :
    Maintains (Held i earlier Mirrored) (setDirection (.int d.number)) := by
  refine engine_maintains.bind fun e => (Maintains.ofFault _).bind fun same => ?_
  refine Maintains.ite (Maintains.pure _) ?_
  rw [directionOf_number]
  have hcalled : Leads (Held i earlier Mirrored) (ifNative (succeeds (.setDirection d)))
      (fun called s => if called then
        Held i earlier (fun e m => Mirrored { e with sense := .int d.number } m) s
        else Held i earlier Mirrored s) (Held i earlier Mirrored) :=
    ifNative_added (succeeds_held fun e m hm =>
      ⟨fun _ h => ⟨h.columns, h.rows⟩, ⟨hm.1.columns, hm.1.rows, rfl⟩, hm.2⟩) fun _ _ hm => hm
  refine Leads.maintains (Leads.ofFault_bind (hcalled.bind fun called => ?_))
  cases called
  · exact Leads.pure fun _ h => h
  · refine Leads.bind (Q := fun _ => Held i earlier Mirrored) (Leads.modify fun _ h => h) fun _ => ?_
    exact (Leads.of_maintains (clearSolution_maintains
      (Indifferent.patient (held_indifferent mirrored_stable)))).bind
      fun _ => Leads.pure fun _ h => h

end Engine

namespace Model

variable {i : Nat} {earlier : List AnsweredCall} {R S : Engine → NativeModel → Prop}
  {x : Engine.Acting Value}

/-! ## Handing over -/

theorem names_of_column {vs : List Var} {cs : List Column} (h : vs.mapM Var.column = .ok cs) :
    ∀ c ∈ cs, ∃ name, c.name = .ofName name := by
  intro c hc
  have hnames : vs.map (fun v => Value.ofName v.name) = cs.map (·.name) :=
    map_eq_map (mapM_eq_ok_iff.1 h) fun _ _ hv => (column_eq_ok hv).2.2.2.2.symm
  have hmem : c.name ∈ cs.map (·.name) := List.mem_map_of_mem hc
  obtain ⟨v, -, hv⟩ := List.mem_map.1 (hnames ▸ hmem)
  exact ⟨v.name, hv.symm⟩

/-- Variables that are handed over become columns on both sides, or on neither. -/
theorem varsCall_held (hR : Stable R) (hS : Stable S) (hclosed : ∀ e m, R e m → m.Closed)
    {vs : List Var} (h : varsCall vs = .ok x) (hbuilt : ∀ v ∈ vs, v.Built)
    (hstore : ∀ cs e m, vs.mapM Var.column = .ok cs → R e m →
      S { e with columns := e.columns ++ cs } (m.addColumns (cs.map NativeColumn.of))) :
    Leads (Held i earlier R) x (Answered (Held i earlier R) (Held i earlier S))
      (Held i earlier R) := by
  -- `K` holds between the call of the native solver and the moment when the columns are stored
  refine varsCall_answered (K := Held i earlier fun e n => ∃ cs m, vs.mapM Var.column = .ok cs ∧
    R e m ∧ n = m.addColumns (cs.map NativeColumn.of))
    (Indifferent.heedless (held_indifferent hR)) (Indifferent.forgets (held_indifferent hS)) h
    (fun v hv => ?_) (fun cs hcs => ?_) (fun cs e w hcs hs => ?_) fun f s hf hs => ?_
  · subst hv
    refine ifNative_added ((addNativeColumn_leads hclosed (hbuilt v List.mem_cons_self)).mono
      (fun _ h => h) (fun added s hs => hs.mono fun n hn => ?_) fun _ h => h) fun _ _ hm => hm
    cases added
    · exact hn
    · obtain ⟨c, m, hc, hm, rfl⟩ := hn
      exact ⟨[c], m, by rw [List.mapM_cons, hc]; rfl, hm, rfl⟩
  · refine ifNative_added ((addNativeColumns_leads hclosed (names_of_column hcs)).mono
      (fun _ h => h) (fun added s hs => hs.mono fun n hn => ?_) fun _ h => h) fun _ _ hm => hm
    cases added
    · exact hn
    · obtain ⟨m, hm, rfl⟩ := hn
      exact ⟨cs, m, hcs, hm, rfl⟩
  · refine ⟨hs.1, hs.2.mono fun n hn => ?_⟩
    obtain ⟨ds, m, hds, hm, rfl⟩ := hn
    cases hcs.symm.trans hds
    exact hstore cs e m hcs hm
  · refine hs.mono fun n hn => ?_
    obtain ⟨ds, m, hds, -⟩ := hn
    cases hf.symm.trans hds

/-- Constraints that are handed over become rows on both sides, or on neither. -/
theorem constraintsCall_held (hR : Stable R) (hS : Stable S) {m : Model} {cs : List Constraint}
    (h : m.constraintsCall cs = .ok x)
    (hstore : ∀ rs e n, cs.mapM m.termRow = .ok rs →
      TermRow.InRange e.columns.length (TermRow.allTerms rs) → R e n →
        S { e with rows := e.rows ++ rs.map TermRow.row } (n.addRows (rs.map NativeRow.of))) :
    Leads (Held i earlier R) x (Answered (Held i earlier R) (Held i earlier S))
      (Held i earlier R) := by
  -- columns are neither added nor removed before the rows are stored, so their range can be carried
  -- along
  have hranged (ts : List (Nat × Double)) (s : Engine × Surroundings)
      (hs : TermRow.InRange s.1.columns.length ts ∧ Held i earlier R s) :
      Held i earlier (fun e n => TermRow.InRange e.columns.length ts ∧ R e n) s :=
    hs.2.mono fun _ hn => ⟨hs.1, hn⟩
  refine constraintsCall_answered (K := Held i earlier fun e n => ∃ rs m',
    cs.mapM m.termRow = .ok rs ∧ TermRow.InRange e.columns.length (TermRow.allTerms rs) ∧
    R e m' ∧ n = m'.addRows (rs.map NativeRow.of))
    (Indifferent.heedless (held_indifferent hR)) (Indifferent.forgets (held_indifferent hS)) h
    (fun r hr => ?_) (fun rs hrs => ?_) fun rs e w hrs hs => ?_
  · have hterms : TermRow.allTerms [r] = r.terms := List.append_nil r.terms
    refine Leads.mono (ifNative_added ((addNativeRow_leads r).mono (fun _ h => h)
      (fun added s hs => hs.mono fun n hn => ?_) fun _ h => h) fun _ _ hm => hm.2)
      (hranged r.terms) (fun _ _ h => h) fun _ h => h
    cases added
    · exact hn
    · obtain ⟨m', hm', rfl⟩ := hn
      exact ⟨[r], m', hr, hterms ▸ hm'.1, hm'.2, rfl⟩
  · refine Leads.mono (ifNative_added ((addNativeRows_leads rs).mono (fun _ h => h)
      (fun added s hs => hs.mono fun n hn => ?_) fun _ h => h) fun _ _ hm => hm.2)
      (hranged _) (fun _ _ h => h) fun _ h => h
    cases added
    · exact hn
    · obtain ⟨m', hm', rfl⟩ := hn
      exact ⟨rs, m', hrs, hm'.1, hm'.2, rfl⟩
  · refine ⟨hs.1, hs.2.mono fun n hn => ?_⟩
    obtain ⟨qs, m', hqs, hrange, hm', rfl⟩ := hn
    cases hrs.symm.trans hqs
    exact hstore rs e m' hrs hrange hm'

/-- An addition that is refused leaves both sides as they were. -/
theorem refused_held {m : Model} {w : Surroundings} {n : NativeModel}
    (h : Held i earlier (fun e n' => Mirrored e n' ∧ n' = n) (m.engine, w))
    (hbuilt : ∀ v ∈ m.pendingVars, v.Built)
    (hx : varsCall m.pendingVars = .ok x ∨ m.constraintsCall m.pendingConstraints = .ok x)
    (hr : ¬Accepted (x.perform (m.engine, w))) :
    Held i earlier (fun e n' => e.columns = m.engine.columns ∧ e.rows = m.engine.rows ∧ n' = n)
      (x.perform (m.engine, w)).2 := by
  -- what was stored and the native model are carried through the call besides being mirrors
  let R (e : Engine) (n' : NativeModel) : Prop :=
    Mirrored e n' ∧ e.columns = m.engine.columns ∧ e.rows = m.engine.rows ∧ n' = n
  have hR : Stable R := fun hcolumns hrows hsense n' hn' =>
    ⟨mirrored_stable hcolumns hrows hsense n' hn'.1, hcolumns.trans hn'.2.1,
      hrows.trans hn'.2.2.1, hn'.2.2.2⟩
  have hall : Stable fun _ _ => True := fun _ _ _ _ h => h
  have hs : Held i earlier R (m.engine, w) := h.mono fun _ hn' => ⟨hn'.1, rfl, rfl, hn'.2⟩
  refine Held.mono (R := R) ?_ fun _ hn' => hn'.2
  rcases hx with hx | hx
  · exact Answered.of_not_accepted (varsCall_held hR hall (fun _ _ hn' => hn'.1.2) hx hbuilt
      fun _ _ _ _ _ => trivial) hs hr
  · exact Answered.of_not_accepted (constraintsCall_held hR hall hx fun _ _ _ _ _ _ => trivial) hs hr

/-! ## Changes -/

variable {s t : Model × Surroundings}

/-- What may happen to the surroundings of a model: its own instance is left alone. -/
def Apart (i : Nat) (w w' : Surroundings) : Prop := w.solver.SameAt i w'.solver

theorem Change.held (hc : Change (Apart i) s t) (hbuilt : ∀ v ∈ s.1.pendingVars, v.Built)
    (h : Held i earlier Mirrored (s.1.engine, s.2)) :
    Held i earlier Mirrored (t.1.engine, t.2) := by
  have hvars {m : Model} {x : Engine.Acting Value} (hx : varsCall m.pendingVars = .ok x)
      (hb : ∀ v ∈ m.pendingVars, v.Built) :
      Leads (Held i earlier Mirrored) x
        (Answered (Held i earlier Mirrored) (Held i earlier Mirrored)) (Held i earlier Mirrored) :=
    varsCall_held mirrored_stable mirrored_stable (fun _ _ hm => hm.2) hx hb
      fun cs e n hcs hn => hn.addColumns (names_of_column hcs)
  have hconstraints {m : Model} {x : Engine.Acting Value}
      (hx : m.constraintsCall m.pendingConstraints = .ok x) :
      Leads (Held i earlier Mirrored) x
        (Answered (Held i earlier Mirrored) (Held i earlier Mirrored)) (Held i earlier Mirrored) :=
    constraintsCall_held mirrored_stable mirrored_stable hx fun rs e n _ hrange hn =>
      hn.addRows hrange
  cases hc with
  | aside ha => exact held_indifferent mirrored_stable ha h
  | message => exact h
  | ending => exact h
  | elsewhere m hw => exact ⟨h.1, h.2.of_sameAt hw⟩
  | direction m w d => exact setDirection_held d (m.engine, w) h
  | refuseVars hx hr => exact Answered.of_not_accepted (hvars hx hbuilt) h hr
  | commitVars hm hx hr =>
    rw [commitVars_engine]
    exact Answered.of_accepted (hvars hx hbuilt) h hr
  | refuseConstraints hx hr => exact Answered.of_not_accepted (hconstraints hx) h hr
  | commitConstraints hm hx hr =>
    rw [commitConstraints_engine]
    exact Answered.of_accepted (hconstraints hx) h hr

/-! ## Engines without an instance -/

/-- The engine has no instance of the native solver. -/
def Detached (s : Engine × Surroundings) : Prop := ∀ j, s.1.backend ≠ .native (some j)

theorem detached_indifferent : Indifferent Detached := by
  intro s t ha h
  cases ha with
  | orders e w fs gs hfs => exact fun j hj => by cases hj
  | finish e w backend hb =>
    rcases hb with rfl | rfl
    · exact h
    · exact fun j hj => by cases hj
  | _ => exact h

/-- An engine that has no instance never gets one. -/
theorem Change.detached {Elsewhere : Surroundings → Surroundings → Prop}
    (hc : Change Elsewhere s t) (h : Detached (s.1.engine, s.2)) : Detached (t.1.engine, t.2) := by
  have hvars {m : Model} {x : Engine.Acting Value} (hx : varsCall m.pendingVars = .ok x) :
      Maintains Detached x :=
    varsCall_maintains (Indifferent.patient detached_indifferent) (fun _ _ _ h => h) (fun _ _ _ h => h) hx
  have hconstraints {m : Model} {x : Engine.Acting Value}
      (hx : m.constraintsCall m.pendingConstraints = .ok x) : Maintains Detached x :=
    constraintsCall_maintains (Indifferent.patient detached_indifferent) (fun _ _ _ h => h) (fun _ _ _ h => h) hx
  cases hc with
  | aside ha => exact detached_indifferent ha h
  | message => exact h
  | ending => exact h
  | elsewhere m hw => exact h
  | direction m w d =>
    exact setDirection_maintains (Indifferent.patient detached_indifferent) (fun _ _ _ h => h) (fun _ _ _ h => h) _
      (m.engine, w) h
  | @refuseVars m w x hx hr => exact hvars hx (m.engine, w) h
  | @commitVars m w x hm hx hr =>
    rw [commitVars_engine]
    exact hvars hx (m.engine, w) h
  | @refuseConstraints m w x hx hr => exact hconstraints hx (m.engine, w) h
  | @commitConstraints m w x hm hx hr =>
    rw [commitConstraints_engine]
    exact hconstraints hx (m.engine, w) h

/-! ## Histories -/

namespace History

/-- A history in which entities are in order, and the engine mirrors the native solver as long as
the variables were made as they should be. -/
structure Reflected (i : Nat) (earlier : List AnsweredCall) (h : History) : Prop where
  inOrder : h.InOrder
  held : (∀ v ∈ h.vars, v.Built) → Held i earlier Mirrored (h.model.engine, h.surroundings)

theorem reflected_step {h k : History} (hstep : Step (Apart i) h k) (hh : h.Reflected i earlier) :
    k.Reflected i earlier := by
  refine ⟨inOrder_step hstep hh.inOrder, fun hbuilt => ?_⟩
  cases hstep with
  | change hc =>
    refine hc.held (fun v hv => hbuilt v ?_) (hh.held hbuilt)
    rw [← hh.inOrder.vars]
    exact List.mem_append_right _ hv
  | solve _ => exact (hh.held hbuilt).of_stored mirrored_stable rfl rfl rfl (.inl rfl)
  | queueVar v => exact hh.held fun u hu => hbuilt u (List.mem_append_left _ hu)
  | queueConstraint c => exact hh.held hbuilt

/-- A new engine mirrors a new instance. -/
theorem held_native (w : Surroundings) (modelName : Value) :
    Held w.solver.instances.length (w.solver.callsOf w.solver.instances.length) Mirrored
      ({ backend := .native (some w.solver.instances.length), modelName },
        { w with
          solver := (w.solver.create.2.call w.solver.instances.length
            (.setOption (.text "output_flag") (.bool false))).2 }) := by
  have hempty : Mirrored { backend := .native (some w.solver.instances.length), modelName } {} :=
    ⟨⟨.nil, .nil, rfl⟩, fun r hr => by cases hr⟩
  have hnew : Traced w.solver.instances.length (w.solver.callsOf w.solver.instances.length)
      (Mirrored { backend := .native (some w.solver.instances.length), modelName })
      w.solver.create.2 := .create hempty
  exact ⟨.inl rfl, hnew.call_neutral (c := .setOption (.text "output_flag") (.bool false)) rfl⟩

theorem detached_step {Elsewhere : Surroundings → Surroundings → Prop} {h k : History}
    (hstep : Step Elsewhere h k) (hh : Detached (h.model.engine, h.surroundings)) :
    Detached (k.model.engine, k.surroundings) := by
  cases hstep with
  | change hc => exact hc.detached hh
  | solve _ => exact hh
  | queueVar v => exact hh
  | queueConstraint c => exact hh

/-- A new model whose engine has an instance of the native solver has got a new one. -/
theorem reflected_newModel {env : Environment} {settings : SettingsStore} {place : Nat}
    {name : Value} {w w' : Surroundings} {m : Model}
    (h : (env.newModel settings place name).perform w = (.ok m, w')) {i : Nat}
    (hi : m.engine.backend = .native (some i)) :
    Reflected i (w.solver.callsOf i) { model := m, surroundings := w' } := by
  have hsteps : ∃ b : History, b.Blank w ∧ b.Steps (Apart w.solver.instances.length)
      (run { model := m, surroundings := w' } []) :=
    Environment.newModel_steps h fun _ hmem => by cases hmem
  obtain ⟨b, ⟨name, environment, handler, hfresh⟩, hsteps⟩ := hsteps
  -- an engine that was made without an instance cannot be the one of this model
  cases hfresh with
  | plain backend modelName hbackend =>
    exact absurd hi (hsteps.maintains detached_step (fun j => hbackend (some j)) i)
  | native modelName =>
    have hreflected := hsteps.maintains reflected_step
      ⟨inOrder_blank (.of name environment handler (.native modelName)),
        fun _ => held_native w modelName⟩
    rcases (hreflected.held fun v hv => by cases hv).1 with hn | hn
    · cases hi.symm.trans hn
      exact hreflected
    · cases hi.symm.trans hn

/-- A history of a new model whose engine has an instance of the native solver. -/
theorem reflected_run {env : Environment} {settings : SettingsStore} {place : Nat} {name : Value}
    {w w' : Surroundings} {m : Model}
    (h : (env.newModel settings place name).perform w = (.ok m, w')) {i : Nat}
    (hi : m.engine.backend = .native (some i)) {moves : List Move}
    (hm : ∀ move ∈ moves, move.Spares (Apart i)) :
    (run { model := m, surroundings := w' } moves).Reflected i (w.solver.callsOf i) :=
  (steps_run _ hm).maintains reflected_step (reflected_newModel h hi)

/-- In every state that a history of a new model leads to, replaying the calls that its instance of
the native solver has got gives the model that the engine stores: its columns and rows one by one, and
its direction. An addition of queued entities that is refused, or breaks off, leaves both sides as
they were. All this holds as long as no deletion has failed, whichever other calls have. -/
theorem run_mirrors {env : Environment} {settings : SettingsStore} {place : Nat} {name : Value}
    {w w' : Surroundings} {m : Model}
    (h : (env.newModel settings place name).perform w = (.ok m, w')) {i : Nat}
    (hi : m.engine.backend = .native (some i)) {moves : List Move}
    (hm : ∀ move ∈ moves, move.Spares (Apart i)) :
    let s := run { model := m, surroundings := w' } moves
    let calls (u : Surroundings) := w.solver.callsSince i u.solver
    (∀ v ∈ s.vars, v.Built) → DeletionsSucceed (calls s.surroundings) →
      s.surroundings.solver.callsOf i = w.solver.callsOf i ++ calls s.surroundings ∧
      (NativeModel.replay (calls s.surroundings)).Mirrors s.model.engine ∧
      ∀ x, varsCall s.model.pendingVars = .ok x ∨
          s.model.constraintsCall s.model.pendingConstraints = .ok x →
        let r := x.perform (s.model.engine, s.surroundings)
        ¬Accepted r → DeletionsSucceed (calls r.2.2) →
          r.2.1.columns = s.model.engine.columns ∧ r.2.1.rows = s.model.engine.rows ∧
            NativeModel.replay (calls r.2.2) = NativeModel.replay (calls s.surroundings) := by
  intro s calls hbuilt hdeletions
  have hs : s.Reflected i (w.solver.callsOf i) := reflected_run h hi hm
  have hheld := hs.held hbuilt
  obtain ⟨hcalls, hmirrored⟩ := hheld.2.callsSince
  refine ⟨hcalls, (hmirrored hdeletions).1, ?_⟩
  intro x hx r hr hdeletions'
  have hpending : ∀ v ∈ s.model.pendingVars, v.Built := by
    intro v hv
    refine hbuilt v ?_
    rw [← hs.inOrder.vars]
    exact List.mem_append_right _ hv
  have hrefused := refused_held ⟨hheld.1, hheld.2.eq_replay⟩ hpending hx hr
  exact hrefused.2.callsSince.2 hdeletions'

/-- The instance of the native solver behind an engine. -/
def instance? : Backend → Option Nat
  | .native i => i
  | _ => none

theorem native_of_instance? {b : Backend} {i : Nat} (h : instance? b = some i) :
    b = .native (some i) := by
  cases b with
  | native j => exact congrArg Backend.native h
  | _ => cases h

/-- A binary variable with a name. -/
def namedRequest : Var.Request := { domain := .text "B", name := .text "x" }

/-- Such a variable is admitted, and the update is repeated because its name is not taken the first
time. -/
def retriedMoves : List Move :=
  [.operate 0 (.newVar 0 namedRequest),
    .elsewhere fun w => { w with
      solver := w.solver.setScript "passColName" (FailureScript.answers { times := some 1 }) },
    .operate 0 .update, .operate 0 .update]

/-- The column is deleted again, and is there once the update is repeated. -/
theorem run_mirrors_retried : ∃ m w, Environment.firstModel = (.ok m, w) ∧
    m.engine.backend = .native (some 0) ∧
    let s := run { model := m, surroundings := w } retriedMoves
    s.model.engine.columns.length = 1 ∧
      (s.surroundings.solver.callsOf 0).any (·.call.isDeletion) = true ∧
      (NativeModel.replay (Solver.callsSince 0 {} s.surroundings.solver)).Mirrors s.model.engine := by
  obtain ⟨m, w, h, hp⟩ := Environment.exists_firstModel (p := fun m w =>
    let s := run { model := m, surroundings := w } retriedMoves
    decide (instance? m.engine.backend = some 0) &&
      decide (s.model.engine.columns.length = 1) &&
      (s.surroundings.solver.callsOf 0).any (·.call.isDeletion) &&
      decide (DeletionsSucceed (Solver.callsSince 0 {} s.surroundings.solver)) &&
      s.vars.all fun v => (Var.ofValues 0 namedRequest).toOption.any fun u => decide (u = v))
    (by decide +kernel)
  simp only [Bool.and_eq_true, decide_eq_true_eq, List.all_eq_true] at hp
  obtain ⟨⟨⟨⟨hbackend, hcolumns⟩, hdeleted⟩, hdeletions⟩, hbuilt⟩ := hp
  have hi : m.engine.backend = .native (some 0) := native_of_instance? hbackend
  have hspares : ∀ move ∈ retriedMoves, move.Spares (Apart 0) := by
    simp only [retriedMoves, List.forall_mem_cons]
    exact ⟨trivial, fun w => ⟨rfl, rfl, id⟩, trivial, trivial, fun _ hmem => by cases hmem⟩
  have hvars : ∀ v ∈ (run { model := m, surroundings := w } retriedMoves).vars, v.Built := by
    intro v hv
    obtain ⟨u, hu, heq⟩ := exists_ok_of_any (hbuilt v hv)
    exact ⟨0, namedRequest, hu.trans (congrArg Except.ok (of_decide_eq_true heq))⟩
  exact ⟨m, w, h, hi, hcolumns, hdeleted, (run_mirrors h hi hspares hvars hdeletions).2.1⟩

end History

end Model

end Milp

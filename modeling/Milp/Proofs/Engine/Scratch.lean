import Milp.Proofs.Engine.Deletion
import Milp.Proofs.Native.Sent
set_option autoImplicit false

/-! # The problem that is tested

An engine with the native solver behind it tells the same columns and rows twice: to its own instance
when they are added, and to a scratch instance when rows are tested, from what it has stored. Rows are
told in the same way, and so are columns, except that the bounds of binary columns are cut to 0 and 1
when they are added and not when they are tested. So the two problems are the same exactly if no
binary column has bounds beyond 0 and 1 (`Engine.tested_eq_own_iff`). -/

namespace Milp

open Milp.Action

/-! ## Binary columns -/

namespace Column

/-- A binary column with a bound that is cut when it is passed on. -/
def Overreaches (c : Column) : Prop :=
  c.kind = .binary ∧ (c.lower.lt Double.zero = true ∨ Double.one.lt c.upper = true)

instance (c : Column) : Decidable c.Overreaches := by
  unfold Overreaches
  infer_instance

end Column

theorem Column.span_cut_iff (c : Column) : c.cut.span = c.span ↔ ¬c.Overreaches := by
  have hkind : c.cut.kind = c.kind := rfl
  constructor
  · rintro hspan ⟨hbinary, hbound⟩
    have hlower : c.nativeBounds.1.place? = c.lower.place? := congrArg Span.lower hspan
    have hupper : c.nativeBounds.2.place? = c.upper.place? := congrArg Span.upper hspan
    rw [nativeBounds, hbinary] at hlower hupper
    rcases hbound with hbelow | habove
    · simp only [hbelow, if_true] at hlower
      exact Double.place?_ne_of_lt hbelow hlower.symm
    · simp only [habove, if_true] at hupper
      exact Double.place?_ne_of_lt habove hupper
  · intro hnot
    have hbounds : c.nativeBounds = (c.lower, c.upper) := by
      unfold nativeBounds
      cases hk : c.kind with
      | continuous | integer => rfl
      | binary =>
        have hlower : ¬c.lower.lt Double.zero = true := fun h => hnot ⟨hk, .inl h⟩
        have hupper : ¬Double.one.lt c.upper = true := fun h => hnot ⟨hk, .inr h⟩
        dsimp only
        rw [if_neg hlower, if_neg hupper]
    rw [span, span, hkind, cut, hbounds]

/-! ## Scratch instances -/

namespace Solver

theorem callsOf_callAll (i : Nat) (cs : List SolverCall) (s : Solver) :
    ((s.callAll i cs).callsOf i).map (·.call) = (s.callsOf i).map (·.call) ++ cs := by
  induction cs generalizing s with
  | nil => exact (List.append_nil _).symm
  | cons c rest ih =>
    show (((s.call i c).2.callAll i rest).callsOf i).map (·.call) = _
    rw [ih, callsOf_call, if_pos rfl, List.map_append, List.append_assoc]
    rfl

/-- The instance of a test is told what the calls of the test say. -/
theorem told_test (s : Solver) (cs : List SolverCall) :
    s.told s.instances.length (s.test cs) = (NativeModel.sent cs).problem := by
  have hcalls : ((s.test cs).callsOf s.instances.length).map (·.call) =
      (s.callsOf s.instances.length).map (·.call) ++ (cs ++ [SolverCall.run]) := by
    rw [test_eq_callAll, callsOf_callAll]
    rfl
  rw [told, callsSince, List.map_drop, hcalls, ← List.length_map (·.call), List.drop_left,
    NativeModel.sent_append]
  rfl

end Solver

namespace Engine

/-! ## What a test says -/

/-- The columns that are not continuous are those that are marked. -/
theorem discretePositions_eq (columns : List Column) : discretePositions columns =
    ((positionsFrom 0 (columns.map (·.kind)).length).zip (columns.map (·.kind))).filterMap
      fun (i, k) => if k = .continuous then none else some i := by
  rw [List.length_map, List.zip_map_right, List.filterMap_map]
  rfl

theorem turns_addColumnsCall (columns : List Column) :
    (addColumnsCall columns).Turns {} ({ columns := columns.map Column.bareSpan }) := by
  refine SolverCall.turns_addColumns {} ?_ (by simp)
  rw [NativeModel.columnsOf, List.zip_map', List.zip_map', List.map_map, List.map_map]
  rfl

/-- The columns are told as they are stored. -/
theorem problem_columnCalls (columns : List Column) {m : NativeModel} (hm : m.problem = {}) :
    ((columnCalls columns).foldl NativeModel.apply m).problem =
      { columns := columns.map Column.span } := by
  have hmark : ({ columns := columns.map Column.bareSpan } : Problem).mark
      (discretePositions columns) = { columns := columns.map Column.span } := by
    rw [discretePositions_eq]
    exact Problem.mark_discrete {} columns fun _ => mem_discrete _ _
  have hadded := (turns_addColumnsCall columns).problem m hm
  unfold columnCalls
  cases columns with
  | nil => exact hm
  | cons c rest =>
    show (List.foldl _ (m.apply (addColumnsCall (c :: rest))) _).problem = _
    split
    · rename_i hnone
      rw [List.isEmpty_iff.1 hnone, Problem.mark_nil] at hmark
      exact hadded.trans hmark
    · rw [← hmark]
      exact (SolverCall.turns_setIntegers _ _).problem _ hadded

theorem of_addRowCall {r : Row} {c : SolverCall} (h : addRowCall r = .ok c) :
    ∃ n, r.native = .ok n ∧ ∀ p, c.Turns p (p.addRows [n]) := by
  obtain ⟨indices, hindices, h⟩ := bind_eq_ok_iff.1 h
  refine ⟨_, bind_eq_ok_iff.2 ⟨indices, hindices, rfl⟩, fun p => ?_⟩
  cases hs : r.sense <;> rw [hs] at h <;> cases h <;> exact SolverCall.turns_addRow p _ _ _ _

/-- The rows are told as they are stored. -/
theorem problem_rowCalls {rows : List Row} {cs : List SolverCall} (h : rows.mapM addRowCall = .ok cs) :
    ∃ ns, rows.mapM Row.native = .ok ns ∧
      ∀ m : NativeModel, (cs.foldl NativeModel.apply m).problem = m.problem.addRows ns := by
  induction rows generalizing cs with
  | nil =>
    cases h
    exact ⟨[], rfl, fun m => by rw [Problem.addRows, List.append_nil]; rfl⟩
  | cons r rest ih =>
    obtain ⟨c, ds, hc, hds, rfl⟩ := of_mapM_cons h
    obtain ⟨ns, hns, happly⟩ := ih hds
    obtain ⟨n, hn, hturns⟩ := of_addRowCall hc
    refine ⟨n :: ns, mapM_cons_eq_ok hn hns, fun m => ?_⟩
    rw [List.foldl_cons, happly, (hturns _).problem m rfl, Problem.addRows_addRows]
    rfl

theorem filterMap_range_getElem? {α : Type} (xs : List α) :
    (List.range xs.length).filterMap (xs[·]?) = xs := by
  have hmap : (List.range xs.length).map (xs[·]?) = xs.map some :=
    List.ext_getElem (by simp) fun k hk _ => by
      have hlt : k < xs.length := by simpa using hk
      simp [hlt]
  have hfilter := congrArg (List.filterMap id) hmap
  rwa [List.filterMap_map, List.filterMap_map, Function.id_comp, Function.id_comp,
    List.filterMap_some] at hfilter

/-- A test of all rows says what is stored. -/
theorem problem_testCalls {e : Engine} {cs : List SolverCall}
    (h : e.testCalls (List.range e.rows.length) = .ok cs) :
    storedProblem e.columns e.rows = .ok (NativeModel.sent cs).problem := by
  obtain ⟨rows, hrows, hcs⟩ := bind_eq_ok_iff.1 h
  cases hcs
  rw [filterMap_range_getElem?] at hrows
  obtain ⟨ns, hns, happly⟩ := problem_rowCalls hrows
  have hquiet : (({} : NativeModel).apply
      (.setOption (.text "output_flag") (.bool false))).problem = {} := rfl
  rw [storedProblem, hns, NativeModel.sent, List.foldl_cons, List.foldl_append, happly,
    problem_columnCalls _ hquiet]
  rfl

/-! ## What an engine has told its own instance -/

/-- An engine has told its own instance, since some earlier calls of it, the columns with their bounds
cut and the rows that it has stored, and no call has failed. -/
def Conveyed (i : Nat) (earlier : List AnsweredCall) (s : Engine × Surroundings) : Prop :=
  s.1.backend = .native (some i) ∧ ∃ p, storedProblem (s.1.columns.map Column.cut) s.1.rows = .ok p ∧
    Heard i earlier p s.2.solver

/-- An addition is accepted, or something happens elsewhere. -/
inductive Growth (s : Engine × Surroundings) : Engine × Surroundings → Prop
  | added (a : Addition) (h : Accepted (a.run.perform s)) : Growth s (a.run.perform s).2
  | elsewhere (w : Surroundings)
      (h : ∀ i, s.1.backend = .native (some i) → s.2.solver.SameAt i w.solver) : Growth s (s.1, w)

theorem Growth.use {s t : Engine × Surroundings} (h : Growth s t) : Use s t := by
  cases h with
  | added a h =>
    cases a with
    | column objective lower upper kind name => exact .addVar objective lower upper kind name
    | columns count objectives lowers uppers kinds names =>
      exact .addVars count objectives lowers uppers kinds names
    | row size indices values sense bound name =>
      exact .addConstraint size indices values sense bound name
    | rows count size begins indices values senses bounds names =>
      exact .addConstraints count size begins indices values senses bounds names
  | elsewhere w h => exact .elsewhere w

section

variable {i : Nat} {earlier : List AnsweredCall} {e : Engine} {w v : Surroundings}

theorem Conveyed.addColumns {native : Acting Bool} (cs : List Column)
    (h : Conveyed i earlier (e, w)) (hperform : native.perform (e, w) = (.ok true, e, v))
    (hnative : ∀ p, Conveys i p (p.addColumns ((cs.map Column.cut).map Column.span)) native) :
    Conveyed i earlier (clearSolution { e with columns := e.columns ++ cs }, v) := by
  obtain ⟨hi, p, hp, hheard⟩ := h
  obtain ⟨u, hu, hheard'⟩ := hnative p hi hheard hperform
  cases hu
  have hstored := storedProblem_addColumns hp (cs.map Column.cut)
  rw [← List.map_append] at hstored
  exact ⟨hi, _, hstored, hheard'⟩

theorem Conveyed.addRows {native : Acting Bool} (rs : List Row)
    (h : Conveyed i earlier (e, w)) (hperform : native.perform (e, w) = (.ok true, e, v))
    (htestable : ∀ r ∈ rs, Passable r.indices)
    (hnative : ∀ p ns, rs.mapM Row.native = .ok ns → Conveys i p (p.addRows ns) native) :
    Conveyed i earlier (clearSolution { e with rows := e.rows ++ rs }, v) := by
  obtain ⟨hi, p, hp, hheard⟩ := h
  obtain ⟨ns, hns⟩ : ∃ ns, rs.mapM Row.native = .ok ns := by
    refine exists_mapM_eq_ok fun r hr => ?_
    obtain ⟨indices, hindices⟩ := exists_mapM_eq_ok (htestable r hr)
    exact ⟨_, bind_eq_ok_iff.2 ⟨indices, hindices, rfl⟩⟩
  obtain ⟨u, hu, hheard'⟩ := hnative p ns hns hi hheard hperform
  cases hu
  exact ⟨hi, _, storedProblem_addRows hp hns, hheard'⟩

end

theorem Growth.conveyed {i : Nat} {earlier : List AnsweredCall} {s t : Engine × Surroundings}
    (h : Growth s t) (hs : Conveyed i earlier s) (ht : t.1.Testable) : Conveyed i earlier t := by
  obtain ⟨e, w⟩ := s
  cases h with
  | elsewhere w' h =>
    obtain ⟨hi, p, hp, hheard⟩ := hs
    exact ⟨hi, p, hp, hheard.of_sameAt (h i hi)⟩
  | added a h =>
    have he : e.isNative = true := by
      rw [isNative, hs.1]
    obtain ⟨status, hok, hstatus⟩ := h
    rcases hr : a.run.perform (e, w) with ⟨o, u⟩
    rw [hr] at hok hstatus ht
    cases (hok : o = .ok status)
    cases a with
    | column objective lower upper kind name =>
      obtain ⟨k, c, v, hnative, hc, rfl⟩ := addVar_accepted he hr hstatus
      exact hs.addColumns [c] hnative fun p => conveys_addNativeColumn hc
    | columns count objectives lowers uppers kinds names =>
      obtain ⟨n, os, ls, us, ns, ks, cs, v, hos, hls, hus, hks, hns, hnative, hcs, rfl⟩ :=
        addVars_accepted he hr hstatus
      subst hks
      exact hs.addColumns cs hnative fun p => conveys_addNativeColumns hos hls hus hns hcs
    | row size indices values sense bound name =>
      obtain ⟨is, vs, s, r, v, hnative, hrow, rfl⟩ := addConstraint_accepted he hr hstatus
      refine hs.addRows [r] hnative (fun q hq => ht.rows q ?_) fun p ns hns => ?_
      · exact List.mem_append_right _ hq
      · obtain ⟨n, _, hn, hnil, rfl⟩ := of_mapM_cons hns
        cases hnil
        exact conveys_addNativeRow hrow hn
    | rows count size begins indices values senses bounds names =>
      obtain ⟨n, bs, is, vs, us, ns, ss, rs, v, hbs, hss, hus, hns, hsize, hnative, hrs, rfl⟩ :=
        addConstraints_accepted he hr hstatus
      subst hss
      exact hs.addRows rs hnative (fun q hq => ht.rows q (List.mem_append_right _ hq))
        fun p natives hnatives => conveys_addNativeRows hbs hus hns hsize hrs hnatives

/-! ## Both problems -/

/-- Nothing was told before anything was added. -/
theorem conveyed_of_create {modelName : Value} {w w' : Surroundings} {e : Engine}
    (h : (createNative modelName).perform w = (.ok e, w')) :
    Conveyed w.solver.instances.length (w'.solver.callsOf w.solver.instances.length) (e, w') := by
  cases h
  have hcreated := Heard.create w.solver
  obtain ⟨hcolumns, hrows⟩ := Solver.instance?_call hcreated.exists_instance
    (.setOption (.text "output_flag") (.bool false))
  refine ⟨rfl, {}, rfl, ?_, ⟨[], (List.append_nil _).symm, List.forall_mem_nil _, rfl⟩,
    hcolumns.trans ?_, hrows.trans ?_⟩
  · show _ < (Solver.call _ _ _).2.instances.length
    rw [Solver.length_instances_call]
    exact hcreated.exists_instance
  · unfold SolverInstance.answered
    split <;> exact hcreated.columns
  · unfold SolverInstance.answered
    split <;> exact hcreated.rows

section

variable {modelName : Value} {w w' : Surroundings} {e : Engine} {s : Engine × Surroundings}

theorem testable_of_growth (h : (createNative modelName).perform w = (.ok e, w'))
    (hs : Relation.ReflTransGen Growth (e, w') s) : s.1.Testable :=
  testable_of_uses h (Relation.ReflTransGen.mono (fun _ _ hgrowth => hgrowth.use) _ _ hs)

theorem conveyed_of_growth (h : (createNative modelName).perform w = (.ok e, w'))
    (hs : Relation.ReflTransGen Growth (e, w') s) :
    Conveyed w.solver.instances.length (w'.solver.callsOf w.solver.instances.length) s := by
  induction hs with
  | refl => exact conveyed_of_create h
  | tail hreached hgrowth ih =>
    exact hgrowth.conveyed ih (testable_of_growth h (hreached.tail hgrowth))

/-- The test of all rows. -/
def testAll (s : Engine × Surroundings) : Except Failure Bool × Engine × Surroundings :=
  (isFeasible (List.range s.1.rows.length)).perform s

/-- The problem that the instance of this test is told. -/
def testedProblem (s : Engine × Surroundings) : Problem :=
  s.2.solver.told s.2.solver.instances.length (testAll s).2.2.solver

/-- However an engine was filled, its own instance was told its rows and its columns with the bounds
of binary ones cut, and the one other instance that a test makes is told the same rows and the columns
as they are stored. The two problems are the same exactly if no binary column has a bound that is
cut. -/
theorem tested_eq_own_iff (hcreated : (createNative modelName).perform w = (.ok e, w'))
    (hs : Relation.ReflTransGen Growth (e, w') s) :
    (∃ feasible, (testAll s).1 = .ok feasible) ∧
      (testAll s).2.2.solver.instances.length = s.2.solver.instances.length + 1 ∧
      storedProblem s.1.columns s.1.rows = .ok (testedProblem s) ∧
      ∃ i, s.1.backend = .native (some i) ∧
        storedProblem (s.1.columns.map Column.cut) s.1.rows = .ok (w'.solver.told i s.2.solver) ∧
        (testedProblem s = w'.solver.told i s.2.solver ↔ ∀ c ∈ s.1.columns, ¬c.Overreaches) := by
  obtain ⟨hi, p, hp, hheard⟩ := conveyed_of_growth hcreated hs
  obtain ⟨cs, hcs⟩ := (testable_of_growth hcreated hs).testCalls (List.range s.1.rows.length)
  have htest : testAll s = _ := perform_isFeasible hcs s.2
  have htested : storedProblem s.1.columns s.1.rows = .ok (testedProblem s) := by
    rw [testedProblem, htest, Solver.told_test]
    exact problem_testCalls hcs
  refine ⟨⟨_, congrArg Prod.fst htest⟩, ?_, htested, _, hi, by rw [hheard.told, hp], ?_⟩
  · rw [htest]
    exact Solver.length_instances_test _ _
  rw [hheard.told]
  obtain ⟨ns, hns, hp⟩ := bind_eq_ok_iff.1 hp
  obtain ⟨ms, hms, htested⟩ := bind_eq_ok_iff.1 htested
  cases hns.symm.trans hms
  rw [← Except.ok.inj hp, ← Except.ok.inj htested, Problem.mk.injEq, List.map_map, List.map_inj_left]
  constructor
  · rintro ⟨hspans, -⟩ c hc
    exact c.span_cut_iff.1 (hspans c hc).symm
  · exact fun h => ⟨fun c hc => (c.span_cut_iff.2 (h c hc)).symm, rfl⟩

end

/-- A binary column between 0 and 1 and a row are tested as they were added. -/
theorem tested_eq_own_unit :
    let column := Addition.column (.int 0) (.int 0) (.int 1) (.text "B") .nothing
    let row := Addition.row (.int 1) (.list [.int 0]) (.list [.int 1]) (.text "G") (.int 6) .nothing
    let filled := (row.run.perform (column.run.perform newNative).2).2
    filled.1.columns.length = 1 ∧ filled.1.rows.length = 1 ∧
      ∃ i, filled.1.backend = .native (some i) ∧
        testedProblem filled = newNative.2.solver.told i filled.2.solver := by
  intro column row filled
  have hcolumn : Accepted (column.run.perform newNative) := by decide +kernel
  have hrow : Accepted (row.run.perform (column.run.perform newNative).2) := by decide +kernel
  have hfilled : Relation.ReflTransGen Growth newNative filled :=
    .tail (.single (.added column hcolumn)) (.added row hrow)
  obtain ⟨-, -, -, i, hi, -, hiff⟩ := tested_eq_own_iff perform_createNative hfilled
  exact ⟨by decide +kernel, by decide +kernel, i, hi, hiff.2 (by decide +kernel)⟩

/-- A binary column with bounds beyond 0 and 1 is tested with these bounds. -/
theorem overreaching_column_tested :
    let column := Addition.column (.int 0) (.int (-5)) (.int 7) (.text "B") .nothing
    let filled := (column.run.perform newNative).2
    Accepted (column.run.perform newNative) ∧ filled.1.backend = .native (some 0) ∧
      testedProblem filled ≠ newNative.2.solver.told 0 filled.2.solver := by
  intro column filled
  have hcolumns : (testedProblem filled).columns ≠
      (newNative.2.solver.told 0 filled.2.solver).columns := by decide +kernel
  have haccepted : Accepted (column.run.perform newNative) := by decide +kernel
  have hfilled : Relation.ReflTransGen Growth newNative filled := .single (.added column haccepted)
  obtain ⟨hi, -⟩ := conveyed_of_growth perform_createNative hfilled
  exact ⟨haccepted, hi, fun h => hcolumns (congrArg Problem.columns h)⟩

end Engine

end Milp

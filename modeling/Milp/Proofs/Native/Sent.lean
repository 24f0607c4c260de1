import Milp.Proofs.Engine.Accepted
import Milp.Proofs.Native.Addition
import Milp.Proofs.Native.Problem
import Milp.Proofs.Nearest
set_option autoImplicit false

/-! # What additions tell an instance

An addition that goes through tells an instance of the native solver columns with the bounds of binary
ones cut to 0 and 1 (`Engine.conveys_addNativeColumn`, `Engine.conveys_addNativeColumns`), and rows as
they are stored (`Engine.conveys_addNativeRow`, `Engine.conveys_addNativeRows`). A batch of rows is
passed on as it comes, and stored row by row; both are read from the same positions in the same
way. -/

namespace Milp

open Milp.Action

/-! ## Columns and rows of an engine -/

namespace Column

/-- What a problem says of a column as it is stored. -/
def span (c : Column) : Span := ⟨c.lower.place?, c.upper.place?, decide (c.kind ≠ .continuous)⟩

/-- The same before it is said which columns are integer. -/
def bareSpan (c : Column) : Span := { c.span with integer := false }

/-- A column with the bounds that the native solver gets for it. -/
def cut (c : Column) : Column := { c with lower := c.nativeBounds.1, upper := c.nativeBounds.2 }

theorem bareSpan_of_continuous {c : Column} (h : c.kind = .continuous) : c.bareSpan = c.span := by
  rw [bareSpan, span, h]
  rfl

end Column

/-- What a problem says of a row as it is stored. -/
def Row.native (r : Row) : Except Fault NativeRow := do
  let indices ← r.indices.mapM Engine.arrayPosition
  return { lower := (r.sense.sides r.bound).1, upper := (r.sense.sides r.bound).2,
           terms := indices.zip r.values }

/-- The problem that stored columns and rows make up. -/
def storedProblem (columns : List Column) (rows : List Row) : Except Fault Problem :=
  return { columns := columns.map Column.span, rows := ← rows.mapM Row.native }

theorem storedProblem_addColumns {columns : List Column} {rows : List Row} {p : Problem}
    (h : storedProblem columns rows = .ok p) (cs : List Column) :
    storedProblem (columns ++ cs) rows = .ok (p.addColumns (cs.map Column.span)) := by
  obtain ⟨rs, hrs, hp⟩ := bind_eq_ok_iff.1 h
  cases hp
  rw [storedProblem, hrs, List.map_append]
  rfl

theorem storedProblem_addRows {columns : List Column} {rows rs : List Row} {p : Problem}
    {ns : List NativeRow} (h : storedProblem columns rows = .ok p)
    (hrs : rs.mapM Row.native = .ok ns) :
    storedProblem columns (rows ++ rs) = .ok (p.addRows ns) := by
  obtain ⟨ms, hms, hp⟩ := bind_eq_ok_iff.1 h
  cases hp
  rw [storedProblem, mapM_append_eq_ok hms hrs]
  rfl

/-- Marking the columns that are not continuous says everything of columns that were added last. -/
theorem Problem.mark_discrete (p : Problem) (cs : List Column) {positions : List Int}
    (hpositions : ∀ n, n ∈ positions ↔ ∃ k, ∃ h : k < (cs.map (·.kind)).length,
      n = (p.columns.length + k : Nat) ∧ (cs.map (·.kind))[k] ≠ .continuous) :
    (p.addColumns (cs.map Column.bareSpan)).mark positions =
      p.addColumns (cs.map Column.span) := by
  have hmark (c : Column) : (if c.kind = .continuous then c.bareSpan
      else { c.bareSpan with integer := true }) = c.span := by
    unfold Column.bareSpan Column.span
    cases c.kind <;> rfl
  rw [addColumns, mark, NativeModel.changeAt_discrete _ _ (by simp) hpositions, List.zipWith_map,
    List.zipWith_self, List.map_congr_left fun c _ => hmark c, addColumns]

/-! ## Actions that go through -/

namespace Engine

/-- If an action goes through, an instance that was told one problem has then been told another, and
the engine is as it was. -/
def Conveys (i : Nat) (p q : Problem) (x : Acting Bool) : Prop :=
  ∀ ⦃earlier : List AnsweredCall⦄ ⦃e : Engine⦄ ⦃w : Surroundings⦄ ⦃t : Engine × Surroundings⦄,
    e.backend = .native (some i) → Heard i earlier p w.solver → x.perform (e, w) = (.ok true, t) →
      ∃ v, t = (e, v) ∧ Heard i earlier q v.solver

namespace Conveys

variable {i : Nat} {p q r : Problem}

theorem of_succeeds {c : SolverCall} (hc : c.Turns p q) : Conveys i p q (succeeds c) := by
  intro earlier e w t hi h hperform
  have hx : (succeeds c).perform (e, w) = (.ok (decide ((w.solver.call i c).1 ≠ .error)), e,
      { w with solver := (w.solver.call i c).2 }) := by
    rw [succeeds, perform_bind_of_ok (perform_callSolver_of_backend c hi)]
    rfl
  obtain ⟨hreply, ht⟩ := Prod.mk.inj (hx.symm.trans hperform)
  exact ⟨_, ht.symm, h.call hc (of_decide_eq_true (Except.ok.inj hreply))⟩

theorem nothing : Conveys i p p (pure true) := by
  intro earlier e w t _ h hperform
  cases hperform
  exact ⟨w, rfl, h⟩

/-- What comes after something that has gone through goes on from there. -/
theorem and_then {x y z : Acting Bool} (hx : Conveys i p q x) (hy : Conveys i q r y)
    (hz : ∀ s t, z.perform s ≠ (.ok true, t)) : Conveys i p r (do if ← x then y else z) := by
  intro earlier e w t hi h hperform
  obtain ⟨b, s, hb, hperform⟩ := of_perform_bind hperform
  cases b
  · exact absurd hperform (hz s t)
  · obtain ⟨v, rfl, hv⟩ := hx hi h hb
    exact hy hi hv hperform

theorem not_true (s t : Engine × Surroundings) :
    (pure false : Acting Bool).perform s ≠ (.ok true, t) := fun h => nomatch h

theorem from_instance {f : SolverInstance → Acting Bool}
    (h : ∀ x : SolverInstance, x.columns = p.columns.length → x.rows = p.rows.length →
      Conveys i p q (f x)) : Conveys i p q (solverInstance >>= f) := by
  intro earlier e w t hi hheard hperform
  obtain ⟨x, s, hx, hperform⟩ := of_perform_bind hperform
  rw [perform_solverInstance, hi] at hx
  cases hx
  exact h _ hheard.columns hheard.rows hi hheard hperform

theorem of_ofExcept {α : Type} {y : Except Failure α} {f : α → Acting Bool}
    (h : ∀ a, y = .ok a → Conveys i p q (f a)) : Conveys i p q (Action.ofExcept y >>= f) := by
  intro earlier e w t hi hheard hperform
  obtain ⟨a, ha, hperform⟩ := of_ofExcept_bind hperform
  exact h a ha hi hheard hperform

theorem of_ofFault {α : Type} {y : Except Fault α} {f : α → Acting Bool}
    (h : ∀ a, y = .ok a → Conveys i p q (f a)) : Conveys i p q (Action.ofFault y >>= f) := by
  intro earlier e w t hi hheard hperform
  obtain ⟨a, ha, hperform⟩ := of_ofFault_bind hperform
  exact h a ha hi hheard hperform

theorem from_state {f : Engine × Surroundings → Acting Bool} (h : ∀ s, Conveys i p q (f s)) :
    Conveys i p q (get >>= f) :=
  fun _ e w _ hi hheard hperform => h (e, w) hi hheard hperform

/-- Names have no part in a problem. -/
theorem of_passNames {call : Int → String → SolverCall} (hcall : ∀ n name, (call n name).Turns p p)
    (position : Int) (names : List Value) : Conveys i p p (passNames call position names) := by
  induction names generalizing position with
  | nil => exact nothing
  | cons name rest ih =>
    have hnamed (view : View) : Conveys i p p (do
        if ← succeeds (call position (name.display view)) then passNames call (position + 1) rest
        else return false) := and_then (of_succeeds (hcall _ _)) (ih _) not_true
    rw [passNames.eq_def]
    split
    · cases ‹_ :: _ = _›
    · cases ‹_ :: _ = _›
      exact ih _
    · cases ‹_ :: _ = _›
      exact from_state fun ⟨_, w⟩ => hnamed w.view

theorem of_describeColumns {marking : Option SolverCall} (hnone : marking = none → q = p)
    (hsome : ∀ call, marking = some call → call.Turns p q) (first : Int) (names : List Value) :
    Conveys i p q (describeColumns marking first names) := by
  have hnames : Conveys i q q (passNames .nameColumn first names) :=
    of_passNames (SolverCall.turns_nameColumn q) first names
  cases marking with
  | none =>
    rw [hnone rfl] at hnames ⊢
    exact hnames
  | some call => exact and_then (of_succeeds (hsome call rfl)) hnames not_true

theorem of_addAndDescribe {addition undo : SolverCall} {description : Acting Bool}
    (hadd : addition.Turns p q) (hdescription : Conveys i q r description) :
    Conveys i p r (addAndDescribe addition undo description) := by
  have hundone (s t : Engine × Surroundings) :
      (do let _ ← callSolver undo; return false : Acting Bool).perform s ≠ (.ok true, t) := by
    intro h
    obtain ⟨_, _, -, h⟩ := of_perform_bind h
    cases h
  have hdescribed : Conveys i q r (do
      if ← description then return true
      let _ ← callSolver undo
      return false) := and_then hdescription nothing hundone
  exact and_then (of_succeeds hadd) hdescribed not_true

end Conveys

/-! ## Reading what is passed on -/

theorem toDouble_ite {v : Value} {x y : Double} (hv : v.toDouble = .ok y) (r : Bool) :
    (if r then Value.float x else v).toDouble = .ok (if r then x else y) := by
  cases r
  · exact hv
  · rfl

/-- The bounds that the native solver gets are where those of the stored column are, once they are
cut. -/
theorem columnSides_cut {c : Column} {lower upper l u : Value} (hlower : lower.toDouble = .ok c.lower)
    (hupper : upper.toDouble = .ok c.upper) (h : columnSides c.kind lower upper = .ok (l, u)) :
    ∃ a b, l.toDouble = .ok a ∧ u.toDouble = .ok b ∧ a.place? = c.nativeBounds.1.place? ∧
      b.place? = c.nativeBounds.2.place? := by
  unfold Column.nativeBounds
  unfold columnSides at h
  cases hk : c.kind with
  | continuous | integer =>
    rw [hk] at h
    cases h
    exact ⟨_, _, hlower, hupper, rfl, rfl⟩
  | binary =>
    rw [hk] at h
    obtain ⟨below, hbelow, h⟩ := bind_eq_ok_iff.1 h
    obtain ⟨above, habove, h⟩ := bind_eq_ok_iff.1 h
    cases h
    refine ⟨_, _, toDouble_ite hlower below, toDouble_ite hupper above, ?_, ?_⟩
    · dsimp only
      rcases Value.decided_below_zero hlower hbelow with hanswer | ⟨hanswer, hplace⟩
      · rw [hanswer]
      · rw [if_pos hanswer]
        split
        · rfl
        · exact hplace.symm
    · dsimp only
      rcases Value.decided_above_one hupper habove with hanswer | ⟨hanswer, hplace⟩
      · rw [hanswer]
      · rw [if_pos hanswer]
        split
        · rfl
        · exact hplace

theorem arrayElement_of_toDouble {v : Value} {x : Double} (h : v.toDouble = .ok x) :
    arrayElement v = .ok x := by
  cases v with
  | nothing => cases h
  | _ => exact h

theorem eq_of_arrayElement {v : Value} {x y : Double} (hx : v.toDouble = .ok x)
    (hy : arrayElement v = .ok y) : y = x :=
  Except.ok.inj (hy.symm.trans (arrayElement_of_toDouble hx))

theorem mapM_of_inArray {α : Type} {number : Value → Except Fault α} {vs : List Value} {xs : List α}
    (h : inArray number vs = .ok xs) : vs.mapM number = .ok xs := by
  obtain ⟨_, -, h⟩ := bind_eq_ok_iff.1 h
  split at h
  · cases h
  · exact h

theorem of_columnOf {objective lower upper name : Value} {kind : VarKind} {c : Column}
    (h : columnOf objective lower upper kind name = .ok c) :
    objective.toDouble = .ok c.objective ∧ lower.toDouble = .ok c.lower ∧
      upper.toDouble = .ok c.upper ∧ c.kind = kind := by
  obtain ⟨o, ho, h⟩ := bind_eq_ok_iff.1 h
  obtain ⟨l, hl, h⟩ := bind_eq_ok_iff.1 h
  obtain ⟨u, hu, h⟩ := bind_eq_ok_iff.1 h
  cases h
  exact ⟨ho, hl, hu, rfl⟩

/-! ## Columns -/

/-- Columns that were added last are marked as they should be. -/
theorem turns_markColumns {p : Problem} {cs : List Column} {call : SolverCall}
    (h : markColumns p.columns.length (cs.map (·.kind)) = some call) :
    call.Turns (p.addColumns (cs.map Column.bareSpan)) (p.addColumns (cs.map Column.span)) := by
  simp only [markColumns] at h
  split at h
  · cases h
  · cases h
    rw [← p.mark_discrete cs fun _ => mem_discrete _ _]
    exact SolverCall.turns_setIntegers _ _

theorem turns_markColumn {p : Problem} {c : Column} {call : SolverCall}
    (h : markColumn p.columns.length c.kind = some call) :
    call.Turns (p.addColumns [c.bareSpan]) (p.addColumns [c.span]) := by
  rw [markColumn] at h
  split at h
  · cases h
  · rename_i hkind
    cases h
    have hmark : (p.addColumns [c.bareSpan]).mark [(p.columns.length : Int)] =
        p.addColumns [c.span] := by
      refine p.mark_discrete [c] fun n => ?_
      rw [List.mem_singleton]
      constructor
      · rintro rfl
        exact ⟨0, Nat.one_pos, rfl, hkind⟩
      · rintro ⟨k, hk, rfl, -⟩
        obtain rfl : k = 0 := Nat.lt_one_iff.1 hk
        rfl
    rw [← hmark]
    exact SolverCall.turns_setInteger _ _

theorem conveys_describeColumns {i : Nat} {p : Problem} (cs : List Column)
    {marking : Option SolverCall} (hnone : marking = none → ∀ c ∈ cs, c.kind = .continuous)
    (hsome : ∀ call, marking = some call →
      call.Turns (p.addColumns (cs.map Column.bareSpan)) (p.addColumns (cs.map Column.span)))
    (first : Int) (names : List Value) :
    Conveys i (p.addColumns (cs.map Column.bareSpan)) (p.addColumns (cs.map Column.span))
      (describeColumns marking first names) := by
  refine .of_describeColumns (fun h => ?_) hsome first names
  rw [List.map_congr_left fun c hc => Column.bareSpan_of_continuous (hnone h c hc)]

theorem conveys_addNativeColumn {i : Nat} {p : Problem} {objective lower upper name : Value}
    {kind : VarKind} {c : Column} (hc : columnOf objective lower upper kind name = .ok c) :
    Conveys i p (p.addColumns [c.cut.span]) (addNativeColumn objective lower upper kind name) := by
  obtain ⟨-, hlower, hupper, rfl⟩ := of_columnOf hc
  refine .from_instance fun x hcolumns _ => .of_ofExcept fun sides hsides =>
    .of_ofFault fun call hcall => ?_
  obtain ⟨o, -, hcall⟩ := bind_eq_ok_iff.1 hcall
  obtain ⟨a, ha, hcall⟩ := bind_eq_ok_iff.1 hcall
  obtain ⟨b, hb, hcall⟩ := bind_eq_ok_iff.1 hcall
  cases hcall
  obtain ⟨a', b', ha', hb', hlowerPlace, hupperPlace⟩ := columnSides_cut hlower hupper hsides
  cases ha.symm.trans ha'
  cases hb.symm.trans hb'
  have hbare : (⟨a.place?, b.place?, false⟩ : Span) = c.cut.bareSpan := by
    rw [hlowerPlace, hupperPlace]
    rfl
  have hadd := SolverCall.turns_addColumn p o a b
  rw [hbare] at hadd
  refine .of_addAndDescribe hadd (conveys_describeColumns [c.cut] (fun hnone d hd => ?_)
    (fun call hsome => ?_) _ _)
  · rw [List.mem_singleton.1 hd]
    exact markColumn_none hnone
  · rw [hcolumns] at hsome
    exact turns_markColumn hsome

/-- What the native solver is told of the columns of a batch is what is stored of them, once their
bounds are cut. -/
theorem spans_columnsOf {os ls us ns : List Value} {ks : List VarKind} {cs : List Column}
    {sides : List (Value × Value)} {objectives lowers uppers : List Double}
    (hos : os.length = ks.length) (hls : ls.length = ks.length) (hus : us.length = ks.length)
    (hns : ns.length = ks.length)
    (hcs : (columnData os ls us ks ns).mapM ColumnData.column = .ok cs)
    (hsides : (ks.zip (ls.zip us)).mapM (fun (k, l, u) => columnSides k l u) = .ok sides)
    (hobjectives : os.mapM arrayElement = .ok objectives)
    (hlowers : (sides.map Prod.fst).mapM arrayElement = .ok lowers)
    (huppers : (sides.map Prod.snd).mapM arrayElement = .ok uppers) :
    (NativeModel.columnsOf objectives lowers uppers).map NativeColumn.span =
      (cs.map Column.cut).map Column.bareSpan ∧ cs.map (·.kind) = ks := by
  induction ks generalizing os ls us ns cs sides objectives lowers uppers with
  | nil =>
    cases List.length_eq_zero_iff.1 hos
    cases hcs
    cases hobjectives
    exact ⟨rfl, rfl⟩
  | cons k rest ih =>
    obtain ⟨o, os, rfl⟩ := List.exists_cons_of_length_eq_add_one hos
    obtain ⟨l, ls, rfl⟩ := List.exists_cons_of_length_eq_add_one hls
    obtain ⟨u, us, rfl⟩ := List.exists_cons_of_length_eq_add_one hus
    obtain ⟨m, ns, rfl⟩ := List.exists_cons_of_length_eq_add_one hns
    obtain ⟨c, cs', hc, hcs', rfl⟩ := of_mapM_cons hcs
    obtain ⟨side, sides', hside, hsides', rfl⟩ := of_mapM_cons hsides
    obtain ⟨x, objectives', -, hobjectives', rfl⟩ := of_mapM_cons hobjectives
    obtain ⟨a, lowers', ha, hlowers', rfl⟩ := of_mapM_cons hlowers
    obtain ⟨b, uppers', hb, huppers', rfl⟩ := of_mapM_cons huppers
    obtain ⟨hspans, hkinds⟩ := ih (Nat.succ.inj hos) (Nat.succ.inj hls) (Nat.succ.inj hus)
      (Nat.succ.inj hns) hcs' hsides' hobjectives' hlowers' huppers'
    obtain ⟨-, hlower, hupper, rfl⟩ := of_columnOf hc
    obtain ⟨a', b', ha', hb', hlowerPlace, hupperPlace⟩ := columnSides_cut hlower hupper hside
    cases eq_of_arrayElement ha' ha
    cases eq_of_arrayElement hb' hb
    have hhead : (⟨a.place?, b.place?, false⟩ : Span) = c.cut.bareSpan := by
      rw [hlowerPlace, hupperPlace]
      rfl
    exact ⟨congrArg₂ List.cons hhead hspans, congrArg (List.cons _) hkinds⟩

theorem conveys_addNativeColumns {i : Nat} {p : Problem} {os ls us ns : List Value}
    {ks : List VarKind} {cs : List Column} (hos : os.length = ks.length)
    (hls : ls.length = ks.length) (hus : us.length = ks.length) (hns : ns.length = ks.length)
    (hcs : (columnData os ls us ks ns).mapM ColumnData.column = .ok cs) :
    Conveys i p (p.addColumns ((cs.map Column.cut).map Column.span))
      (addNativeColumns os ls us ks ns) := by
  refine .from_instance fun x hcolumns _ => .of_ofExcept fun sides hsides =>
    .of_ofFault fun call hcall => ?_
  obtain ⟨objectives, hobjectives, hcall⟩ := bind_eq_ok_iff.1 hcall
  obtain ⟨lowers, hlowers, hcall⟩ := bind_eq_ok_iff.1 hcall
  obtain ⟨uppers, huppers, hcall⟩ := bind_eq_ok_iff.1 hcall
  cases hcall
  obtain ⟨hspans, hkinds⟩ := spans_columnsOf hos hls hus hns hcs hsides
    (mapM_of_inArray hobjectives) (mapM_of_inArray hlowers) (mapM_of_inArray huppers)
  have hkinds' : ks = (cs.map Column.cut).map (·.kind) := by
    rw [List.map_map, ← hkinds]
    rfl
  refine .of_addAndDescribe (SolverCall.turns_addColumns p hspans ?_)
    (conveys_describeColumns (cs.map Column.cut) (fun hnone => ?_) (fun call hsome => ?_) _ _)
  · have hlength := (mapM_eq_ok_iff.1 (mapM_of_inArray hobjectives)).length_eq
    rw [List.length_map, List.length_map, ← hlength, hos, ← hkinds, List.length_map]
  · rw [hkinds'] at hnone
    exact markColumns_none hnone
  · rw [hkinds', hcolumns] at hsome
    exact turns_markColumns hsome

/-! ## Rows -/

/-- A position in a sequence is the same position in an array. -/
theorem arrayPosition_of_toIndex {v : Value} {k : Int} (h : v.toIndex = .ok k) :
    arrayPosition v = .ok k := by
  cases v with
  | number x =>
    cases x with
    | item e | cell e =>
      cases e with
      | signed n | unsigned n => exact h
      | _ => cases h
    | truth b | int n | refusal c => exact h
    | _ => cases h
  | _ => cases h

/-- The sides of a row are read as those of its bound. -/
theorem rowSides_toDouble (s : Sense) {bound : Value} {b : Double} (h : bound.toDouble = .ok b) :
    (rowSides s bound).1.toDouble = .ok (s.sides b).1 ∧
      (rowSides s bound).2.toDouble = .ok (s.sides b).2 := by
  cases s with
  | atMost => exact ⟨rfl, h⟩
  | atLeast => exact ⟨h, rfl⟩
  | equal => exact ⟨h, h⟩

theorem mapM_arrayElement {vs : List Value} {xs : List Double}
    (h : vs.mapM Value.toDouble = .ok xs) : vs.mapM arrayElement = .ok xs :=
  mapM_eq_ok_iff.2 ((mapM_eq_ok_iff.1 h).imp fun _ _ => arrayElement_of_toDouble)

/-- What a problem says of a row, from what is stored of it. -/
theorem native_of_reads {r : Row} {n : NativeRow} {vs : List Value} {indices : List Int}
    {values : List Double} (hn : r.native = .ok n) (hvs : vs.mapM Value.toDouble = .ok r.values)
    (hindices : r.indices.mapM arrayPosition = .ok indices)
    (hvalues : vs.mapM arrayElement = .ok values) :
    n = { lower := (r.sense.sides r.bound).1, upper := (r.sense.sides r.bound).2,
          terms := indices.zip values } := by
  obtain ⟨is, his, hn⟩ := bind_eq_ok_iff.1 hn
  cases his.symm.trans hindices
  cases (mapM_arrayElement hvs).symm.trans hvalues
  exact (Except.ok.inj hn).symm

theorem conveys_addNativeRow {i : Nat} {p : Problem} {is vs : List Value} {sense : Sense}
    {bound name : Value} {r : Row} {n : NativeRow} (hr : rowOf is vs sense bound name = .ok r)
    (hn : r.native = .ok n) :
    Conveys i p (p.addRows [n]) (addNativeRow is vs sense bound name) := by
  obtain ⟨rfl, hvs, rfl, hbound⟩ := of_rowOf hr
  refine .from_instance fun x _ _ => .of_ofFault fun call hcall => ?_
  obtain ⟨indices, hindices, hcall⟩ := bind_eq_ok_iff.1 hcall
  obtain ⟨values, hvalues, hcall⟩ := bind_eq_ok_iff.1 hcall
  obtain ⟨lower, hlower, hcall⟩ := bind_eq_ok_iff.1 hcall
  obtain ⟨upper, hupper, hcall⟩ := bind_eq_ok_iff.1 hcall
  cases hcall
  obtain ⟨hsides, hsides'⟩ := rowSides_toDouble r.sense hbound
  cases hlower.symm.trans hsides
  cases hupper.symm.trans hsides'
  rw [native_of_reads hn hvs (mapM_of_inArray hindices) (mapM_of_inArray hvalues)]
  exact .of_addAndDescribe (SolverCall.turns_addRow p _ _ _ _)
    (.of_passNames (SolverCall.turns_nameRow _) _ _)

/-- The elements between two positions, read one by one, are those between them once all are
read. -/
theorem mapM_slice {ε α β : Type} {f : α → Except ε β} {xs : List α} {ys : List β}
    (h : xs.mapM f = .ok ys) (a n : Nat) :
    ((xs.drop a).take n).mapM f = .ok ((ys.drop a).take n) :=
  mapM_eq_ok_iff.2 (List.forall₂_take n (List.forall₂_drop a (mapM_eq_ok_iff.1 h)))

/-- What is stored of a row of a batch is told between its start and its end. -/
theorem native_of_batch {d : RowData} {is vs : List Value} {r : Row} {n : NativeRow}
    {start : Int} {lower upper : Double} {indices : List Int} {values : List Double}
    (hr : d.row is vs = .ok r) (hn : r.native = .ok n)
    (hindices : is.mapM arrayPosition = .ok indices) (hvalues : vs.mapM arrayElement = .ok values)
    (hstart : arrayPosition d.start = .ok start)
    (hlower : arrayElement (rowSides d.sense d.bound).1 = .ok lower)
    (hupper : arrayElement (rowSides d.sense d.bound).2 = .ok upper) :
    ∃ stop, d.stop.toIndex = .ok stop ∧
      n = { lower, upper,
            terms := ((indices.zip values).drop start.toNat).take (stop - start).toNat } := by
  obtain ⟨a, z, ha, hz, hkept, hread, hsense, hbound⟩ := of_row hr
  obtain rfl : start = a := Except.ok.inj (hstart.symm.trans (arrayPosition_of_toIndex ha))
  rw [← hsense] at hlower hupper
  obtain ⟨hsides, hsides'⟩ := rowSides_toDouble r.sense hbound
  cases eq_of_arrayElement hsides hlower
  cases eq_of_arrayElement hsides' hupper
  have hslice := mapM_slice hindices start.toNat (z - start).toNat
  rw [← hkept] at hslice
  refine ⟨z, hz, ?_⟩
  rw [native_of_reads hn hread hslice (mapM_slice hvalues start.toNat (z - start).toNat), List.zip,
    List.drop_zipWith, List.take_zipWith]

/-- What the native solver is told of the rows of a batch is what is stored of them. -/
theorem rowsOf_batch {bs is vs us names : List Value} {size : Value} {ss : List Sense}
    {rs : List Row} {ns : List NativeRow} {lowers uppers values : List Double}
    {begins indices : List Int} (hbs : bs.length = ss.length) (hus : us.length = ss.length)
    (hnames : names.length = ss.length)
    (hsize : ∀ k, size.toIndex = .ok k → ((indices.zip values).length : Int) = k)
    (hrs : (rowData (parts bs size) ss us names).mapM (RowData.row · is vs) = .ok rs)
    (hns : rs.mapM Row.native = .ok ns)
    (hlowers : (((ss.zip us).map fun (s, b) => rowSides s b).map Prod.fst).mapM arrayElement =
      .ok lowers)
    (huppers : (((ss.zip us).map fun (s, b) => rowSides s b).map Prod.snd).mapM arrayElement =
      .ok uppers)
    (hbegins : bs.mapM arrayPosition = .ok begins)
    (hindices : is.mapM arrayPosition = .ok indices)
    (hvalues : vs.mapM arrayElement = .ok values) :
    NativeModel.rowsOf (indices.zip values) (lowers.zip uppers) begins = ns := by
  induction ss generalizing bs us names rs ns lowers uppers begins with
  | nil =>
    cases List.length_eq_zero_iff.1 hbs
    cases hrs
    cases hns
    cases hlowers
    rfl
  | cons s rest ih =>
    obtain ⟨b, bs', rfl⟩ := List.exists_cons_of_length_eq_add_one hbs
    obtain ⟨u, us', rfl⟩ := List.exists_cons_of_length_eq_add_one hus
    obtain ⟨m, names', rfl⟩ := List.exists_cons_of_length_eq_add_one hnames
    rw [parts_cons] at hrs
    obtain ⟨r, rs', hr, hrs', rfl⟩ := of_mapM_cons hrs
    obtain ⟨n, ns', hn, hns', rfl⟩ := of_mapM_cons hns
    obtain ⟨lower, lowers', hlower, hlowers', rfl⟩ := of_mapM_cons hlowers
    obtain ⟨upper, uppers', hupper, huppers', rfl⟩ := of_mapM_cons huppers
    obtain ⟨start, begins', hstart, hbegins', rfl⟩ := of_mapM_cons hbegins
    have hrest := ih (Nat.succ.inj hbs) (Nat.succ.inj hus) (Nat.succ.inj hnames) hrs' hns' hlowers'
      huppers' hbegins'
    obtain ⟨z, hz, rfl⟩ := native_of_batch hr hn hindices hvalues hstart hlower hupper
    -- a row stops where the next one starts, and the last one at the end of all terms
    have hstop : begins'.headD (indices.zip values).length = z := by
      cases bs' with
      | nil =>
        cases hbegins'
        exact hsize z hz
      | cons b' _ =>
        obtain ⟨next, _, hnext, -, rfl⟩ := of_mapM_cons hbegins'
        exact Except.ok.inj (hnext.symm.trans (arrayPosition_of_toIndex hz))
    show NativeModel.rowsOf _ (_ :: lowers'.zip uppers') (start :: begins') = _
    rw [NativeModel.rowsOf, hstop, hrest]

theorem conveys_addNativeRows {i : Nat} {p : Problem} {bs is vs us names : List Value}
    {size : Value} {ss : List Sense} {rs : List Row} {ns : List NativeRow}
    (hbs : bs.length = ss.length) (hus : us.length = ss.length) (hnames : names.length = ss.length)
    (hsize : ∀ k, size.toIndex = .ok k → (is.length : Int) = k ∧ (vs.length : Int) = k)
    (hrs : (rowData (parts bs size) ss us names).mapM (RowData.row · is vs) = .ok rs)
    (hns : rs.mapM Row.native = .ok ns) :
    Conveys i p (p.addRows ns) (addNativeRows bs is vs ss us names) := by
  refine .from_instance fun x _ _ => .of_ofFault fun call hcall => ?_
  obtain ⟨lowers, hlowers, hcall⟩ := bind_eq_ok_iff.1 hcall
  obtain ⟨uppers, huppers, hcall⟩ := bind_eq_ok_iff.1 hcall
  obtain ⟨begins, hbegins, hcall⟩ := bind_eq_ok_iff.1 hcall
  obtain ⟨indices, hindices, hcall⟩ := bind_eq_ok_iff.1 hcall
  obtain ⟨values, hvalues, hcall⟩ := bind_eq_ok_iff.1 hcall
  cases hcall
  have hterms (k : Int) (hk : size.toIndex = .ok k) : ((indices.zip values).length : Int) = k := by
    obtain ⟨hindicesLength, hvaluesLength⟩ := hsize k hk
    have hi := (mapM_eq_ok_iff.1 (mapM_of_inArray hindices)).length_eq
    have hv := (mapM_eq_ok_iff.1 (mapM_of_inArray hvalues)).length_eq
    rw [List.length_zip]
    omega
  have hrows := rowsOf_batch hbs hus hnames hterms hrs hns (mapM_of_inArray hlowers)
    (mapM_of_inArray huppers) (mapM_of_inArray hbegins) (mapM_of_inArray hindices)
    (mapM_of_inArray hvalues)
  refine .of_addAndDescribe (SolverCall.turns_addRows p hrows (fun n hn => ?_) ?_)
    (.of_passNames (SolverCall.turns_nameRow _) _ _)
  · obtain ⟨r, -, hr⟩ := exists_of_mapM hns hn
    obtain ⟨_, -, hr⟩ := bind_eq_ok_iff.1 hr
    cases hr
    rfl
  · have hdata := length_rowData ((length_parts bs size).trans hbs) rfl hus hnames
    rw [← (mapM_eq_ok_iff.1 hns).length_eq, ← (mapM_eq_ok_iff.1 hrs).length_eq, hdata,
      ← (mapM_eq_ok_iff.1 (mapM_of_inArray hlowers)).length_eq]
    simp [hus]

end Engine

end Milp

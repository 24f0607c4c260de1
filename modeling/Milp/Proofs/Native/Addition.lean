import Milp.Proofs.Model.Image
import Milp.Proofs.Native.Trace
import Milp.Proofs.Variable
set_option autoImplicit false

/-! # Additions to the native solver

What the native solver gets for columns and rows, and that each of the four ways in which an engine
passes additions on gives it exactly that, or nothing. -/

namespace Milp

open Milp.Action Engine

/-! ## Columns -/

/-- The bounds that the native solver gets for a column: those of a binary one are cut to 0 and
1. -/
def Column.nativeBounds (c : Column) : Double × Double :=
  match c.kind with
  | .binary =>
    (if c.lower.lt Double.zero then Double.zero else c.lower,
      if Double.one.lt c.upper then Double.one else c.upper)
  | _ => (c.lower, c.upper)

namespace NativeColumn

/-- A column before anything is said about it. -/
def bare (c : Column) : NativeColumn :=
  { objective := c.objective, lower := c.nativeBounds.1, upper := c.nativeBounds.2 }

/-- A column once it is said whether it is integer. -/
def marked (c : Column) : NativeColumn := { bare c with integer := decide (c.kind ≠ .continuous) }

/-- What the native solver has for a column. -/
def of (c : Column) : NativeColumn := { marked c with name := c.name.text? }

end NativeColumn

theorem Value.text?_ofName (name : Option String) : (Value.ofName name).text? = name := by
  cases name <;> rfl

/-! ## Arguments -/

namespace Engine

/-- Values of which none is a sequence are read one by one. -/
theorem inArray_of_forall {α : Type} {number : Value → Except Fault α} {vs : List Value}
    (h : ∀ v ∈ vs, v.isLine = false) : inArray number vs = vs.mapM number := by
  have hnone : vs.filter Value.isLine = [] :=
    List.filter_eq_nil_iff.2 fun v hv => by rw [h v hv]; exact Bool.false_ne_true
  have hany : vs.any Value.isLine = false := by
    rw [List.any_eq_false]
    exact fun v hv => by rw [h v hv]; exact Bool.false_ne_true
  rw [inArray, hnone, hany]
  rfl

theorem inArray_map {α β : Type} (number : Value → Except Fault α) {value : β → Value} {k : β → α}
    (hline : ∀ x, (value x).isLine = false) (hnumber : ∀ x, number (value x) = .ok (k x))
    (xs : List β) : inArray number (xs.map value) = .ok (xs.map k) := by
  rw [inArray_of_forall]
  · exact mapM_map_eq_ok hnumber xs
  · intro v hv
    obtain ⟨x, -, rfl⟩ := List.mem_map.1 hv
    exact hline x

theorem columnSides_floats (c : Column) : columnSides c.kind (.float c.lower) (.float c.upper) =
    .ok (.float c.nativeBounds.1, .float c.nativeBounds.2) := by
  unfold columnSides Column.nativeBounds
  cases c.kind with
  | continuous | integer => rfl
  | binary =>
    dsimp only
    rw [Value.holds_below_float, Value.holds_below_float]
    simp only [bind, Except.bind, pure, Except.pure, apply_ite Value.float]

end Engine

/-! ## Bounds of variables -/

theorem Engine.columnSides_isBinary {x y : Number} (hx : x.IsBinary) (hy : y.IsBinary) :
    columnSides .binary (.number x) (.number y) = .ok (.number x, .number y) := by
  have hlower : x.lt (.float Double.zero) = .ok false := by
    rcases hx with rfl | rfl <;> decide +kernel
  have hupper : Number.lt (.float Double.one) y = .ok false := by
    rcases hy with rfl | rfl <;> decide +kernel
  unfold columnSides
  dsimp only [Value.float]
  rw [Value.holds_below_numbers, Value.holds_below_numbers, hlower, hupper]
  rfl

/-- The bounds of binary variables are not cut. -/
theorem Number.IsBinary.not_lt {x : Number} (hx : x.IsBinary) {a : Double}
    (ha : x.toDouble = .ok a) : a.lt Double.zero = false ∧ Double.one.lt a = false := by
  have hzero : Number.toDouble (.int 0) = .ok (Double.ofInt 0) := by decide +kernel
  have hone : Number.toDouble (.int 1) = .ok (Double.ofInt 1) := by decide +kernel
  rcases hx with rfl | rfl
  · rw [← Except.ok.inj (hzero.symm.trans ha)]
    decide +kernel
  · rw [← Except.ok.inj (hone.symm.trans ha)]
    decide +kernel

/-- What the native solver gets for a variable is what it has for its column. -/
theorem Var.Built.nativeBounds {v : Var} (hv : v.Built) {l u : Value} {a b : Double}
    (h : Engine.columnSides v.kind (.number v.lower) (.number v.upper) = .ok (l, u))
    (ha : l.toDouble = .ok a) (hb : u.toDouble = .ok b) :
    ∃ c, v.column = .ok c ∧ c.objective = v.objective ∧ c.nativeBounds = (a, b) := by
  have hsides : l = .number v.lower ∧ u = .number v.upper := by
    cases hk : v.kind with
    | continuous | integer =>
      rw [hk] at h
      cases h
      exact ⟨rfl, rfl⟩
    | binary =>
      rw [hk, Engine.columnSides_isBinary (hv.binary hk).1 (hv.binary hk).2] at h
      cases h
      exact ⟨rfl, rfl⟩
  obtain ⟨rfl, rfl⟩ := hsides
  change v.lower.toDouble = .ok a at ha
  change v.upper.toDouble = .ok b at hb
  refine ⟨⟨v.objective, a, b, v.kind, .ofName v.name⟩, ?_, rfl, ?_⟩
  · rw [Var.column, ha, hb]
    rfl
  · unfold Column.nativeBounds
    cases hk : v.kind with
    | continuous | integer => rfl
    | binary =>
      have hlower := ((hv.binary hk).1.not_lt ha).1
      have hupper := ((hv.binary hk).2.not_lt hb).2
      simp only [hlower, hupper, Bool.false_eq_true, if_false]

/-! ## Marking columns -/

/-- The positions that are marked are those of the columns that are not continuous. -/
theorem mem_discrete (first : Nat) (kinds : List VarKind) {p : Int} :
    p ∈ ((positionsFrom first kinds.length).zip kinds).filterMap (fun (i, k) =>
      if k = .continuous then none else some i) ↔
      ∃ k, ∃ h : k < kinds.length, p = (first + k : Nat) ∧ kinds[k] ≠ .continuous := by
  rw [List.mem_filterMap]
  constructor
  · rintro ⟨⟨i, kind⟩, hmem, hi⟩
    obtain ⟨k, hk, hget⟩ := List.mem_iff_getElem.1 hmem
    have hk' : k < kinds.length := by
      rw [List.length_zip] at hk
      omega
    rw [List.getElem_zip] at hget
    obtain ⟨rfl, rfl⟩ := Prod.mk.inj hget
    -- a position is kept if and only if its kind is not continuous
    by_cases hc : kinds[k] = .continuous
    · simp [hc] at hi
    · refine ⟨k, hk', ?_, hc⟩
      simp only [hc, if_false, Option.some.injEq] at hi
      simpa [positionsFrom] using hi.symm
  · rintro ⟨k, hk, rfl, hc⟩
    have hk' : k < ((positionsFrom first kinds.length).zip kinds).length := by
      simp [positionsFrom, hk]
    refine ⟨_, List.getElem_mem hk', ?_⟩
    simp [positionsFrom, hc]

namespace NativeModel

/-- A change at the positions of what is not continuous, among what was put at the end. -/
theorem changeAt_discrete {α : Type} (f : α → α) (xs : List α) {ys : List α}
    {kinds : List VarKind} (hlength : ys.length = kinds.length) {positions : List Int}
    (hpositions : ∀ p, p ∈ positions ↔ ∃ k, ∃ h : k < kinds.length,
      p = (xs.length + k : Nat) ∧ kinds[k] ≠ .continuous) :
    changeAt positions f (xs ++ ys) =
      xs ++ List.zipWith (fun k y => if k = .continuous then y else f y) kinds ys := by
  have hfront : ∀ p ∈ positions, (xs.length : Int) ≤ p := by
    intro p hp
    obtain ⟨k, -, rfl, -⟩ := (hpositions p).1 hp
    omega
  rw [changeAt_append xs ys f hfront]
  congr 1
  refine List.ext_getElem (by simp [hlength]) fun k hk hk' => ?_
  have hlt : k < kinds.length := by simpa [hlength] using hk
  rw [List.getElem_mapIdx, List.getElem_zipWith]
  by_cases hc : kinds[k] = .continuous
  · rw [if_pos hc, if_neg]
    rw [hpositions]
    rintro ⟨j, hj, hp, hcj⟩
    obtain rfl : j = k := by omega
    exact hcj hc
  · rw [if_neg hc, if_pos ((hpositions _).2 ⟨k, hlt, by omega, hc⟩)]

/-- Marking these positions makes of columns that were just added what they should be. -/
theorem changeColumns_discrete (m : NativeModel) (cs : List Column) {positions : List Int}
    (hpositions : ∀ p, p ∈ positions ↔ ∃ k, ∃ h : k < (cs.map (·.kind)).length,
      p = (m.columns.length + k : Nat) ∧ (cs.map (·.kind))[k] ≠ .continuous) :
    (m.addColumns (cs.map NativeColumn.bare)).changeColumns positions ({ · with integer := true }) =
      m.addColumns (cs.map NativeColumn.marked) := by
  have hmark (c : Column) : (if c.kind = .continuous then NativeColumn.bare c
      else { NativeColumn.bare c with integer := true }) = NativeColumn.marked c := by
    unfold NativeColumn.marked
    cases c.kind <;> rfl
  rw [addColumns, changeColumns, changeAt_discrete _ _ (by simp) hpositions, List.zipWith_map,
    List.zipWith_self, List.map_congr_left fun c _ => hmark c, addColumns]

end NativeModel

/-! ## Counts -/

namespace SolverCall

theorem fits_addColumns {c : SolverCall} {m : NativeModel} {cs : List NativeColumn}
    (hcolumns : ∀ x : SolverInstance, (x.apply c).columns = x.columns + cs.length)
    (hrows : ∀ x : SolverInstance, (x.apply c).rows = x.rows) (hc : m.apply c = m.addColumns cs) :
    c.Fits m := by
  intro x h
  rw [hc]
  refine ⟨?_, (hrows x).trans h.rows⟩
  rw [hcolumns, h.columns]
  exact List.length_append.symm

theorem fits_addRows {c : SolverCall} {m : NativeModel} {rs : List NativeRow}
    (hcolumns : ∀ x : SolverInstance, (x.apply c).columns = x.columns)
    (hrows : ∀ x : SolverInstance, (x.apply c).rows = x.rows + rs.length)
    (hc : m.apply c = m.addRows rs) : c.Fits m := by
  intro x h
  rw [hc]
  refine ⟨(hcolumns x).trans h.columns, ?_⟩
  rw [hrows, h.rows]
  exact List.length_append.symm

theorem fits_changeColumns {c : SolverCall} {positions : List Int}
    {f : NativeColumn → NativeColumn} (hx : ∀ x : SolverInstance, x.apply c = x)
    (hc : ∀ m : NativeModel, m.apply c = m.changeColumns positions f) (m : NativeModel) :
    c.Fits m := by
  intro x h
  rw [hx, hc]
  exact ⟨h.columns.trans (by simp [NativeModel.changeColumns, NativeModel.changeAt]), h.rows⟩

theorem fits_changeRows {c : SolverCall} {positions : List Int} {f : NativeRow → NativeRow}
    (hx : ∀ x : SolverInstance, x.apply c = x)
    (hc : ∀ m : NativeModel, m.apply c = m.changeRows positions f) (m : NativeModel) :
    c.Fits m := by
  intro x h
  rw [hx, hc]
  exact ⟨h.columns, h.rows.trans (by simp [NativeModel.changeRows, NativeModel.changeAt])⟩

/-- Columns that were added last can be taken back. -/
theorem deleteColumns_undoes {m : NativeModel} (hm : m.Closed) (cs : List NativeColumn) :
    (deleteColumns (positionsFrom m.columns.length cs.length)).Fits (m.addColumns cs) ∧
      (m.addColumns cs).apply (.deleteColumns (positionsFrom m.columns.length cs.length)) = m := by
  have hm' := NativeModel.deleteColumns_addColumns hm cs
  refine ⟨fun x h => ?_, hm'⟩
  have hcolumns : x.columns = m.columns.length + cs.length :=
    h.columns.trans List.length_append
  rw [NativeModel.apply, hm']
  refine ⟨?_, h.rows⟩
  show x.columns - (positionsFrom m.columns.length cs.length).length = _
  rw [hcolumns, positionsFrom, List.length_map, List.length_range, Nat.add_sub_cancel]

/-- Rows that were added last can be taken back. -/
theorem deleteRows_undoes (m : NativeModel) (rs : List NativeRow) :
    (deleteRows (positionsFrom m.rows.length rs.length)).Fits (m.addRows rs) ∧
      (m.addRows rs).apply (.deleteRows (positionsFrom m.rows.length rs.length)) = m := by
  have hm' := NativeModel.deleteRows_addRows m rs
  refine ⟨fun x h => ?_, hm'⟩
  have hrows : x.rows = m.rows.length + rs.length := h.rows.trans List.length_append
  rw [NativeModel.apply, hm']
  refine ⟨h.columns, ?_⟩
  show x.rows - (positionsFrom m.rows.length rs.length).length = _
  rw [hrows, positionsFrom, List.length_map, List.length_range, Nat.add_sub_cancel]

end SolverCall

/-! ## Adding columns -/

theorem NativeColumn.marked_of_continuous {c : Column} (h : c.kind = .continuous) :
    marked c = bare c := by
  rw [marked, h]
  rfl

namespace Engine

theorem markColumn_none {position : Int} {kind : VarKind} (h : markColumn position kind = none) :
    kind = .continuous := by
  by_contra hkind
  rw [markColumn, if_neg hkind] at h
  cases h

theorem markColumn_some {position : Nat} {c : Column} {call : SolverCall}
    (h : markColumn position c.kind = some call) :
    (∀ m, call.Fits m) ∧ ∀ m : NativeModel, m.columns.length = position →
      (m.addColumns [NativeColumn.bare c]).apply call = m.addColumns [NativeColumn.marked c] := by
  rw [markColumn] at h
  split at h
  · cases h
  · rename_i hkind
    cases h
    refine ⟨SolverCall.fits_changeColumns (fun _ => rfl) fun _ => rfl, ?_⟩
    rintro m rfl
    refine (NativeModel.changeColumns_addColumns m [] [] _ _).trans ?_
    rw [NativeColumn.marked, decide_eq_true hkind]
    rfl

/-- Columns that are not marked are continuous. -/
theorem markColumns_none {first : Nat} {cs : List Column}
    (h : markColumns first (cs.map (·.kind)) = none) : ∀ c ∈ cs, c.kind = .continuous := by
  intro c hc
  obtain ⟨k, hk, rfl⟩ := List.mem_iff_getElem.1 hc
  by_contra hkind
  have hk' : k < (cs.map (·.kind)).length := by rwa [List.length_map]
  have hmem := (mem_discrete first _).2 ⟨k, hk', rfl, by rwa [List.getElem_map]⟩
  simp only [markColumns] at h
  split at h
  · rename_i hempty
    rw [List.isEmpty_iff.1 hempty] at hmem
    cases hmem
  · cases h

/-- Columns that are marked become what they should be. -/
theorem markColumns_some {first : Nat} {cs : List Column} {call : SolverCall}
    (h : markColumns first (cs.map (·.kind)) = some call) :
    (∀ m, call.Fits m) ∧ ∀ m : NativeModel, m.columns.length = first →
      (m.addColumns (cs.map NativeColumn.bare)).apply call =
        m.addColumns (cs.map NativeColumn.marked) := by
  simp only [markColumns] at h
  split at h
  · cases h
  · cases h
    refine ⟨SolverCall.fits_changeColumns (fun _ => rfl) fun _ => rfl, ?_⟩
    rintro m rfl
    exact NativeModel.changeColumns_discrete m cs fun p => mem_discrete _ _

variable {i : Nat} {earlier : List AnsweredCall} {R : Engine → NativeModel → Prop}
  {E : Engine × Surroundings → Prop}

theorem nameColumns_leads (cs : List Column) {first : Nat}
    (hfirst : ∀ e m, R e m → m.columns.length = first)
    (hnames : ∀ c ∈ cs, ∃ name, c.name = .ofName name) :
    Leads (Live i earlier fun e n => ∃ m, R e m ∧ n = m.addColumns (cs.map NativeColumn.marked))
      (passNames .nameColumn first (cs.map (·.name)))
      (fun b => Live i earlier (Described NativeModel.addColumns R (cs.map NativeColumn.of) b)) E := by
  have hnamed : cs.map (·.name) = cs.map fun c => .ofName c.name.text? := by
    refine List.map_congr_left fun c hc => ?_
    obtain ⟨name, hname⟩ := hnames c hc
    rw [hname, Value.text?_ofName]
  rw [hnamed]
  exact passNames_leads NativeModel.addColumns .nameColumn NativeColumn.marked NativeColumn.of
    (fun c => c.name.text?)
    (fun p s m => SolverCall.fits_changeColumns (fun _ => rfl) (fun _ => rfl) m)
    (fun c hc => by simp [NativeColumn.of, hc, NativeColumn.marked, NativeColumn.bare])
    (fun e m c s before after hm hs => by
      rw [← hfirst e m hm]
      refine (NativeModel.changeColumns_addColumns m before after _ _).trans ?_
      rw [NativeColumn.of, hs])
    [] cs

/-- A column is described in a way that makes of it what it should be. -/
theorem describeColumns_leads (cs : List Column) {first : Nat} {marking : Option SolverCall}
    (hfirst : ∀ e m, R e m → m.columns.length = first)
    (hnames : ∀ c ∈ cs, ∃ name, c.name = .ofName name)
    (hnone : marking = none → ∀ c ∈ cs, NativeColumn.marked c = NativeColumn.bare c)
    (hmark : ∀ call, marking = some call → (∀ m, call.Fits m) ∧ ∀ e m, R e m →
      (m.addColumns (cs.map NativeColumn.bare)).apply call =
        m.addColumns (cs.map NativeColumn.marked)) :
    Leads (Live i earlier fun e n => ∃ m, R e m ∧ n = m.addColumns (cs.map NativeColumn.bare))
      (describeColumns marking first (cs.map (·.name)))
      (fun b => Live i earlier (Described NativeModel.addColumns R (cs.map NativeColumn.of) b)) E := by
  have hskip : Leads (Live i earlier fun e n => ∃ m, R e m ∧
      n = m.addColumns (cs.map NativeColumn.bare)) (pure false : Acting Bool)
      (fun b => Live i earlier (Described NativeModel.addColumns R (cs.map NativeColumn.of) b)) E := by
    refine Leads.pure fun s hs => ⟨hs.1, hs.2.mono ?_⟩
    rintro n ⟨m, hm, rfl⟩
    exact ⟨m, hm, _, by simp, rfl⟩
  -- without a marking there is nothing to mark, and only the names are passed on
  cases marking with
  | none =>
    have hbare : cs.map NativeColumn.bare = cs.map NativeColumn.marked :=
      List.map_congr_left fun c hc => (hnone rfl c hc).symm
    rw [hbare]
    exact nameColumns_leads cs hfirst hnames
  | some call =>
    obtain ⟨hfits, happly⟩ := hmark call rfl
    have hmarked (e : Engine) (n : NativeModel) :
        (∃ m, R e m ∧ n = m.addColumns (cs.map NativeColumn.bare)) →
        call.Fits n ∧ ∃ m, R e m ∧ n.apply call = m.addColumns (cs.map NativeColumn.marked) := by
      rintro ⟨m, hm, rfl⟩
      exact ⟨hfits _, m, hm, happly e m hm⟩
    refine Leads.bind (succeeds_leads
      (Q := fun e n => ∃ m, R e m ∧ n = m.addColumns (cs.map NativeColumn.marked)) hmarked) fun b => ?_
    cases b
    · exact hskip
    · exact nameColumns_leads cs hfirst hnames

/-- Columns that are added and described are there as a whole then, or not at all. -/
theorem addColumns_leads (hclosed : ∀ e m, R e m → m.Closed) {x : SolverInstance} (cs : List Column)
    {addition : SolverCall} {marking : Option SolverCall}
    (hadd : ∀ m, addition.Fits m ∧ m.apply addition = m.addColumns (cs.map NativeColumn.bare))
    (hnames : ∀ c ∈ cs, ∃ name, c.name = .ofName name)
    (hnone : marking = none → ∀ c ∈ cs, c.kind = .continuous)
    (hmark : ∀ call, marking = some call → (∀ m, call.Fits m) ∧ ∀ m : NativeModel,
      m.columns.length = x.columns → (m.addColumns (cs.map NativeColumn.bare)).apply call =
        m.addColumns (cs.map NativeColumn.marked)) :
    Leads (Live i earlier fun e m => R e m ∧ x.Counts m)
      (addAndDescribe addition (.deleteColumns (positionsFrom x.columns cs.length))
        (describeColumns marking x.columns (cs.map (·.name))))
      (fun added => Held i earlier fun e n =>
        if added then ∃ m, R e m ∧ n = m.addColumns (cs.map NativeColumn.of) else R e n) E := by
  refine added_held NativeModel.addColumns _ (addAndDescribe_leads NativeModel.addColumns
    (cs.map NativeColumn.bare) _ (fun e m _ => hadd m) (fun e m as hm has => ?_) rfl
    (describeColumns_leads cs (fun e m hm => hm.2.columns.symm) hnames (fun h c hc => ?_)
      fun call h => ?_))
  · rw [List.length_map] at has
    rw [hm.2.columns, ← has]
    exact SolverCall.deleteColumns_undoes (hclosed e m hm.1) as
  · exact NativeColumn.marked_of_continuous (hnone h c hc)
  · obtain ⟨hfits, happly⟩ := hmark call h
    exact ⟨hfits, fun e m hm => happly m hm.2.columns.symm⟩

/-- The call for a batch of columns. -/
def callOfColumns (cs : List Column) : SolverCall :=
  .addColumns (cs.map (·.objective)) (cs.map fun c => c.nativeBounds.1)
    (cs.map fun c => c.nativeBounds.2)

theorem callOfColumns_adds (cs : List Column) (m : NativeModel) : (callOfColumns cs).Fits m ∧
    m.apply (callOfColumns cs) = m.addColumns (cs.map NativeColumn.bare) := by
  have hcolumns : NativeModel.columnsOf (cs.map (·.objective)) (cs.map fun c => c.nativeBounds.1)
      (cs.map fun c => c.nativeBounds.2) = cs.map NativeColumn.bare := by
    rw [NativeModel.columnsOf, List.zip_map', List.zip_map', List.map_map]
    rfl
  have happly : m.apply (callOfColumns cs) = m.addColumns (cs.map NativeColumn.bare) := by
    rw [callOfColumns, NativeModel.apply, hcolumns]
  refine ⟨SolverCall.fits_addColumns (fun y => ?_) (fun _ => rfl) happly, happly⟩
  show y.columns + (cs.map (·.objective)).length = _
  rw [List.length_map, List.length_map]

/-- With floats in all three arrays no conversion can break off. -/
theorem arrays_ofColumns (cs : List Column) : (do
    let objectives ← inArray arrayElement (cs.map fun c => .float c.objective)
    let lowers ← inArray arrayElement (cs.map fun c => .float c.nativeBounds.1)
    let uppers ← inArray arrayElement (cs.map fun c => .float c.nativeBounds.2)
    return .addColumns objectives lowers uppers : Except Fault SolverCall) =
    .ok (callOfColumns cs) := by
  have harray (f : Column → Double) :
      inArray arrayElement (cs.map fun c => .float (f c)) = .ok (cs.map f) :=
    inArray_map arrayElement (fun _ => rfl) (fun _ => rfl) cs
  rw [harray, harray, harray]
  rfl

theorem mapM_columnSides {f : VarKind × Value × Value → Except Failure (Value × Value)}
    (hf : ∀ k l u, f (k, l, u) = columnSides k l u) (cs : List Column) :
    ((cs.map (·.kind)).zip ((cs.map fun c => Value.float c.lower).zip
      (cs.map fun c => Value.float c.upper))).mapM f =
      .ok (cs.map fun c => (.float c.nativeBounds.1, .float c.nativeBounds.2)) := by
  rw [List.zip_map', List.zip_map']
  exact mapM_map_eq_ok (fun c => (hf _ _ _).trans (columnSides_floats c)) cs

/-- The native solver gets a batch of columns as a whole, or not at all. -/
theorem addNativeColumns_leads (hclosed : ∀ e m, R e m → m.Closed) {cs : List Column}
    (hnames : ∀ c ∈ cs, ∃ name, c.name = .ofName name) :
    Leads (Held i earlier R) (addNativeColumns (cs.map fun c => .float c.objective)
      (cs.map fun c => .float c.lower) (cs.map fun c => .float c.upper) (cs.map (·.kind))
      (cs.map (·.name)))
      (fun added => Held i earlier fun e n =>
        if added then ∃ m, R e m ∧ n = m.addColumns (cs.map NativeColumn.of) else R e n)
      (Held i earlier R) := by
  refine solverInstance_leads.bind fun x => ?_
  rw [mapM_columnSides (fun _ _ _ => rfl) cs]
  refine Leads.ofExcept_bind ?_
  rw [List.map_map, List.map_map, List.length_map]
  refine Eq.subst (motive := fun call => Leads _ (ofFault call >>= _) _ _)
    (arrays_ofColumns cs).symm ?_
  exact Leads.ofFault_bind (addColumns_leads hclosed cs (callOfColumns_adds cs) hnames
    markColumns_none fun call h => markColumns_some h)

/-- The native solver gets the column of a variable, or nothing. -/
theorem addNativeColumn_leads (hclosed : ∀ e m, R e m → m.Closed) {v : Var} (hv : v.Built) :
    Leads (Held i earlier R) (addNativeColumn (.float v.objective) (.number v.lower)
      (.number v.upper) v.kind (.ofName v.name))
      (fun added => Held i earlier fun e n => if added then
        ∃ c m, v.column = .ok c ∧ R e m ∧ n = m.addColumns [NativeColumn.of c] else R e n)
      (Held i earlier R) := by
  refine solverInstance_leads.bind fun x => ?_
  have hsides := Leads.ofExcept (P := Live i earlier fun e m => R e m ∧ x.Counts m)
    (columnSides v.kind (.number v.lower) (.number v.upper))
  have hheld : ∀ s, Live i earlier (fun e m => R e m ∧ x.Counts m) s → Held i earlier R s :=
    fun s hs => hs.held.mono fun _ hm => hm.1
  refine (hsides.mono (fun _ hs => hs) (fun _ _ hs => hs) hheld).bind fun sides => ?_
  refine Leads.of_fact fun hlu => ?_
  obtain ⟨l, u⟩ := sides
  refine Leads.bind ((Leads.ofFault _).mono (fun _ hs => hs) (fun _ _ hs => hs) hheld) fun call => ?_
  refine Leads.of_fact fun hcall => ?_
  obtain ⟨o, ho, hcall⟩ := bind_eq_ok_iff.1 hcall
  obtain ⟨a, ha, hcall⟩ := bind_eq_ok_iff.1 hcall
  obtain ⟨b, hb, hcall⟩ := bind_eq_ok_iff.1 hcall
  cases hcall
  cases ho
  obtain ⟨c, hc, hobjective, hbounds⟩ := hv.nativeBounds hlu ha hb
  obtain ⟨-, -, -, hkind, hname⟩ := Model.column_eq_ok hc
  -- from here on the column is a batch of one
  have hundo : [(x.columns : Int)] = positionsFrom x.columns [c].length := rfl
  have hbare : (⟨v.objective, a, b, false, none⟩ : NativeColumn) = NativeColumn.bare c := by
    rw [NativeColumn.bare, hobjective, hbounds]
  rw [hundo, ← hkind, ← hname]
  have hadd (m : NativeModel) : SolverCall.Fits (.addColumn v.objective a b) m ∧
      m.apply (.addColumn v.objective a b) = m.addColumns ([c].map NativeColumn.bare) := by
    have happly : m.apply (.addColumn v.objective a b) = m.addColumns [NativeColumn.bare c] := by
      rw [← hbare]
      rfl
    exact ⟨SolverCall.fits_addColumns (fun _ => rfl) (fun _ => rfl) happly, happly⟩
  refine (addColumns_leads hclosed [c] hadd ?_ ?_ fun call h => markColumn_some h).mono
    (fun _ hs => hs) (fun added s hs => hs.mono fun n hn => ?_) fun _ hs => hs
  · intro d hd
    rw [List.mem_singleton.1 hd]
    exact ⟨v.name, hname⟩
  · intro hnone d hd
    rw [List.mem_singleton.1 hd]
    exact markColumn_none hnone
  · cases added
    · exact hn
    · obtain ⟨m, hm, rfl⟩ := hn
      exact ⟨c, m, hc, hm, rfl⟩

end Engine

/-! ## Rows -/

/-- The two sides of a row with a sense. -/
def Sense.sides (s : Sense) (bound : Double) : Double × Double :=
  match s with
  | .atMost => (-Engine.infinite, bound)
  | .atLeast => (bound, Engine.infinite)
  | .equal => (bound, bound)

namespace NativeRow

/-- A row before it is named. -/
def bare (r : TermRow) : NativeRow :=
  { lower := (r.sense.sides r.bound).1, upper := (r.sense.sides r.bound).2,
    terms := r.terms.map fun t => ((t.1 : Int), t.2) }

/-- What the native solver has for a row. -/
def of (r : TermRow) : NativeRow := { bare r with name := r.name }

end NativeRow

/-- Rows that are given one after the other are told apart by where they start. -/
theorem NativeModel.rowsOf_starts (before : List (Int × Double)) (rs : List TermRow) :
    rowsOf (before ++ (TermRow.allTerms rs).map fun t => ((t.1 : Int), t.2))
      (rs.map fun r => r.sense.sides r.bound)
      ((TermRow.startsFrom before.length rs).map fun (i : Nat) => (i : Int)) =
      rs.map NativeRow.bare := by
  -- `before` are the terms of the rows that have been told apart already
  induction rs generalizing before with
  | nil => rfl
  | cons r rest ih =>
    have hterms : (TermRow.allTerms (r :: rest)).map (fun t => ((t.1 : Int), t.2)) =
        (NativeRow.bare r).terms ++
          (TermRow.allTerms rest).map fun t => ((t.1 : Int), t.2) := by
      rw [TermRow.allTerms, List.flatMap_cons, List.map_append]
      rfl
    have hlength : (NativeRow.bare r).terms.length = r.terms.length := List.length_map _
    -- a row stops where the next one starts, and the last one at the end of all terms
    have hstop : ((TermRow.startsFrom (before.length + r.terms.length) rest).map
        fun (i : Nat) => (i : Int)).headD (before ++ (NativeRow.bare r).terms ++
        (TermRow.allTerms rest).map fun t => ((t.1 : Int), t.2)).length =
        ((before.length + r.terms.length : Nat) : Int) := by
      cases rest with
      | nil =>
        rw [List.length_append, List.length_append, hlength]
        rfl
      | cons _ _ => rfl
    have hslice : ((before ++ (NativeRow.bare r).terms ++
        (TermRow.allTerms rest).map fun t => ((t.1 : Int), t.2)).drop before.length).take
          r.terms.length = (NativeRow.bare r).terms := by
      rw [List.append_assoc, List.drop_left, ← hlength, List.take_left]
    have hrest := ih (before ++ (NativeRow.bare r).terms)
    rw [List.length_append, hlength] at hrest
    rw [hterms, ← List.append_assoc, TermRow.startsFrom, List.map_cons, List.map_cons, List.map_cons,
      rowsOf, hstop, hrest]
    have hcount : ((before.length + r.terms.length : Nat) - (before.length : Int)).toNat =
        r.terms.length := by omega
    rw [hcount, Int.toNat_natCast, hslice]
    rfl

namespace Engine

theorem rowSides_float (s : Sense) (bound : Double) :
    rowSides s (.float bound) = (.float (s.sides bound).1, .float (s.sides bound).2) := by
  cases s <;> rfl

variable {i : Nat} {earlier : List AnsweredCall} {R : Engine → NativeModel → Prop}

theorem nameRows_leads {E : Engine × Surroundings → Prop} {first : Nat} (rs : List TermRow)
    (hfirst : ∀ e m, R e m → m.rows.length = first) :
    Leads (Live i earlier fun e n => ∃ m, R e m ∧ n = m.addRows (rs.map NativeRow.bare))
      (passNames .nameRow first (rs.map fun r => .ofName r.name))
      (fun b => Live i earlier (Described NativeModel.addRows R (rs.map NativeRow.of) b)) E :=
  passNames_leads NativeModel.addRows .nameRow NativeRow.bare NativeRow.of (fun r => r.name)
    (fun p s m => SolverCall.fits_changeRows (fun _ => rfl) (fun _ => rfl) m)
    (fun r hr => by simp [NativeRow.of, hr, NativeRow.bare])
    (fun e m r s before after hm hs => by
      rw [← hfirst e m hm]
      refine (NativeModel.changeRows_addRows m before after _ _).trans ?_
      rw [NativeRow.of, hs])
    [] rs

/-- Rows that are added and named are there as a whole then, or not at all. -/
theorem addRows_leads {E : Engine × Surroundings → Prop} {x : SolverInstance} (rs : List TermRow)
    {addition : SolverCall}
    (hadd : ∀ m, addition.Fits m ∧ m.apply addition = m.addRows (rs.map NativeRow.bare)) :
    Leads (Live i earlier fun e m => R e m ∧ x.Counts m)
      (addAndDescribe addition (.deleteRows (positionsFrom x.rows rs.length))
        (passNames .nameRow x.rows (rs.map fun r => .ofName r.name)))
      (fun added => Held i earlier fun e n =>
        if added then ∃ m, R e m ∧ n = m.addRows (rs.map NativeRow.of) else R e n) E := by
  refine added_held NativeModel.addRows _ (addAndDescribe_leads NativeModel.addRows
    (rs.map NativeRow.bare) _ (fun e m _ => hadd m) (fun e m added hm hadded => ?_) rfl
    (nameRows_leads rs fun e m hm => hm.2.rows.symm))
  rw [List.length_map] at hadded
  rw [hm.2.rows, ← hadded]
  exact SolverCall.deleteRows_undoes m added

/-- The native solver gets a row, or nothing. -/
theorem addNativeRow_leads (r : TermRow) :
    Leads (Held i earlier R) (addNativeRow (r.terms.map fun t => .int t.1)
      (r.terms.map fun t => .float t.2) r.sense (.float r.bound) (.ofName r.name))
      (fun added => Held i earlier fun e n =>
        if added then ∃ m, R e m ∧ n = m.addRows [NativeRow.of r] else R e n)
      (Held i earlier R) := by
  have hcall : (do
      let indices ← inArray arrayPosition (r.terms.map fun t => .int t.1)
      let values ← inArray arrayElement (r.terms.map fun t => .float t.2)
      return .addRow (← Value.toDouble (.float (r.sense.sides r.bound).1))
        (← Value.toDouble (.float (r.sense.sides r.bound).2)) indices values :
      Except Fault SolverCall) = .ok (.addRow (r.sense.sides r.bound).1 (r.sense.sides r.bound).2
        (r.terms.map fun t => (t.1 : Int)) (r.terms.map Prod.snd)) := by
    rw [inArray_map arrayPosition (fun _ => rfl) (fun _ => rfl),
      inArray_map arrayElement (fun _ => rfl) (fun _ => rfl)]
    rfl
  have hbare (m : NativeModel) : m.apply (.addRow (r.sense.sides r.bound).1
      (r.sense.sides r.bound).2 (r.terms.map fun t => (t.1 : Int)) (r.terms.map Prod.snd)) =
      m.addRows [NativeRow.bare r] := by
    rw [NativeModel.apply, List.zip_map']
    rfl
  refine solverInstance_leads.bind fun x => ?_
  rw [rowSides_float]
  refine Eq.subst (motive := fun call => Leads _ (ofFault call >>= _) _ _) hcall.symm ?_
  exact Leads.ofFault_bind (addRows_leads [r] fun m =>
    ⟨SolverCall.fits_addRows (fun _ => rfl) (fun _ => rfl) (hbare m), hbare m⟩)

/-- The call for a batch of rows. -/
def callOfRows (rs : List TermRow) : SolverCall :=
  .addRows (rs.map fun r => (r.sense.sides r.bound).1) (rs.map fun r => (r.sense.sides r.bound).2)
    ((TermRow.startsFrom 0 rs).map fun (i : Nat) => (i : Int))
    ((TermRow.allTerms rs).map fun t => (t.1 : Int)) ((TermRow.allTerms rs).map Prod.snd)

theorem callOfRows_adds (rs : List TermRow) (m : NativeModel) : (callOfRows rs).Fits m ∧
    m.apply (callOfRows rs) = m.addRows (rs.map NativeRow.bare) := by
  have hrows : NativeModel.rowsOf
      (((TermRow.allTerms rs).map fun t => (t.1 : Int)).zip ((TermRow.allTerms rs).map Prod.snd))
      ((rs.map fun r => (r.sense.sides r.bound).1).zip (rs.map fun r => (r.sense.sides r.bound).2))
      ((TermRow.startsFrom 0 rs).map fun (i : Nat) => (i : Int)) = rs.map NativeRow.bare := by
    rw [List.zip_map', List.zip_map']
    exact NativeModel.rowsOf_starts [] rs
  have happly : m.apply (callOfRows rs) = m.addRows (rs.map NativeRow.bare) := by
    rw [callOfRows, NativeModel.apply, hrows]
  refine ⟨SolverCall.fits_addRows (fun _ => rfl) (fun y => ?_) happly, happly⟩
  show y.rows + (rs.map fun r => (r.sense.sides r.bound).1).length = _
  rw [List.length_map, List.length_map]

/-- With floats and positions in the arrays no conversion can break off. -/
theorem arrays_ofRows (rs : List TermRow) : (do
    let lowers ← inArray arrayElement (rs.map fun r => .float (r.sense.sides r.bound).1)
    let uppers ← inArray arrayElement (rs.map fun r => .float (r.sense.sides r.bound).2)
    let begins ← inArray arrayPosition ((TermRow.startsFrom 0 rs).map fun (i : Nat) => .int i)
    let indices ← inArray arrayPosition ((TermRow.allTerms rs).map fun t => .int t.1)
    let values ← inArray arrayElement ((TermRow.allTerms rs).map fun t => .float t.2)
    return .addRows lowers uppers begins indices values : Except Fault SolverCall) =
    .ok (callOfRows rs) := by
  rw [inArray_map arrayElement (fun _ => rfl) (fun _ => rfl),
    inArray_map arrayElement (fun _ => rfl) (fun _ => rfl),
    inArray_map arrayPosition (fun _ => rfl) (fun _ => rfl),
    inArray_map arrayPosition (fun _ => rfl) (fun _ => rfl),
    inArray_map arrayElement (fun _ => rfl) (fun _ => rfl)]
  rfl

theorem map_rowSides {f : Sense × Value → Value × Value} (hf : ∀ s b, f (s, b) = rowSides s b)
    (rs : List TermRow) : ((rs.map (·.sense)).zip (rs.map fun r => Value.float r.bound)).map f =
      rs.map fun r => (.float (r.sense.sides r.bound).1, .float (r.sense.sides r.bound).2) := by
  rw [List.zip_map', List.map_map]
  exact List.map_congr_left fun r _ => (hf _ _).trans (rowSides_float r.sense r.bound)

/-- The native solver gets a batch of rows as a whole, or not at all. -/
theorem addNativeRows_leads (rs : List TermRow) :
    Leads (Held i earlier R)
      (addNativeRows ((TermRow.startsFrom 0 rs).map fun (i : Nat) => .int i)
        ((TermRow.allTerms rs).map fun t => .int t.1)
        ((TermRow.allTerms rs).map fun t => .float t.2) (rs.map (·.sense))
        (rs.map fun r => .float r.bound) (rs.map fun r => .ofName r.name))
      (fun added => Held i earlier fun e n =>
        if added then ∃ m, R e m ∧ n = m.addRows (rs.map NativeRow.of) else R e n)
      (Held i earlier R) := by
  refine solverInstance_leads.bind fun x => ?_
  rw [map_rowSides (fun _ _ => rfl) rs]
  dsimp only
  rw [List.map_map, List.map_map, List.length_map]
  refine Eq.subst (motive := fun call => Leads _ (ofFault call >>= _) _ _)
    (arrays_ofRows rs).symm ?_
  exact Leads.ofFault_bind (addRows_leads rs (callOfRows_adds rs))

end Engine

end Milp

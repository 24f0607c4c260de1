import Milp.Engine.Native
import Milp.Proofs.Solver
set_option autoImplicit false

/-! # Replaying the calls of an instance

The model that an instance of the native solver has after some calls. A call that failed has had no
effect, and one that was answered with a warning has had its effect. Positions are those of the time
of the call: what comes after something that is deleted moves up.

What was added last can be taken back: deleting exactly these columns or rows restores the model
(`NativeModel.deleteColumns_addColumns`, `NativeModel.deleteRows_addRows`). -/

namespace Milp

/-! ## Models -/

structure NativeColumn where
  objective : Double
  lower : Double
  upper : Double
  integer : Bool := false
  name : Option String := none

/-- A row between two sides: the positions of columns with their coefficients. -/
structure NativeRow where
  lower : Double
  upper : Double
  terms : List (Int × Double)
  name : Option String := none

structure NativeModel where
  columns : List NativeColumn := []
  rows : List NativeRow := []
  direction : Direction := .minimize

/-! ## Calls -/

namespace NativeModel

/-- The elements of a list, those at given positions changed. -/
def changeAt {α : Type} (positions : List Int) (f : α → α) (xs : List α) : List α :=
  xs.mapIdx fun k x => if (k : Int) ∈ positions then f x else x

/-- The elements of a list without those at given positions. -/
def without {α : Type} (positions : List Int) (xs : List α) : List α :=
  (xs.zipIdx.filter fun x => (x.2 : Int) ∉ positions).map Prod.fst

/-- The terms of a row once columns are gone: those of later columns move up. -/
def shiftTerms (positions : List Int) (ts : List (Int × Double)) : List (Int × Double) :=
  (ts.filter fun t => t.1 ∉ positions).map fun t =>
    (t.1 - (positions.filter (· < t.1)).length, t.2)

def columnsOf (objectives lowers uppers : List Double) : List NativeColumn :=
  (objectives.zip (lowers.zip uppers)).map fun (objective, lower, upper) =>
    { objective, lower, upper }

/-- The rows with given sides. Each has the terms from where it starts to where the next one starts,
and the last one has all that are left. -/
def rowsOf (terms : List (Int × Double)) : List (Double × Double) → List Int → List NativeRow
  | (lower, upper) :: sides, start :: starts =>
    let stop := starts.headD terms.length
    { lower, upper, terms := (terms.drop start.toNat).take (stop - start).toNat } ::
      rowsOf terms sides starts
  | _, _ => []

def addColumns (m : NativeModel) (cs : List NativeColumn) : NativeModel :=
  { m with columns := m.columns ++ cs }

def addRows (m : NativeModel) (rs : List NativeRow) : NativeModel := { m with rows := m.rows ++ rs }

def deleteColumns (m : NativeModel) (positions : List Int) : NativeModel :=
  { m with
    columns := without positions m.columns
    rows := m.rows.map fun r => { r with terms := shiftTerms positions r.terms } }

def deleteRows (m : NativeModel) (positions : List Int) : NativeModel :=
  { m with rows := without positions m.rows }

def changeColumns (m : NativeModel) (positions : List Int) (f : NativeColumn → NativeColumn) :
    NativeModel := { m with columns := changeAt positions f m.columns }

def changeRows (m : NativeModel) (positions : List Int) (f : NativeRow → NativeRow) :
    NativeModel := { m with rows := changeAt positions f m.rows }

/-- What a call makes of a model. -/
def apply (m : NativeModel) : SolverCall → NativeModel
  | .addColumn objective lower upper => m.addColumns [{ objective, lower, upper }]
  | .addColumns objectives lowers uppers => m.addColumns (columnsOf objectives lowers uppers)
  | .addRow lower upper indices values =>
    m.addRows [{ lower, upper, terms := indices.zip values }]
  | .addRows lowers uppers begins indices values =>
    m.addRows (rowsOf (indices.zip values) (lowers.zip uppers) begins)
  | .deleteColumns positions => m.deleteColumns positions
  | .deleteRows positions => m.deleteRows positions
  | .setInteger column => m.changeColumns [column] ({ · with integer := true })
  | .setIntegers columns => m.changeColumns columns ({ · with integer := true })
  | .nameColumn column name => m.changeColumns [column] ({ · with name := some name })
  | .nameRow row name => m.changeRows [row] ({ · with name := some name })
  | .setDirection direction => { m with direction }
  | .setOption .. | .write _ | .run => m

/-- What an answered call makes of a model. -/
def applyAnswered (m : NativeModel) (c : AnsweredCall) : NativeModel :=
  if c.reply = .error then m else m.apply c.call

/-- The model after some calls, which begin with a new instance. -/
def replay (calls : List AnsweredCall) : NativeModel := calls.foldl applyAnswered {}

theorem replay_concat (calls : List AnsweredCall) (c : AnsweredCall) :
    replay (calls ++ [c]) = (replay calls).applyAnswered c := by
  rw [replay, List.foldl_append]
  rfl

theorem apply_neutral {c : SolverCall} (hc : c.isNeutral) (m : NativeModel) : m.apply c = m := by
  cases c with
  | setOption _ _ | write _ | run => rfl
  | _ => cases hc

/-! ## Positions at the end -/

theorem mem_positionsFrom {first count : Nat} {p : Int} :
    p ∈ Engine.positionsFrom first count ↔ (first : Int) ≤ p ∧ p < first + count := by
  simp only [Engine.positionsFrom, List.mem_map, List.mem_range]
  constructor
  · rintro ⟨k, hk, rfl⟩
    omega
  · rintro ⟨hfirst, hcount⟩
    exact ⟨(p - first).toNat, by omega, by omega⟩

section Positions

variable {α : Type} (xs ys : List α)

/-- Without its end, a list is what comes before. -/
theorem without_positionsFrom :
    without (Engine.positionsFrom xs.length ys.length) (xs ++ ys) = xs := by
  -- the positions count on from the end of `xs`
  have hkept : xs.zipIdx.filter (fun x => (x.2 : Int) ∉
      Engine.positionsFrom xs.length ys.length) = xs.zipIdx := by
    refine List.filter_eq_self.2 fun x hx => decide_eq_true ?_
    have hlt := List.snd_lt_of_mem_zipIdx hx
    rw [mem_positionsFrom]
    omega
  have hgone : (ys.zipIdx xs.length).filter (fun x => (x.2 : Int) ∉
      Engine.positionsFrom xs.length ys.length) = [] := by
    refine List.filter_eq_nil_iff.2 fun x hx => ?_
    have hle := List.le_snd_of_mem_zipIdx hx
    have hlt := List.snd_lt_add_of_mem_zipIdx hx
    rw [decide_eq_true_eq, Decidable.not_not, mem_positionsFrom]
    omega
  rw [without, List.zipIdx_append, Nat.zero_add, List.filter_append, hkept, hgone, List.append_nil,
    List.zipIdx_map_fst]

/-- What is before all positions is not changed. -/
theorem changeAt_append {positions : List Int} (f : α → α)
    (h : ∀ p ∈ positions, (xs.length : Int) ≤ p) :
    changeAt positions f (xs ++ ys) =
      xs ++ ys.mapIdx fun k y => if ((k + xs.length : Nat) : Int) ∈ positions then f y else y := by
  have hfront : (xs.mapIdx fun k x => if (k : Int) ∈ positions then f x else x) = xs := by
    refine List.ext_getElem (by rw [List.length_mapIdx]) fun k hk hk' => ?_
    rw [List.getElem_mapIdx, if_neg]
    intro hmem
    have := h _ hmem
    omega
  rw [changeAt, List.mapIdx_append, hfront]

theorem changeAt_middle (f : α → α) (y : α) :
    changeAt [(xs.length : Int)] f (xs ++ y :: ys) = xs ++ f y :: ys := by
  have hrest : (ys.mapIdx fun k x => if ((k + 1 + xs.length : Nat) : Int) ∈ [(xs.length : Int)]
      then f x else x) = ys := by
    refine List.ext_getElem (by rw [List.length_mapIdx]) fun k hk hk' => ?_
    rw [List.getElem_mapIdx, if_neg]
    rw [List.mem_singleton]
    omega
  rw [changeAt_append xs (y :: ys) f (by simp), List.mapIdx_cons, hrest, Nat.zero_add,
    if_pos (List.mem_singleton.2 rfl)]

end Positions

/-- Terms of columns before all positions stay as they are. -/
theorem shiftTerms_of_lt {positions : List Int} {ts : List (Int × Double)}
    (h : ∀ t ∈ ts, ∀ p ∈ positions, t.1 < p) : shiftTerms positions ts = ts := by
  have hkept : ts.filter (fun t => t.1 ∉ positions) = ts := by
    refine List.filter_eq_self.2 fun t ht => decide_eq_true fun hmem => ?_
    exact absurd (h t ht _ hmem) (Int.lt_irrefl _)
  rw [shiftTerms, hkept]
  refine (List.map_congr_left fun t ht => ?_).trans (List.map_id ts)
  have hnone : positions.filter (· < t.1) = [] := by
    refine List.filter_eq_nil_iff.2 fun p hp => ?_
    have := h t ht p hp
    rw [decide_eq_true_eq]
    omega
  rw [hnone]
  exact Prod.ext (Int.sub_zero t.1) rfl

/-! ## Taking back -/

/-- The terms of all rows are those of columns that are there. -/
def Closed (m : NativeModel) : Prop :=
  ∀ r ∈ m.rows, ∀ t ∈ r.terms, t.1 < (m.columns.length : Int)

theorem deleteColumns_addColumns {m : NativeModel} (hm : m.Closed) (cs : List NativeColumn) :
    (m.addColumns cs).deleteColumns (Engine.positionsFrom m.columns.length cs.length) = m := by
  -- the terms of the rows are all in front of the deleted columns, so none goes or moves
  have hrows : (m.rows.map fun r => { r with
      terms := shiftTerms (Engine.positionsFrom m.columns.length cs.length) r.terms }) = m.rows := by
    refine (List.map_congr_left fun r hr => ?_).trans (List.map_id m.rows)
    rw [shiftTerms_of_lt fun t ht p hp => ?_]
    · rfl
    · exact Int.lt_of_lt_of_le (hm r hr t ht) (mem_positionsFrom.1 hp).1
  rw [addColumns, deleteColumns, without_positionsFrom, hrows]

theorem deleteRows_addRows (m : NativeModel) (rs : List NativeRow) :
    (m.addRows rs).deleteRows (Engine.positionsFrom m.rows.length rs.length) = m := by
  rw [addRows, deleteRows, without_positionsFrom]

/-! ## Changing what was added last -/

theorem changeColumns_addColumns (m : NativeModel) (before after : List NativeColumn)
    (c : NativeColumn) (f : NativeColumn → NativeColumn) :
    (m.addColumns (before ++ c :: after)).changeColumns
      [((m.columns.length + before.length : Nat) : Int)] f =
      m.addColumns (before ++ f c :: after) := by
  have hchange := changeAt_middle (m.columns ++ before) after f c
  rw [List.length_append, List.append_assoc, List.append_assoc] at hchange
  rw [addColumns, changeColumns, hchange, addColumns]

theorem changeRows_addRows (m : NativeModel) (before after : List NativeRow) (r : NativeRow)
    (f : NativeRow → NativeRow) :
    (m.addRows (before ++ r :: after)).changeRows
      [((m.rows.length + before.length : Nat) : Int)] f = m.addRows (before ++ f r :: after) := by
  have hchange := changeAt_middle (m.rows ++ before) after f r
  rw [List.length_append, List.append_assoc, List.append_assoc] at hchange
  rw [addRows, changeRows, hchange, addRows]

end NativeModel

end Milp

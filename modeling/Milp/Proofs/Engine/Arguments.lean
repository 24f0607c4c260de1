import Milp.Engine.Add
import Milp.Model.Update
import Milp.Proofs.Comparison
import Milp.Proofs.Except
import Mathlib.Algebra.GroupWithZero.Nat
set_option autoImplicit false

/-! # The arguments of well-formed additions

A model passes lists of whole numbers, doubles, codes and names to its engine, with their true
lengths. The checks of the engine accept such lists (`isCountOf_lists`, `decodeAll_codes`,
`areParts_ranges`), and what is stored for a batch is what it was made from (`perform_storeColumns`,
`perform_storeRows`). -/

namespace Milp.Engine

/-! ## Lists and their lengths -/

@[simp] theorem items_list (xs : List Value) : items (.list xs) = xs := rfl

theorem hasLength_list (xs : List Value) : hasLength (.list xs) (.int xs.length) = .ok true := by
  show Value.equals (.int xs.length) (.int xs.length) = _
  rw [Value.equals_int, decide_eq_true rfl]

theorem haveLength_lists (n : Nat) (lists : List (List Value)) (h : ∀ xs ∈ lists, xs.length = n) :
    haveLength n (.int n) (lists.map .list) = .ok true := by
  induction lists with
  | nil => exact (Value.equals_int n n).trans (by rw [decide_eq_true rfl])
  | cons xs rest ih =>
    have hn : n = xs.length := (h xs List.mem_cons_self).symm
    have hrest := ih fun ys hys => h ys (List.mem_cons_of_mem _ hys)
    show (if n = xs.length then haveLength n (.int n) (rest.map .list) else .ok false) = _
    rw [if_pos hn, hrest]

theorem isCountOf_lists (n : Nat) (lists : List (List Value)) (h : ∀ xs ∈ lists, xs.length = n) :
    isCountOf (.int n) (lists.map .list) = .ok true := by
  cases lists with
  | nil => rfl
  | cons xs rest =>
    have hn : xs.length = n := h xs List.mem_cons_self
    have hrest := haveLength_lists n rest fun ys hys => h ys (List.mem_cons_of_mem _ hys)
    have hneg : Value.holds .below (.int n) (.int 0) = .ok false := by
      rw [Value.holds_below_int, decide_eq_false (by omega)]
    rw [List.map_cons, isCountOf, hneg]
    show Failure.lift (haveLength xs.length (.int n) (rest.map .list)) = _
    rw [hn, hrest]
    rfl

/-! ## Codes -/

theorem decode_code {α : Type} {ofCode? : String → Option α} {code : α → String}
    (h : ∀ a, ofCode? (code a) = some a) (a : α) :
    decode ofCode? (.text (code a)) = .ok (some a) := by
  show Except.ok (ofCode? (code a)) = _
  rw [h]

theorem decodeAll_codes {α : Type} {ofCode? : String → Option α} {code : α → String}
    (h : ∀ a, ofCode? (code a) = some a) (as : List α) :
    decodeAll ofCode? (as.map fun a => .text (code a)) = .ok (some as) := by
  induction as with
  | nil => rfl
  | cons a rest ih =>
    rw [List.map_cons, decodeAll, decode_code h]
    show (do return (← decodeAll ofCode? (rest.map fun a => .text (code a))).map (a :: ·)) = _
    rw [ih]
    rfl

/-! ## Positions -/

theorem isPosition_int (i count : Nat) :
    isPosition (.int i) count = .ok (decide (i < count)) := by
  have hpos : Value.holds .atMost (.int 0) (.int i) = .ok true := by
    rw [Value.holds_atMost_int, decide_eq_true (by omega)]
  rw [isPosition, hpos]
  show Value.holds .below (.int i) (.int count) = _
  rw [Value.holds_below_int]
  exact congrArg Except.ok (decide_eq_decide.2 Int.ofNat_lt)

theorem arePositions_ints (count : Nat) (is : List Nat) :
    arePositions count (is.map fun (i : Nat) => .int i) = .ok (decide (∀ i ∈ is, i < count)) := by
  induction is with
  | nil => rfl
  | cons i rest ih =>
    rw [List.map_cons, arePositions, isPosition_int]
    by_cases hi : i < count
    · rw [decide_eq_true hi]
      refine ih.trans (congrArg Except.ok (decide_eq_decide.2 ?_))
      simp [hi]
    · rw [decide_eq_false hi]
      refine congrArg Except.ok (decide_eq_false fun h => hi ?_).symm
      exact h i List.mem_cons_self

/-! ## Batches of columns -/

theorem perform_storeColumns (cs : List Column) (e : Engine) (w : Surroundings) :
    (storeColumns (columnData (cs.map fun c => .float c.objective) (cs.map fun c => .float c.lower)
      (cs.map fun c => .float c.upper) (cs.map (·.kind)) (cs.map (·.name)))).perform (e, w) =
      (.ok (), { e with columns := e.columns ++ cs }, w) := by
  induction cs generalizing e with
  | nil =>
    rw [List.append_nil]
    rfl
  | cons c rest ih =>
    refine (ih (e.pushColumn c)).trans ?_
    simp [pushColumn]

/-! ## Batches of rows -/

/-- A row with the positions of its columns as numbers. -/
structure TermRow where
  terms : List (Nat × Double)
  sense : Sense
  bound : Double
  name : Option String

namespace TermRow

/-- The row as an engine stores it. -/
def row (r : TermRow) : Row :=
  { indices := r.terms.map fun t => .int t.1, values := r.terms.map Prod.snd, sense := r.sense,
    bound := r.bound, name := .ofName r.name }

/-- The terms of rows that stand one after the other. -/
def allTerms (rs : List TermRow) : List (Nat × Double) := rs.flatMap (·.terms)

/-- Whether terms are at positions of columns. -/
def InRange (count : Nat) (ts : List (Nat × Double)) : Prop := ∀ t ∈ ts, t.1 < count

/-- Where rows start that stand one after the other from a position on. -/
def startsFrom (position : Nat) : List TermRow → List Nat
  | [] => []
  | r :: rest => position :: startsFrom (position + r.terms.length) rest

/-- Where such rows start and end. -/
def rangesFrom (position : Nat) : List TermRow → List (Value × Value)
  | [] => []
  | r :: rest =>
    (.int position, .int (position + r.terms.length : Nat)) ::
      rangesFrom (position + r.terms.length) rest

theorem length_startsFrom (position : Nat) (rs : List TermRow) :
    (startsFrom position rs).length = rs.length := by
  induction rs generalizing position with
  | nil => rfl
  | cons r rest ih => rw [startsFrom, List.length_cons, List.length_cons, ih]

theorem length_allTerms (rs : List TermRow) :
    (allTerms rs).length = (rs.map (·.terms.length)).sum := List.length_flatMap

/-- A row starts where the terms of the rows before it end. -/
theorem getElem?_startsFrom (position : Nat) (rs : List TermRow) {k : Nat} (hk : k < rs.length) :
    (startsFrom position rs)[k]? = some (position + ((rs.take k).map (·.terms.length)).sum) := by
  induction rs generalizing position k with
  | nil => cases hk
  | cons r rest ih =>
    cases k with
    | zero => rfl
    | succ k =>
      have hrest := ih (position + r.terms.length) (Nat.lt_of_succ_lt_succ hk)
      rw [startsFrom, List.getElem?_cons_succ, hrest, List.take_succ_cons, List.map_cons,
        List.sum_cons, Nat.add_assoc]

/-- No row starts before the first or after the end of all terms. -/
theorem startsFrom_bounds (position : Nat) (rs : List TermRow) {start : Nat}
    (h : start ∈ startsFrom position rs) :
    position ≤ start ∧ start ≤ position + (allTerms rs).length := by
  induction rs generalizing position with
  | nil => cases h
  | cons r rest ih =>
    have hlength : (allTerms (r :: rest)).length = r.terms.length + (allTerms rest).length :=
      List.length_append
    rcases List.mem_cons.1 h with rfl | hrest
    · omega
    · have hbounds := ih (position + r.terms.length) hrest
      omega

theorem startsFrom_sorted (position : Nat) (rs : List TermRow) :
    (startsFrom position rs).Pairwise (· ≤ ·) := by
  induction rs generalizing position with
  | nil => exact .nil
  | cons r rest ih =>
    refine .cons (fun start hstart => ?_) (ih (position + r.terms.length))
    have hbounds := startsFrom_bounds (position + r.terms.length) rest hstart
    omega

theorem InRange.mono {count count' : Nat} {ts : List (Nat × Double)} (h : InRange count ts)
    (hcount : count ≤ count') : InRange count' ts :=
  fun t ht => Nat.lt_of_lt_of_le (h t ht) hcount

end TermRow

open TermRow

/-- Each row ends where the next one starts, and the last one where the terms end. -/
theorem parts_starts (position : Nat) (rs : List TermRow) :
    parts ((startsFrom position rs).map fun (i : Nat) => .int i)
      (.int (position + (allTerms rs).length : Nat)) = rangesFrom position rs := by
  induction rs generalizing position with
  | nil => rfl
  | cons r rest ih =>
    have hrest := ih (position + r.terms.length)
    have hlength : position + (allTerms (r :: rest)).length =
        position + r.terms.length + (allTerms rest).length := by
      rw [allTerms, List.flatMap_cons, List.length_append, Nat.add_assoc]
      rfl
    rw [hlength]
    cases rest with
    | nil => rfl
    | cons s rest =>
      rw [rangesFrom, ← hrest]
      rfl

theorem areParts_ranges (position : Nat) (rs : List TermRow) :
    areParts (rangesFrom position rs) = .ok true := by
  induction rs generalizing position with
  | nil => rfl
  | cons r rest ih =>
    rw [rangesFrom, areParts, Value.holds_below_int, Value.holds_below_int,
      decide_eq_false (by omega), decide_eq_false (by omega)]
    exact ih _

/-- What stands between the start and the end of a part in the middle is that part. -/
theorem between_append {α : Type} (before part after : List α) :
    between (before ++ (part ++ after)) (.int before.length)
      (.int (before.length + part.length : Nat)) = .ok part := by
  have hlength : ((before.length + part.length : Nat) - (before.length : Int)).toNat =
      part.length := by omega
  show Except.ok (((before ++ (part ++ after)).drop (before.length : Int).toNat).take
    ((before.length + part.length : Nat) - (before.length : Int)).toNat) = _
  rw [hlength, Int.toNat_natCast, List.drop_left, List.take_left]

theorem rowOf_terms (r : TermRow) :
    rowOf (r.terms.map fun t => .int t.1) (r.terms.map fun t => .float t.2) r.sense
      (.float r.bound) (.ofName r.name) = .ok r.row := by
  have hvalues : (r.terms.map fun t => Value.float t.2).mapM Value.toDouble =
      .ok (r.terms.map Prod.snd) :=
    mapM_map_eq_ok (g := Value.toDouble) (k := Prod.snd) (fun _ => rfl) r.terms
  rw [rowOf, hvalues]
  rfl

theorem perform_storeRows (before : List (Nat × Double)) (rs : List TermRow) (e : Engine)
    (w : Surroundings) :
    (storeRows ((before ++ allTerms rs).map fun t => .int t.1)
      ((before ++ allTerms rs).map fun t => .float t.2)
      (rowData (rangesFrom before.length rs) (rs.map (·.sense)) (rs.map fun r => .float r.bound)
        (rs.map fun r => .ofName r.name))).perform (e, w) =
      (.ok (), { e with rows := e.rows ++ rs.map row }, w) := by
  induction rs generalizing before e with
  | nil =>
    show (_, { e with rows := e.rows }, w) = (_, { e with rows := e.rows ++ [] }, w)
    rw [List.append_nil]
  | cons r rest ih =>
    have hterms : before ++ allTerms (r :: rest) = before ++ r.terms ++ allTerms rest := by
      rw [List.append_assoc]
      rfl
    have hrow : RowData.row ⟨.int before.length, .int (before.length + r.terms.length : Nat),
        r.sense, .float r.bound, .ofName r.name⟩
        ((before ++ allTerms (r :: rest)).map fun t => .int t.1)
        ((before ++ allTerms (r :: rest)).map fun t => .float t.2) = .ok r.row := by
      have hindices := between_append (before.map fun t => Value.int t.1)
        (r.terms.map fun t => .int t.1) ((allTerms rest).map fun t => .int t.1)
      have hvalues := between_append (before.map fun t => Value.float t.2)
        (r.terms.map fun t => .float t.2) ((allTerms rest).map fun t => .float t.2)
      rw [List.length_map, List.length_map] at hindices hvalues
      rw [RowData.row, hterms, List.append_assoc]
      simp only [List.map_append, hindices, hvalues]
      exact rowOf_terms r
    have hrest := ih (before ++ r.terms) (e.pushRow r.row)
    rw [List.length_append, ← hterms] at hrest
    simp only [rangesFrom, List.map_cons, rowData, List.zip_cons_cons, storeRows, hrow]
    refine hrest.trans ?_
    simp [pushRow]

end Milp.Engine

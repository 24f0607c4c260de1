import Milp.Proofs.Engine.Batch
set_option autoImplicit false

/-! # How a batch of rows is cut

A batch of rows comes as one list of terms with the position at which each row starts. The checks of
an engine see that every start lies between zero and the next one, and that the terms end with the
last row (`Engine.exists_cutAt`). So an accepted batch is cut at its starts: every row has the terms
up to the next start, and what comes after the first start is stored once and in order. Nothing is
said about the first start itself. The terms before it, and all terms of a batch without rows, are
accepted and then left out (`Engine.addConstraints_cut`, `Engine.addConstraints_drops`). -/

namespace Milp.Engine

open Milp.Action

/-! ## Parts of a list -/

section Cut

variable {α : Type} {xs : List α} {starts : List Nat}

/-- The parts of a list that start at the given positions. Each ends where the next one starts, and
the last one where the list does. -/
def cut (xs : List α) (starts : List Nat) : List (List α) :=
  List.zipWith (fun start stop => xs.extract start stop) starts (starts.drop 1 ++ [xs.length])

theorem cut_cons (xs : List α) (start : Nat) (rest : List Nat) :
    cut xs (start :: rest) = xs.extract start (rest.headD xs.length) :: cut xs rest := by
  cases rest <;> rfl

/-- Starts are in order up to the end if the first one is and the others are. -/
theorem isChain_cons_iff {start stop : Nat} :
    (start :: starts ++ [stop]).IsChain (· ≤ ·) ↔
      start ≤ starts.headD stop ∧ (starts ++ [stop]).IsChain (· ≤ ·) := by
  cases starts <;> simp

/-- Parts in order have everything but what comes before the first of them. -/
theorem flatten_cut (h : (starts ++ [xs.length]).IsChain (· ≤ ·)) :
    (cut xs starts).flatten = xs.drop (starts.headD xs.length) := by
  induction starts with
  | nil => exact (List.drop_length).symm
  | cons start rest ih =>
    obtain ⟨hle, hrest⟩ := isChain_cons_iff.1 h
    rw [cut_cons, List.flatten_cons, ih hrest, List.headD_cons]
    calc xs.extract start (rest.headD xs.length) ++ xs.drop (rest.headD xs.length)
        = xs.extract start (rest.headD xs.length) ++
            (xs.drop start).drop (rest.headD xs.length - start) := by
          rw [List.drop_drop, Nat.add_sub_cancel' hle]
      _ = xs.drop start := List.take_append_drop _ _

/-- The first start is not after the end. -/
theorem headD_le {stop : Nat} (h : (starts ++ [stop]).IsChain (· ≤ ·)) :
    starts.headD stop ≤ stop := by
  induction starts with
  | nil => exact Nat.le_refl stop
  | cons start rest ih =>
    obtain ⟨hle, hrest⟩ := isChain_cons_iff.1 h
    exact Nat.le_trans hle (ih hrest)

end Cut

/-! ## Rows of a batch -/

/-- The rows are the parts of the terms at the given starts, with the values read as doubles. -/
structure CutAt (starts : List Nat) (indices values : List Value) (rows : List Row) : Prop where
  ordered : (starts ++ [indices.length]).IsChain (· ≤ ·)
  parallel : starts ≠ [] → values.length = indices.length
  indices : rows.map (·.indices) = cut indices starts
  values : (cut values starts).mapM (·.mapM Value.toDouble) = .ok (rows.map (·.values))

namespace CutAt

variable {starts : List Nat} {indices values : List Value} {rows : List Row}

/-- Every term from the first start on is in one row, and in its place. -/
theorem flatMap_indices (h : CutAt starts indices values rows) :
    rows.flatMap (·.indices) = indices.drop (starts.headD indices.length) := by
  rw [List.flatMap, h.indices, flatten_cut h.ordered]

theorem flatMap_values (h : CutAt starts indices values rows) :
    (values.drop (starts.headD values.length)).mapM Value.toDouble =
      .ok (rows.flatMap (·.values)) := by
  have hordered : (starts ++ [values.length]).IsChain (· ≤ ·) := by
    by_cases hstarts : starts = []
    · rw [hstarts]
      exact .singleton _
    · rw [h.parallel hstarts]
      exact h.ordered
  rw [← flatten_cut hordered]
  exact mapM_flatten h.values

/-- No term is left out exactly if none comes before the first row. -/
theorem flatMap_indices_eq_iff (h : CutAt starts indices values rows) :
    rows.flatMap (·.indices) = indices ↔ starts.headD indices.length = 0 := by
  rw [h.flatMap_indices]
  constructor
  · intro hdrop
    have hlength := congrArg List.length hdrop
    have hle := headD_le h.ordered
    rw [List.length_drop] at hlength
    omega
  · intro hzero
    rw [hzero, List.drop_zero]

end CutAt

theorem of_areParts_cons {start stop : Value} {rest : List (Value × Value)} {a b : Int}
    (h : areParts ((start, stop) :: rest) = .ok true) (ha : start.toIndex = .ok a)
    (hb : stop.toIndex = .ok b) : 0 ≤ a ∧ a ≤ b ∧ areParts rest = .ok true := by
  have hzero : (Value.int 0).toIndex = .ok 0 := rfl
  rw [areParts, Value.holds_below_of_toIndex ha hzero, Value.holds_below_of_toIndex hb ha] at h
  by_cases hnegative : a < 0
  · rw [decide_eq_true hnegative] at h
    cases h
  by_cases hless : b < a
  · rw [decide_eq_false hnegative, decide_eq_true hless] at h
    cases h
  rw [decide_eq_false hnegative, decide_eq_false hless] at h
  exact ⟨Int.not_lt.1 hnegative, Int.not_lt.1 hless, h⟩

/-- Where a row ends is where the next one starts, or the number of terms. -/
theorem toIndex_headD {begins : List Value} {size : Value} {starts : List Nat} {n : Nat} {b : Int}
    (hstarts : begins.mapM Value.toIndex = .ok (starts.map Int.ofNat))
    (hsize : ∀ k, size.toIndex = .ok k → (n : Int) = k)
    (hb : (begins.headD size).toIndex = .ok b) : b = starts.headD n := by
  cases begins with
  | nil =>
    have hnil : starts = [] := List.map_eq_nil_iff.1 (Except.ok.inj hstarts).symm
    rw [hnil]
    exact (hsize b hb).symm
  | cons v rest =>
    obtain ⟨a, as, ha, -, hcons⟩ := of_mapM_cons hstarts
    obtain ⟨start, starts', rfl, rfl, -⟩ := List.map_eq_cons_iff.1 hcons
    exact Except.ok.inj (hb.symm.trans ha)

/-- Rows of a batch that have all been read are cut at starts in order. -/
theorem exists_cutAt {begins is vs bounds names : List Value} {size : Value} {senses : List Sense}
    {rs : List Row} (hsenses : senses.length = begins.length)
    (hbounds : bounds.length = begins.length) (hnames : names.length = begins.length)
    (hsize : ∀ k, size.toIndex = .ok k → (is.length : Int) = k ∧ (vs.length : Int) = k)
    (hordered : areParts (parts begins size) = .ok true)
    (hrs : (rowData (parts begins size) senses bounds names).mapM (RowData.row · is vs) =
      .ok rs) :
    ∃ starts : List Nat, begins.mapM Value.toIndex = .ok (starts.map Int.ofNat) ∧
      CutAt starts is vs rs := by
  induction begins generalizing senses bounds names rs with
  | nil =>
    cases hrs
    refine ⟨[], rfl, ?_, fun h => absurd rfl h, rfl, rfl⟩
    exact .singleton _
  | cons v rest ih =>
    obtain ⟨s, ss, rfl⟩ := List.exists_cons_of_length_eq_add_one hsenses
    obtain ⟨u, us, rfl⟩ := List.exists_cons_of_length_eq_add_one hbounds
    obtain ⟨n, ns, rfl⟩ := List.exists_cons_of_length_eq_add_one hnames
    rw [parts_cons] at hordered hrs
    obtain ⟨r, rs, hr, hrest, rfl⟩ := of_mapM_cons hrs
    obtain ⟨a, b, ha, hb, hindices, hvalues, -, -⟩ := of_row hr
    obtain ⟨hpos, hle, hordered⟩ := of_areParts_cons hordered ha hb
    obtain ⟨starts, hstarts, hcut⟩ := ih (Nat.succ.inj hsenses) (Nat.succ.inj hbounds)
      (Nat.succ.inj hnames) hordered hrest
    -- the row ends at the same position in both lists, which have the same length
    have hstop := toIndex_headD hstarts (fun k hk => (hsize k hk).1) hb
    have hstop' := toIndex_headD hstarts (fun k hk => (hsize k hk).2) hb
    have hparallel : vs.length = is.length := by
      by_cases hnone : starts = []
      · rw [hnone] at hstop hstop'
        exact Int.ofNat_inj.1 (hstop'.symm.trans hstop)
      · exact hcut.parallel hnone
    obtain ⟨start, rfl⟩ := Int.eq_ofNat_of_zero_le hpos
    have hslice (xs : List Value) (hb : b = starts.headD xs.length) :
        (xs.drop (start : Int).toNat).take (b - start).toNat =
          xs.extract start (starts.headD xs.length) := by
      rw [hb, Int.toNat_natCast, Int.toNat_sub]
    refine ⟨start :: starts, mapM_cons_eq_ok ha hstarts, isChain_cons_iff.2 ⟨?_, hcut.ordered⟩,
      fun _ => hparallel, ?_, ?_⟩
    · rw [hstop] at hle
      exact Int.ofNat_le.1 hle
    · rw [List.map_cons, hindices, hslice is hstop, hcut.indices, cut_cons]
    · rw [hslice vs hstop'] at hvalues
      rw [cut_cons]
      exact mapM_cons_eq_ok hvalues hcut.values

theorem of_arePositions {count : Nat} {vs : List Value} (h : arePositions count vs = .ok true) :
    ∀ v ∈ vs, ∀ i, v.toIndex = .ok i → 0 ≤ i ∧ i < count := by
  induction vs with
  | nil => exact List.forall_mem_nil _
  | cons v rest ih =>
    obtain ⟨within, hwithin, h⟩ := bind_eq_ok_iff.1 h
    cases within
    · cases h
    refine List.forall_mem_cons.2 ⟨fun i hi => ?_, ih h⟩
    have hzero : (Value.int 0).toIndex = .ok 0 := rfl
    have hcount : (Value.int count).toIndex = .ok (count : Int) := rfl
    rw [isPosition, Value.holds_atMost_of_toIndex hzero hi,
      Value.holds_below_of_toIndex hi hcount] at hwithin
    by_cases hpos : 0 ≤ i
    · rw [decide_eq_true hpos] at hwithin
      exact ⟨hpos, of_decide_eq_true (Except.ok.inj hwithin)⟩
    · rw [decide_eq_false hpos] at hwithin
      cases hwithin

/-! ## Additions of rows -/

section Rows

variable {e : Engine} {w : Surroundings}

/-- The announced number of rows was appended, with the parts of the terms at the given starts. -/
def AddedCut (count : Value) (begins indices values : List Value) (e t : Engine) : Prop :=
  ∃ (starts : List Nat) (rs : List Row), t.rows = e.rows ++ rs ∧ count.toIndex = .ok rs.length ∧
    begins.mapM Value.toIndex = .ok (starts.map Int.ofNat) ∧
    (∀ v ∈ indices, ∀ i, v.toIndex = .ok i → 0 ≤ i ∧ i < e.columns.length) ∧
    CutAt starts indices values rs

theorem untouched_heedless : Heedless fun s => Untouched e s.1 where
  record _ h := by
    unfold Engine.record
    split
    · exact h
    · exact ⟨h.columns, h.rows, h.solution⟩
  setInjected operation f h := by
    unfold Engine.setInjected
    split
    · exact ⟨h.columns, h.rows, h.solution⟩
    · exact h

theorem storeRows_leads (indices values : List Value) (ds : List RowData) :
    Leads (fun s => Untouched e s.1) (storeRows indices values ds)
      (fun _ s => ∃ rs, ds.mapM (RowData.row · indices values) = .ok rs ∧ s.1.rows = e.rows ++ rs)
      fun _ => True := by
  rintro ⟨t, u⟩ hs
  rw [perform_storeRows_read]
  cases hread : (readWhile (RowData.row · indices values) ds).2 with
  | none => exact ⟨_, readWhile_eq_mapM hread, congrArg (· ++ _) hs.rows⟩
  | some f => trivial

/-- What an accepted batch of rows leads to, whatever stands behind the engine. -/
theorem addConstraints_leads (count size begins indices values senses bounds names : Value) :
    Leads (· = (e, w)) (addConstraints count size begins indices values senses bounds names)
      (Answered (fun s => Untouched e s.1) fun s =>
        AddedCut count (Addition.itemsOf w.view begins) (Addition.itemsOf w.view indices)
          (Addition.itemsOf w.view values) e s.1) fun _ => True := by
  have hview (s : Engine × Surroundings) (hs : s = (e, w)) : s.2.view = w.view := by rw [hs]
  refine listed_then hview (fun _ _ => trivial) fun bs hbs => ?_
  refine listed_then hview (fun _ _ => trivial) fun is his => ?_
  refine listed_then hview (fun _ _ => trivial) fun vs hvs => ?_
  refine listed_then hview (fun _ _ => trivial) fun ss _ => ?_
  refine listed_then hview (fun _ _ => trivial) fun us _ => ?_
  refine listed_then hview (fun _ _ => trivial) fun ns _ => ?_
  simp only [Addition.itemsOf, hbs, his, hvs]
  refine Leads.mono (recorded_leads untouched_heedless (fun _ _ => trivial) rfl ?_)
    (fun s hs => hs ▸ ⟨rfl, rfl, rfl⟩) (fun _ _ h => h) fun _ h => h
  refine Leads.ofExcept_then (fun _ _ => trivial) fun senses? hcheck => ?_
  cases senses? with
  | none => exact refused_answered _
  | some decoded =>
    obtain ⟨-, -, -, -, -, hordered⟩ := of_checkRows hcheck
    refine engine_then fun s hs => ?_
    refine Leads.ofExcept_then (fun _ _ => trivial) fun inRange hpositions => ?_
    cases inRange
    · exact refused_answered _
    rw [hs.columns] at hpositions
    refine Leads.ofExcept_then (fun _ _ => trivial) fun named hnamed => ?_
    have hnative := ifNative_leads (I := fun s => Untouched e s.1)
      (fun _ => addNativeRows_keeps (items bs) (items is) (items vs) decoded (items us) named)
      fun _ _ _ h => h
    refine (hnative.mono (fun _ h => h) (fun _ _ h => h) fun _ _ => trivial).bind fun added => ?_
    cases added
    · exact refused_answered _
    refine Leads.ofFault_then (fun _ _ => trivial) fun k hk => ?_
    refine (storeRows_leads _ _ _).bind fun _ => ?_
    have hforgets : Forgets
        (fun s => AddedCut count (items bs) (items is) (items vs) e s.1)
        (fun s => AddedCut count (items bs) (items is) (items vs) e s.1) := fun _ _ h => h
    refine (finishAddition_answered hforgets).mono ?_ (fun _ _ h => h) fun _ _ => trivial
    rintro t ⟨rs, hrs, hrows⟩
    obtain ⟨n, rfl, hbegins, hsenses, hbounds, hnames, hsize⟩ :=
      lengths_of_checkRows hcheck hk hnamed
    have hcounted : rs.length = n := by
      have hdata := length_rowData ((length_parts (items bs) size).trans hbegins) hsenses hbounds
        hnames
      rw [← hdata]
      exact (mapM_eq_ok_iff.1 hrs).length_eq.symm
    obtain ⟨starts, hstarts, hcut⟩ := exists_cutAt (hsenses.trans hbegins.symm)
      (hbounds.trans hbegins.symm) (hnames.trans hbegins.symm) hsize hordered hrs
    exact ⟨starts, rs, hrows, hcounted ▸ hk, hstarts, of_arePositions hpositions, hcut⟩

/-- What is stored of an accepted batch of rows, on any engine: as many rows as announced, each with
the terms from its start to the next one. Every term from the first start on is stored once, and all
of them are exactly if that start is zero; a batch without rows starts at its end. -/
theorem addConstraints_cut (e : Engine) (w : Surroundings)
    (count size begins indices values senses bounds names : Value)
    (h : Accepted ((addConstraints count size begins indices values senses bounds names).perform
      (e, w))) :
    let is := Addition.itemsOf w.view indices
    let vs := Addition.itemsOf w.view values
    ∃ (starts : List Nat) (rs : List Row),
      ((addConstraints count size begins indices values senses bounds names).perform
        (e, w)).2.1.rows = e.rows ++ rs ∧
      count.toIndex = .ok rs.length ∧
      (Addition.itemsOf w.view begins).mapM Value.toIndex = .ok (starts.map Int.ofNat) ∧
      (starts ++ [is.length]).IsChain (· ≤ ·) ∧
      (∀ v ∈ is, ∀ i, v.toIndex = .ok i → 0 ≤ i ∧ i < e.columns.length) ∧
      rs.map (·.indices) = cut is starts ∧
      (cut vs starts).mapM (·.mapM Value.toDouble) = .ok (rs.map (·.values)) ∧
      rs.flatMap (·.indices) = is.drop (starts.headD is.length) ∧
      (vs.drop (starts.headD vs.length)).mapM Value.toDouble = .ok (rs.flatMap (·.values)) ∧
      (rs.flatMap (·.indices) = is ↔ starts.headD is.length = 0) := by
  obtain ⟨starts, rs, hrows, hcount, hstarts, hpositions, hcut⟩ := Answered.of_accepted
    (addConstraints_leads count size begins indices values senses bounds names) rfl h
  exact ⟨starts, rs, hrows, hcount, hstarts, hcut.ordered, hpositions, hcut.indices, hcut.values,
    hcut.flatMap_indices, hcut.flatMap_values, hcut.flatMap_indices_eq_iff⟩

/-- Two rows that start at the beginning have all terms between them. -/
theorem addConstraints_cut_two :
    let column : Column := ⟨Double.zero, Double.zero, Double.one, .continuous, .nothing⟩
    let terms : List Value := [.int 0, .int 1, .int 2]
    let call := addConstraints (.int 2) (.int 3) (.list [.int 0, .int 2]) (.list terms)
      (.list [.int 1, .int (-1), .int 5]) (.list [.text "G", .text "E"]) (.list [.int 1, .int 0])
      .nothing
    let r := call.perform ({ backend := .store, columns := [column, column, column] },
      { view := .blank })
    Accepted r ∧ r.2.1.rows.flatMap (·.indices) = terms := by
  intro column terms call r
  have haccepted : Accepted r := by
    unfold r call terms column
    decide +kernel
  obtain ⟨starts, rs, hrows, -, hstarts, -, -, -, -, -, -, hall⟩ :=
    addConstraints_cut _ _ _ _ _ _ _ _ _ _ haccepted
  refine ⟨haccepted, ?_⟩
  have hfirst : starts.headD 3 = 0 := by
    have hmap : starts.map Int.ofNat = [0, 2] := (Except.ok.inj hstarts).symm
    obtain ⟨start, rest, rfl, hzero, -⟩ := List.map_eq_cons_iff.1 hmap
    exact Int.ofNat_eq_zero.1 hzero
  rw [hrows]
  exact hall.2 hfirst

/-- A row that starts after the only term is accepted without it, and so is a batch of no rows. -/
theorem addConstraints_drops :
    let column : Column := ⟨Double.zero, Double.zero, Double.one, .continuous, .nothing⟩
    let s : Engine × Surroundings :=
      ({ backend := .nearestToZero, columns := [column] }, { view := .blank })
    let late := (addConstraints (.int 1) (.int 1) (.list [.int 1]) (.list [.int 0])
      (.list [.int 1]) (.list [.text "L"]) (.list [.int 0]) .nothing).perform s
    let none := (addConstraints (.int 0) (.int 1) (.list []) (.list [.int 0]) (.list [.int 1])
      (.list []) (.list []) .nothing).perform s
    (Accepted late ∧ late.2.1.rows.map (·.indices.length) = [0]) ∧
      Accepted none ∧ none.2.1.rows.length = 0 := by
  decide +kernel

end Rows

end Milp.Engine

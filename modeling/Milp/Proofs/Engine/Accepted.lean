import Milp.Proofs.Engine.Batch
import Milp.Proofs.Engine.Deletion
set_option autoImplicit false

/-! # Additions that are accepted

What has happened once an engine with the native solver behind it has accepted an addition: the
arguments fitted together, the native solver has taken the columns or rows, all of their numbers could
be read, and exactly they were stored. -/

namespace Milp.Engine

open Milp.Action

variable {e : Engine} {w : Surroundings} {t : Engine × Surroundings} {status : Value}

/-! ## Parts of an addition -/

theorem not_refused {r : Refusal} {s : Engine × Surroundings}
    (h : (pure (refused r) : Acting Value).perform s = (.ok status, t))
    (hstatus : status.truthy t.2.view = .ok false) : False := by
  cases h
  cases (Value.truthy_refusal _ r).symm.trans hstatus

/-- A sequence that can be listed is listed, and nothing else. -/
theorem of_list_bind {v : Value} {f : Value → Acting Value} {s : Engine × Surroundings}
    (h : (list v >>= f).perform s = (.ok status, t)) :
    ∃ l, (f l).perform s = (.ok status, t) := by
  obtain ⟨l, -, h⟩ := of_ofFault_bind h
  exact ⟨l, h⟩

/-- What is stored was taken by the native solver first. -/
theorem of_ifNative {native : Acting Bool} {store : Acting Value}
    (hkeeps : ∀ e, Maintains (Kept e) native) (he : e.isNative = true)
    (h : (do
      if !(← ifNative native) then return refused .engineFailure
      store : Acting Value).perform (e, w) = (.ok status, t))
    (hstatus : status.truthy t.2.view = .ok false) :
    ∃ v, native.perform (e, w) = (.ok true, e, v) ∧ store.perform (e, v) = (.ok status, t) := by
  obtain ⟨added, ⟨f, v⟩, hnative, h⟩ := of_perform_bind h
  have hperform : (ifNative native).perform (e, w) = native.perform (e, w) := by
    show (if e.isNative then native else return true : Acting Bool).perform (e, w) = _
    rw [if_pos he]
  rw [hperform] at hnative
  have hkept := hkeeps e (e, w) rfl
  rw [hnative] at hkept
  obtain rfl : f = e := hkept
  cases added
  · exact (not_refused h hstatus).elim
  · exact ⟨v, hnative, h⟩

theorem none_of_outcomeOf {o : Option Fault} (h : outcomeOf o = .ok ()) : o = none := by
  cases o with
  | none => rfl
  | some f => cases h

/-- Columns that are stored are all that were to be stored. -/
theorem of_storeColumns {ds : List ColumnData} {u : Engine × Surroundings}
    (h : (storeColumns ds).perform (e, w) = (.ok (), u)) :
    ∃ cs, ds.mapM ColumnData.column = .ok cs ∧ u = ({ e with columns := e.columns ++ cs }, w) := by
  rw [perform_storeColumns_read] at h
  obtain ⟨hread, hu⟩ := Prod.mk.inj h
  exact ⟨_, readWhile_eq_mapM (none_of_outcomeOf hread), hu.symm⟩

theorem of_storeRows {indices values : List Value} {ds : List RowData} {u : Engine × Surroundings}
    (h : (storeRows indices values ds).perform (e, w) = (.ok (), u)) :
    ∃ rs, ds.mapM (RowData.row · indices values) = .ok rs ∧
      u = ({ e with rows := e.rows ++ rs }, w) := by
  rw [perform_storeRows_read] at h
  obtain ⟨hread, hu⟩ := Prod.mk.inj h
  exact ⟨_, readWhile_eq_mapM (none_of_outcomeOf hread), hu.symm⟩

/-! ## Columns -/

theorem addVar_accepted {objective lower upper kind name : Value} (he : e.isNative = true)
    (h : (addVar objective lower upper kind name).perform (e, w) = (.ok status, t))
    (hstatus : status.truthy t.2.view = .ok false) :
    ∃ k c v, (addNativeColumn objective lower upper k name).perform (e, w) = (.ok true, e, v) ∧
      columnOf objective lower upper k name = .ok c ∧ t = ((e.pushColumn c).clearSolution, v) := by
  rw [addVar, perform_recorded_native he] at h
  obtain ⟨k?, -, h⟩ := of_ofFault_bind h
  cases k? with
  | none => exact (not_refused h hstatus).elim
  | some k =>
    obtain ⟨v, hnative, h⟩ := of_ifNative (fun _ => addNativeColumn_keeps _ _ _ _ _) he h hstatus
    obtain ⟨c, hc, h⟩ := of_ofFault_bind h
    cases h
    exact ⟨k, c, v, hnative, hc, rfl⟩

theorem addVars_accepted {count objectives lowers uppers kinds names : Value}
    (he : e.isNative = true)
    (h : (addVars count objectives lowers uppers kinds names).perform (e, w) = (.ok status, t))
    (hstatus : status.truthy t.2.view = .ok false) :
    ∃ (n : Nat) (os ls us ns : List Value) (ks : List VarKind) (cs : List Column)
      (v : Surroundings), os.length = n ∧ ls.length = n ∧ us.length = n ∧ ks.length = n ∧
      ns.length = n ∧ (addNativeColumns os ls us ks ns).perform (e, w) = (.ok true, e, v) ∧
      (columnData os ls us ks ns).mapM ColumnData.column = .ok cs ∧
      t = (clearSolution { e with columns := e.columns ++ cs }, v) := by
  obtain ⟨os, h⟩ := of_list_bind h
  obtain ⟨ls, h⟩ := of_list_bind h
  obtain ⟨us, h⟩ := of_list_bind h
  obtain ⟨ks, h⟩ := of_list_bind h
  obtain ⟨ns, h⟩ := of_list_bind h
  rw [perform_recorded_native he] at h
  obtain ⟨kinds?, hcheck, h⟩ := of_ofExcept_bind h
  cases kinds? with
  | none => exact (not_refused h hstatus).elim
  | some decoded =>
    obtain ⟨named, hnamed, h⟩ := of_ofExcept_bind h
    obtain ⟨v, hnative, h⟩ := of_ifNative (fun _ => addNativeColumns_keeps _ _ _ _ _) he h hstatus
    obtain ⟨k, hk, h⟩ := of_ofFault_bind h
    obtain ⟨_, s, hstored, h⟩ := of_perform_bind h
    obtain ⟨cs, hcs, rfl⟩ := of_storeColumns hstored
    cases h
    obtain ⟨n, rfl, hobjectives, hlowers, huppers, hkinds, hnames⟩ :=
      lengths_of_checkColumns hcheck hk hnamed
    exact ⟨n, _, _, _, _, _, cs, v, hobjectives, hlowers, huppers, hkinds, hnames, hnative, hcs, rfl⟩

/-! ## Rows -/

theorem addConstraint_accepted {size indices values sense bound name : Value}
    (he : e.isNative = true)
    (h : (addConstraint size indices values sense bound name).perform (e, w) = (.ok status, t))
    (hstatus : status.truthy t.2.view = .ok false) :
    ∃ (is vs : List Value) (s : Sense) (r : Row) (v : Surroundings),
      (addNativeRow is vs s bound name).perform (e, w) = (.ok true, e, v) ∧
      rowOf is vs s bound name = .ok r ∧ t = ((e.pushRow r).clearSolution, v) := by
  obtain ⟨is, h⟩ := of_list_bind h
  obtain ⟨vs, h⟩ := of_list_bind h
  rw [perform_recorded_native he] at h
  obtain ⟨sense?, -, h⟩ := of_ofFault_bind h
  cases sense? with
  | none => exact (not_refused h hstatus).elim
  | some sense =>
    obtain ⟨f, s, hf, h⟩ := of_perform_bind h
    cases hf
    obtain ⟨inRange, -, h⟩ := of_ofExcept_bind h
    cases inRange
    · exact (not_refused h hstatus).elim
    obtain ⟨v, hnative, h⟩ := of_ifNative (fun _ => addNativeRow_keeps _ _ _ _ _) he h hstatus
    obtain ⟨r, hr, h⟩ := of_ofFault_bind h
    cases h
    exact ⟨_, _, sense, r, v, hnative, hr, rfl⟩

theorem addConstraints_accepted {count size begins indices values senses bounds names : Value}
    (he : e.isNative = true)
    (h : (addConstraints count size begins indices values senses bounds names).perform (e, w) =
      (.ok status, t)) (hstatus : status.truthy t.2.view = .ok false) :
    ∃ (n : Nat) (bs is vs us ns : List Value) (ss : List Sense) (rs : List Row)
      (v : Surroundings), bs.length = n ∧ ss.length = n ∧ us.length = n ∧ ns.length = n ∧
      (∀ k, size.toIndex = .ok k → (is.length : Int) = k ∧ (vs.length : Int) = k) ∧
      (addNativeRows bs is vs ss us ns).perform (e, w) = (.ok true, e, v) ∧
      (rowData (parts bs size) ss us ns).mapM (RowData.row · is vs) = .ok rs ∧
      t = (clearSolution { e with rows := e.rows ++ rs }, v) := by
  obtain ⟨bs, h⟩ := of_list_bind h
  obtain ⟨is, h⟩ := of_list_bind h
  obtain ⟨vs, h⟩ := of_list_bind h
  obtain ⟨ss, h⟩ := of_list_bind h
  obtain ⟨us, h⟩ := of_list_bind h
  obtain ⟨ns, h⟩ := of_list_bind h
  rw [perform_recorded_native he] at h
  obtain ⟨senses?, hcheck, h⟩ := of_ofExcept_bind h
  cases senses? with
  | none => exact (not_refused h hstatus).elim
  | some decoded =>
    obtain ⟨f, s, hf, h⟩ := of_perform_bind h
    cases hf
    obtain ⟨inRange, -, h⟩ := of_ofExcept_bind h
    cases inRange
    · exact (not_refused h hstatus).elim
    obtain ⟨named, hnamed, h⟩ := of_ofExcept_bind h
    obtain ⟨v, hnative, h⟩ := of_ifNative (fun _ => addNativeRows_keeps _ _ _ _ _ _) he h hstatus
    obtain ⟨k, hk, h⟩ := of_ofFault_bind h
    obtain ⟨_, s, hstored, h⟩ := of_perform_bind h
    obtain ⟨rs, hrs, rfl⟩ := of_storeRows hstored
    cases h
    obtain ⟨n, rfl, hbegins, hsenses, hbounds, hnames, hsize⟩ :=
      lengths_of_checkRows hcheck hk hnamed
    exact ⟨n, _, _, _, _, _, _, rs, v, hbegins, hsenses, hbounds, hnames, hsize, hnative, hrs, rfl⟩

end Milp.Engine

import Milp.Proofs.Native.Trace
set_option autoImplicit false

/-! # The problem that an instance is told

What the native solver is told of columns and rows is a problem: where the bounds of each column are
and whether it is integer, and the sides and terms of each row (`Problem`). Names and the objective
have no part in it. Each call turns one problem into another one (`SolverCall.Turns`), and an instance
of which no call has failed counts as many columns and rows as the problem it was told has
(`Heard`). -/

namespace Milp

/-! ## Problems -/

/-- What a problem says of a column: where its bounds are, and whether it is integer. -/
structure Span where
  lower : Option Place
  upper : Option Place
  integer : Bool
deriving DecidableEq

structure Problem where
  columns : List Span := []
  /-- The rows, without names. -/
  rows : List NativeRow := []

namespace Problem

def addColumns (p : Problem) (rs : List Span) : Problem := { p with columns := p.columns ++ rs }

def addRows (p : Problem) (rs : List NativeRow) : Problem := { p with rows := p.rows ++ rs }

/-- The columns at some positions are integer. -/
def mark (p : Problem) (positions : List Int) : Problem :=
  { p with columns := NativeModel.changeAt positions ({ · with integer := true }) p.columns }

theorem mark_nil (p : Problem) : p.mark [] = p := by
  have hcolumns : NativeModel.changeAt [] (fun r : Span => { r with integer := true }) p.columns =
      p.columns := List.ext_getElem (by simp [NativeModel.changeAt]) fun n _ _ => by
    simp [NativeModel.changeAt]
  rw [mark, hcolumns]

theorem addRows_addRows (p : Problem) (rs qs : List NativeRow) :
    (p.addRows rs).addRows qs = p.addRows (rs ++ qs) := by
  rw [addRows, addRows, addRows, List.append_assoc]

end Problem

def NativeColumn.span (c : NativeColumn) : Span := ⟨c.lower.place?, c.upper.place?, c.integer⟩

def NativeRow.unnamed (r : NativeRow) : NativeRow := { r with name := none }

namespace NativeModel

/-- What the columns and rows of a model say, whatever they are called. -/
def problem (m : NativeModel) : Problem :=
  ⟨m.columns.map NativeColumn.span, m.rows.map NativeRow.unnamed⟩

/-- The model of a new instance after some calls, if none of them fails. -/
def sent (calls : List SolverCall) : NativeModel := calls.foldl apply {}

theorem sent_append (calls more : List SolverCall) :
    sent (calls ++ more) = more.foldl apply (sent calls) := List.foldl_append

theorem problem_addColumns (m : NativeModel) (cs : List NativeColumn) :
    (m.addColumns cs).problem = m.problem.addColumns (cs.map NativeColumn.span) := by
  simp [problem, addColumns, Problem.addColumns]

theorem problem_addRows (m : NativeModel) (rs : List NativeRow) :
    (m.addRows rs).problem = m.problem.addRows (rs.map NativeRow.unnamed) := by
  simp [problem, addRows, Problem.addRows]

theorem map_changeAt {α β : Type} {f : α → α} {g : β → β} {k : α → β} (h : ∀ x, k (f x) = g (k x))
    (positions : List Int) (xs : List α) :
    (changeAt positions f xs).map k = changeAt positions g (xs.map k) := by
  refine List.ext_getElem (by simp [changeAt]) fun n _ _ => ?_
  simp [changeAt, apply_ite k, h]

theorem changeAt_of_id {α : Type} (positions : List Int) (xs : List α) :
    changeAt positions id xs = xs := by
  refine List.ext_getElem (by simp [changeAt]) fun n _ _ => ?_
  simp [changeAt]

theorem problem_mark (m : NativeModel) (positions : List Int) :
    (m.changeColumns positions ({ · with integer := true })).problem =
      m.problem.mark positions := by
  have hcolumns : (changeAt positions ({ · with integer := true }) m.columns).map NativeColumn.span =
      changeAt positions ({ · with integer := true }) (m.columns.map NativeColumn.span) :=
    map_changeAt (fun _ => by rfl) _ _
  exact congrArg (Problem.mk · (m.rows.map NativeRow.unnamed)) hcolumns

theorem problem_nameColumn (m : NativeModel) (position : Int) (name : String) :
    (m.apply (.nameColumn position name)).problem = m.problem := by
  have hcolumns : (changeAt [position] ({ · with name := some name }) m.columns).map
      NativeColumn.span = m.columns.map NativeColumn.span :=
    (map_changeAt (g := id) (fun _ => by rfl) _ _).trans (changeAt_of_id _ _)
  exact congrArg (Problem.mk · (m.rows.map NativeRow.unnamed)) hcolumns

theorem problem_nameRow (m : NativeModel) (position : Int) (name : String) :
    (m.apply (.nameRow position name)).problem = m.problem := by
  have hrows : (changeAt [position] ({ · with name := some name }) m.rows).map
      NativeRow.unnamed = m.rows.map NativeRow.unnamed :=
    (map_changeAt (g := id) (fun _ => by rfl) _ _).trans (changeAt_of_id _ _)
  exact congrArg (Problem.mk (m.columns.map NativeColumn.span)) hrows

end NativeModel

/-! ## Calls -/

/-- A call makes one problem out of another, and an instance counts as many columns and rows as its
problem has. -/
structure SolverCall.Turns (c : SolverCall) (p q : Problem) : Prop where
  problem (m : NativeModel) (h : m.problem = p) : (m.apply c).problem = q
  columns (x : SolverInstance) (h : x.columns = p.columns.length) :
    (x.apply c).columns = q.columns.length
  rows (x : SolverInstance) (h : x.rows = p.rows.length) : (x.apply c).rows = q.rows.length

namespace SolverCall

theorem turns_addColumn (p : Problem) (objective lower upper : Double) :
    (addColumn objective lower upper).Turns p
      (p.addColumns [⟨lower.place?, upper.place?, false⟩]) where
  problem m h := by
    rw [NativeModel.apply, NativeModel.problem_addColumns, h]
    rfl
  columns x h := by simp [SolverInstance.apply, Problem.addColumns, h]
  rows x h := h

theorem turns_addColumns (p : Problem) {objectives lowers uppers : List Double} {rs : List Span}
    (h : (NativeModel.columnsOf objectives lowers uppers).map NativeColumn.span = rs)
    (hlength : objectives.length = rs.length) :
    (addColumns objectives lowers uppers).Turns p (p.addColumns rs) where
  problem m hm := by rw [NativeModel.apply, NativeModel.problem_addColumns, hm, h]
  columns x hx := by simp [SolverInstance.apply, Problem.addColumns, hx, hlength]
  rows x hx := hx

theorem turns_setIntegers (p : Problem) (positions : List Int) :
    (setIntegers positions).Turns p (p.mark positions) where
  problem m h := by rw [NativeModel.apply, NativeModel.problem_mark, h]
  columns x h := h.trans (by simp [Problem.mark, NativeModel.changeAt])
  rows x h := h

theorem turns_setInteger (p : Problem) (position : Int) :
    (setInteger position).Turns p (p.mark [position]) where
  problem m h := by rw [NativeModel.apply, NativeModel.problem_mark, h]
  columns x h := h.trans (by simp [Problem.mark, NativeModel.changeAt])
  rows x h := h

theorem turns_addRow (p : Problem) (lower upper : Double) (indices : List Int)
    (values : List Double) : (addRow lower upper indices values).Turns p
      (p.addRows [{ lower, upper, terms := indices.zip values }]) where
  problem m h := by
    rw [NativeModel.apply, NativeModel.problem_addRows, h]
    rfl
  columns x h := h
  rows x h := by simp [SolverInstance.apply, Problem.addRows, h]

theorem turns_addRows (p : Problem) {lowers uppers : List Double} {begins indices : List Int}
    {values : List Double} {rs : List NativeRow}
    (h : NativeModel.rowsOf (indices.zip values) (lowers.zip uppers) begins = rs)
    (hunnamed : ∀ r ∈ rs, r.unnamed = r) (hlength : lowers.length = rs.length) :
    (addRows lowers uppers begins indices values).Turns p (p.addRows rs) where
  problem m hm := by
    rw [NativeModel.apply, NativeModel.problem_addRows, hm, h, List.map_congr_left hunnamed,
      List.map_id']
  columns x hx := hx
  rows x hx := by simp [SolverInstance.apply, Problem.addRows, hx, hlength]

theorem turns_nameColumn (p : Problem) (position : Int) (name : String) :
    (nameColumn position name).Turns p p where
  problem m h := by rw [NativeModel.problem_nameColumn, h]
  columns x h := h
  rows x h := h

theorem turns_nameRow (p : Problem) (position : Int) (name : String) :
    (nameRow position name).Turns p p where
  problem m h := by rw [NativeModel.problem_nameRow, h]
  columns x h := h
  rows x h := h

end SolverCall

/-! ## What an instance is told -/

/-- The problem that an instance was told since an earlier state, whether or not it has taken it. -/
def Solver.told (i : Nat) (earlier s : Solver) : Problem :=
  (NativeModel.sent ((earlier.callsSince i s).map (·.call))).problem

/-- An instance was told a problem since some earlier calls of it, and no call has failed. -/
structure Heard (i : Nat) (earlier : List AnsweredCall) (p : Problem) (s : Solver) : Prop where
  exists_instance : i < s.instances.length
  calls : ∃ calls, s.callsOf i = earlier ++ calls ∧ (∀ c ∈ calls, c.reply ≠ .error) ∧
    (NativeModel.sent (calls.map (·.call))).problem = p
  columns : (s.instance? i).columns = p.columns.length
  rows : (s.instance? i).rows = p.rows.length

namespace Heard

variable {i : Nat} {earlier : List AnsweredCall} {p q : Problem} {s t : Solver}

/-- A new instance has been told nothing. -/
theorem create (s : Solver) :
    Heard s.instances.length (s.callsOf s.instances.length) {} s.create.2 := by
  have hnew : s.create.2.instance? s.instances.length = {} := by
    rw [Solver.instance?, Solver.create, List.getD_eq_getElem?_getD, List.getElem?_concat_length]
    rfl
  refine ⟨?_, ⟨[], (List.append_nil _).symm, List.forall_mem_nil _, rfl⟩, by rw [hnew]; rfl,
    by rw [hnew]; rfl⟩
  rw [Solver.create, List.length_append]
  exact Nat.lt_succ_self _

theorem of_sameAt (h : Heard i earlier p s) (hst : s.SameAt i t) : Heard i earlier p t where
  exists_instance := hst.length h.exists_instance
  calls := by
    rw [hst.calls]
    exact h.calls
  columns := by rw [hst.instance?, h.columns]
  rows := by rw [hst.instance?, h.rows]

theorem call (h : Heard i earlier p s) {c : SolverCall} (hc : c.Turns p q)
    (hreply : (s.call i c).1 ≠ .error) : Heard i earlier q (s.call i c).2 := by
  obtain ⟨hcolumns, hrows⟩ := Solver.instance?_call h.exists_instance c
  rw [SolverInstance.answered, if_neg hreply] at hcolumns hrows
  obtain ⟨calls, hcalls, hreplies, hproblem⟩ := h.calls
  refine ⟨?_, ⟨calls ++ [⟨i, c, (s.call i c).1⟩], ?_, fun d hd => ?_, ?_⟩,
    hcolumns.trans (hc.columns _ h.columns), hrows.trans (hc.rows _ h.rows)⟩
  · rw [Solver.length_instances_call]
    exact h.exists_instance
  · rw [Solver.callsOf_call, if_pos rfl, hcalls, List.append_assoc]
  · rcases List.mem_append.1 hd with hd | hd
    · exact hreplies d hd
    · rw [List.mem_singleton.1 hd]
      exact hreply
  · rw [List.map_append, NativeModel.sent_append]
    exact hc.problem _ hproblem

theorem told {u : Solver} (h : Heard i (u.callsOf i) p s) : u.told i s = p := by
  obtain ⟨calls, hcalls, -, hproblem⟩ := h.calls
  rw [Solver.told, Solver.callsSince, hcalls, List.drop_left]
  exact hproblem

end Heard

end Milp

import Milp.Proofs.Engine.Addition
set_option autoImplicit false

/-! # Additions with arguments of any kind

What a caller passes to an addition need not be well-formed. An engine in memory accepts only what it
announces, and what it refuses leaves no trace in it. A batch is read while it is stored, though: one
with a number that cannot be read is broken off, and what stands before that number stays
(`Addition.allOrNothing_or_begun`). A batch whose numbers can all be read is added as a whole or not
at all. -/

namespace Milp.Engine

open Milp.Action

/-! ## Counts -/

/-- A count that can be counted with equals no other number than its own. -/
theorem equals_of_toIndex {count : Value} {k : Int} (hk : count.toIndex = .ok k) (n : Int) :
    Value.equals (.int n) count = .ok (decide (n = k)) := by
  cases count with
  | number x =>
    rw [Value.equals, Value.depth_number, Value.depth_number]
    cases x with
    | truth b =>
      cases hk
      exact congrArg Except.ok (Number.same_int n (truthNumber b))
    | int _ =>
      cases hk
      exact congrArg Except.ok (Number.same_int n k)
    | refusal r =>
      cases hk
      exact congrArg Except.ok (Number.same_int n r.code)
    | item e | cell e =>
      cases e with
      | signed _ | unsigned _ =>
        cases hk
        rfl
      | _ => cases hk
    | _ => cases hk
  | _ => cases hk

theorem length_items {v : Value} {n : Nat} (h : length v = .ok n) : (items v).length = n := by
  cases v with
  | list xs | tuple xs =>
    cases h
    rfl
  | text s | textItem s | bytes s =>
    cases h
    exact (List.length_map _).trans String.length_toList
  | table es =>
    cases h
    exact List.length_map _
  | expr tag e =>
    cases h
    exact List.length_replicate
  | _ => cases h

section Counted

variable {count : Value} {k : Int}

theorem length_of_equals (hk : count.toIndex = .ok k) {v : Value} {n : Nat} (hn : length v = .ok n)
    (h : Value.equals (.int n) count = .ok true) : ((items v).length : Int) = k := by
  rw [equals_of_toIndex hk, Except.ok.injEq, decide_eq_true_iff] at h
  rw [length_items hn, h]

theorem length_of_hasLength (hk : count.toIndex = .ok k) {v : Value}
    (h : hasLength v count = .ok true) : ((items v).length : Int) = k := by
  obtain ⟨n, hn, h⟩ := bind_eq_ok_iff.1 h
  exact length_of_equals hk hn h

theorem length_of_haveLength {n : Nat} {vs : List Value} (h : haveLength n count vs = .ok true) :
    (∀ v ∈ vs, length v = .ok n) ∧ Value.equals (.int n) count = .ok true := by
  induction vs with
  | nil => exact ⟨List.forall_mem_nil _, h⟩
  | cons v rest ih =>
    obtain ⟨m, hm, h⟩ := bind_eq_ok_iff.1 h
    split at h
    · rename_i he
      subst he
      obtain ⟨hrest, hcount⟩ := ih h
      exact ⟨List.forall_mem_cons.2 ⟨hm, hrest⟩, hcount⟩
    · cases h

/-- Sequences that have the announced length have it as their number of elements. -/
theorem length_of_isCountOf (hk : count.toIndex = .ok k) {vs : List Value}
    (h : isCountOf count vs = .ok true) : ∀ v ∈ vs, ((items v).length : Int) = k := by
  cases vs with
  | nil => exact List.forall_mem_nil _
  | cons u rest =>
    obtain ⟨b, -, h⟩ := bind_eq_ok_iff.1 h
    cases b
    · obtain ⟨n, hn, h⟩ := bind_eq_ok_iff.1 (Failure.lift_eq_ok.1 h)
      obtain ⟨hrest, hcount⟩ := length_of_haveLength h
      exact List.forall_mem_cons.2 ⟨length_of_equals hk hn hcount,
        fun v hv => length_of_equals hk (hrest v hv) hcount⟩
    · cases h

theorem length_repeated {α : Type} (x : α) (n : Int) :
    (Value.repeated [x] n).length = n.toNat := by
  simp [Value.repeated]

/-- Names that are missing are made up, one for each entity. -/
theorem length_namesFor_nothing (hk : count.toIndex = .ok k) {ns : List Value}
    (h : namesFor .nothing count = .ok ns) : ns.length = k.toNat := by
  rw [namesFor, Value.combine] at h
  cases count with
  | number x =>
    cases x with
    | truth _ | int _ | refusal _ =>
      cases hk
      cases h
      exact length_repeated _ _
    | item e =>
      cases e with
      | signed _ =>
        cases hk
        cases h
        exact length_repeated _ _
      | unsigned _ =>
        cases hk
        cases h
      | _ => cases hk
    | cell e =>
      cases e with
      | signed _ | unsigned _ =>
        cases hk
        cases h
      | _ => cases hk
    | _ => cases hk
  | _ => cases hk

theorem length_namesFor {n : Nat} (hk : count.toIndex = .ok n) {names : Value} {ns : List Value}
    (hfit : namesFit names count = .ok true) (h : namesFor names count = .ok ns) :
    ns.length = n := by
  have hlisted (hl : hasLength names count = .ok true) (hns : items names = ns) :
      ns.length = n := by
    rw [← hns]
    exact Int.ofNat_inj.1 (length_of_hasLength hk hl)
  cases names with
  | nothing => exact length_namesFor_nothing hk h
  | _ => exact hlisted hfit (Except.ok.inj h)

theorem length_decodeAll {α : Type} {ofCode? : String → Option α} {vs : List Value} {as : List α}
    (h : decodeAll ofCode? vs = .ok (some as)) : as.length = vs.length := by
  induction vs generalizing as with
  | nil =>
    cases h
    rfl
  | cons v rest ih =>
    obtain ⟨a?, -, h⟩ := bind_eq_ok_iff.1 h
    cases a? with
    | none => cases h
    | some a =>
      obtain ⟨as?, has, h⟩ := bind_eq_ok_iff.1 h
      cases as? with
      | none => cases h
      | some as' =>
        cases h
        rw [List.length_cons, List.length_cons, ih has]

end Counted

/-! ## Reading up to the first fault -/

/-- What is read of a list up to the first element that cannot be read, and its fault. -/
def readWhile {α β : Type} (read : α → Except Fault β) : List α → List β × Option Fault
  | [] => ([], none)
  | a :: rest =>
    match read a with
    | .ok b => (b :: (readWhile read rest).1, (readWhile read rest).2)
    | .error f => ([], some f)

section Reading

variable {α β : Type} {read : α → Except Fault β}

theorem length_readWhile_of_none {as : List α} (h : (readWhile read as).2 = none) :
    (readWhile read as).1.length = as.length := by
  induction as with
  | nil => rfl
  | cons a rest ih =>
    rw [readWhile] at h ⊢
    cases ha : read a with
    | ok b =>
      rw [ha] at h
      exact congrArg Nat.succ (ih h)
    | error f =>
      rw [ha] at h
      cases h

theorem readWhile_eq_mapM {as : List α} (h : (readWhile read as).2 = none) :
    as.mapM read = .ok (readWhile read as).1 := by
  induction as with
  | nil => rfl
  | cons a rest ih =>
    rw [readWhile] at h ⊢
    cases ha : read a with
    | ok b =>
      rw [ha] at h
      exact mapM_cons_eq_ok ha (ih h)
    | error f =>
      rw [ha] at h
      cases h

theorem of_readWhile_some {as : List α} {f : Fault} (h : (readWhile read as).2 = some f) :
    (readWhile read as).1.length < as.length ∧ ∃ a ∈ as, read a = .error f := by
  induction as with
  | nil => cases h
  | cons a rest ih =>
    rw [readWhile] at h ⊢
    cases ha : read a with
    | ok b =>
      rw [ha] at h
      obtain ⟨hlength, a', hmem, ha'⟩ := ih h
      exact ⟨Nat.succ_lt_succ hlength, a', List.mem_cons_of_mem a hmem, ha'⟩
    | error f' =>
      rw [ha] at h
      cases h
      exact ⟨Nat.succ_pos _, a, List.mem_cons_self, ha⟩

end Reading

/-- Whether something was read to its end. -/
def outcomeOf : Option Fault → Except Failure Unit
  | none => .ok ()
  | some f => .error (.fault f)

def ColumnData.column (d : ColumnData) : Except Fault Column :=
  columnOf d.objective d.lower d.upper d.kind d.name

/-- The columns of a batch are stored up to the first one that cannot be read. -/
theorem perform_storeColumns_read (ds : List ColumnData) (e : Engine) (w : Surroundings) :
    (storeColumns ds).perform (e, w) =
      (outcomeOf (readWhile ColumnData.column ds).2,
        { e with columns := e.columns ++ (readWhile ColumnData.column ds).1 }, w) := by
  -- what has been stored before is part of the engine, so that is generalized
  induction ds generalizing e with
  | nil =>
    rw [readWhile, List.append_nil]
    rfl
  | cons d rest ih =>
    have hstep : (storeColumns (d :: rest)).perform (e, w) = ((ofFault d.column : Acting Column) >>=
      fun c => do change (·.pushColumn c); storeColumns rest).perform (e, w) := rfl
    rw [hstep, readWhile]
    cases d.column with
    | error f =>
      rw [List.append_nil]
      rfl
    | ok c =>
      refine (ih (e.pushColumn c)).trans ?_
      rw [pushColumn, List.append_assoc]
      rfl

/-- The rows of a batch are stored up to the first one that cannot be read. -/
theorem perform_storeRows_read (indices values : List Value) (ds : List RowData) (e : Engine)
    (w : Surroundings) :
    (storeRows indices values ds).perform (e, w) =
      (outcomeOf (readWhile (RowData.row · indices values) ds).2,
        { e with rows := e.rows ++ (readWhile (RowData.row · indices values) ds).1 }, w) := by
  induction ds generalizing e with
  | nil =>
    rw [readWhile, List.append_nil]
    rfl
  | cons d rest ih =>
    have hstep : (storeRows indices values (d :: rest)).perform (e, w) =
      ((ofFault (d.row indices values) : Acting Row) >>=
        fun r => do change (·.pushRow r); storeRows indices values rest).perform (e, w) := rfl
    rw [hstep, readWhile]
    cases d.row indices values with
    | error f =>
      rw [List.append_nil]
      rfl
    | ok r =>
      refine (ih (e.pushRow r)).trans ?_
      rw [pushRow, List.append_assoc]
      rfl

/-! ## Numbers that can be read -/

def IsReadable (v : Value) : Prop := ∃ x, v.toDouble = .ok x

/-- The value is a position or a number of places in a sequence. -/
def IsIndex (v : Value) : Prop := ∃ i, v.toIndex = .ok i

theorem length_columnData {n : Nat} {objectives lowers uppers names : List Value}
    {kinds : List VarKind} (ho : objectives.length = n) (hl : lowers.length = n)
    (hu : uppers.length = n) (hk : kinds.length = n) (hn : names.length = n) :
    (columnData objectives lowers uppers kinds names).length = n := by
  simp [columnData, ho, hl, hu, hk, hn]

theorem exists_column {objectives lowers uppers names : List Value} {kinds : List VarKind}
    (ho : ∀ v ∈ objectives, IsReadable v) (hl : ∀ v ∈ lowers, IsReadable v)
    (hu : ∀ v ∈ uppers, IsReadable v) {d : ColumnData}
    (hd : d ∈ columnData objectives lowers uppers kinds names) : ∃ c, d.column = .ok c := by
  obtain ⟨⟨o, l, u, k, n⟩, hmem, rfl⟩ := List.mem_map.1 hd
  obtain ⟨hmo, hmem⟩ := List.of_mem_zip hmem
  obtain ⟨hml, hmem⟩ := List.of_mem_zip hmem
  obtain ⟨hmu, -⟩ := List.of_mem_zip hmem
  obtain ⟨x, hx⟩ := ho o hmo
  obtain ⟨y, hy⟩ := hl l hml
  obtain ⟨z, hz⟩ := hu u hmu
  refine ⟨⟨x, y, z, k, n⟩, ?_⟩
  rw [ColumnData.column, columnOf, hx, hy, hz]
  rfl

theorem parts_cons (b : Value) (rest : List Value) (size : Value) :
    parts (b :: rest) size = (b, rest.headD size) :: parts rest size := by
  cases rest <;> rfl

theorem length_parts (begins : List Value) (size : Value) :
    (parts begins size).length = begins.length := by
  cases begins with
  | nil => rfl
  | cons b rest => simp [parts]

theorem length_rowData {n : Nat} {places : List (Value × Value)} {senses : List Sense}
    {bounds names : List Value} (hp : places.length = n) (hs : senses.length = n)
    (hb : bounds.length = n) (hn : names.length = n) :
    (rowData places senses bounds names).length = n := by
  simp [rowData, hp, hs, hb, hn]

theorem of_rowOf {indices values : List Value} {sense : Sense} {bound name : Value} {r : Row}
    (h : rowOf indices values sense bound name = .ok r) :
    r.indices = indices ∧ values.mapM Value.toDouble = .ok r.values ∧ r.sense = sense ∧
      bound.toDouble = .ok r.bound := by
  obtain ⟨xs, hxs, h⟩ := bind_eq_ok_iff.1 h
  obtain ⟨b, hb, h⟩ := bind_eq_ok_iff.1 h
  cases h
  exact ⟨rfl, hxs, rfl, hb⟩

theorem of_between {α : Type} {xs ys : List α} {start stop : Value}
    (h : between xs start stop = .ok ys) : ∃ a b, start.toIndex = .ok a ∧ stop.toIndex = .ok b ∧
      ys = (xs.drop a.toNat).take (b - a).toNat := by
  obtain ⟨a, ha, h⟩ := bind_eq_ok_iff.1 h
  obtain ⟨b, hb, h⟩ := bind_eq_ok_iff.1 h
  exact ⟨a, b, ha, hb, (Except.ok.inj h).symm⟩

/-- A row that has been read has the parts of the terms from its start to its end. -/
theorem of_row {d : RowData} {is vs : List Value} {r : Row} (h : d.row is vs = .ok r) :
    ∃ a b, d.start.toIndex = .ok a ∧ d.stop.toIndex = .ok b ∧
      r.indices = (is.drop a.toNat).take (b - a).toNat ∧
      ((vs.drop a.toNat).take (b - a).toNat).mapM Value.toDouble = .ok r.values ∧
      r.sense = d.sense ∧ d.bound.toDouble = .ok r.bound := by
  obtain ⟨is', his, h⟩ := bind_eq_ok_iff.1 h
  obtain ⟨vs', hvs, h⟩ := bind_eq_ok_iff.1 h
  obtain ⟨a, b, ha, hb, rfl⟩ := of_between his
  obtain ⟨a', b', ha', hb', rfl⟩ := of_between hvs
  cases ha.symm.trans ha'
  cases hb.symm.trans hb'
  exact ⟨a, b, ha, hb, of_rowOf h⟩

theorem exists_row {begins indices values bounds names : List Value} {size : Value}
    {senses : List Sense} (hp : ∀ v ∈ begins ++ [size], IsIndex v)
    (hv : ∀ v ∈ values, IsReadable v) (hb : ∀ v ∈ bounds, IsReadable v) {d : RowData}
    (hd : d ∈ rowData (parts begins size) senses bounds names) :
    ∃ r, d.row indices values = .ok r := by
  obtain ⟨⟨⟨start, stop⟩, s, b, n⟩, hmem, rfl⟩ := List.mem_map.1 hd
  obtain ⟨hplace, hmem⟩ := List.of_mem_zip hmem
  obtain ⟨-, hmem⟩ := List.of_mem_zip hmem
  obtain ⟨hbound, -⟩ := List.of_mem_zip hmem
  obtain ⟨hstart, hstop⟩ := List.of_mem_zip hplace
  have hstop' : stop ∈ begins ++ [size] :=
    (List.mem_append.1 hstop).elim (fun h => List.mem_append_left _ (List.mem_of_mem_drop h))
      (List.mem_append_right _)
  obtain ⟨i, hi⟩ := hp start (List.mem_append_left _ hstart)
  obtain ⟨j, hj⟩ := hp stop hstop'
  obtain ⟨y, hy⟩ := hb b hbound
  obtain ⟨xs, hxs⟩ : ∃ xs, ((values.drop i.toNat).take (j - i).toNat).mapM Value.toDouble = .ok xs :=
    exists_mapM_eq_ok fun v hmem => hv v (List.mem_of_mem_drop (List.mem_of_mem_take hmem))
  have hbetween (vs : List Value) :
      between vs start stop = .ok ((vs.drop i.toNat).take (j - i).toNat) := by
    rw [between, hi, hj]
    rfl
  refine ⟨⟨(indices.drop i.toNat).take (j - i).toNat, xs, s, y, n⟩, ?_⟩
  rw [RowData.row, hbetween, hbetween]
  show rowOf _ _ s b n = _
  rw [rowOf, hxs, hy]
  rfl

/-! ## Additions -/

/-- A call that adds columns or rows, with whatever a caller passes to it. -/
inductive Addition where
  | column (objective lower upper kind name : Value)
  | columns (count objectives lowers uppers kinds names : Value)
  | row (size indices values sense bound name : Value)
  | rows (count size begins indices values senses bounds names : Value)

namespace Addition

def run : Addition → Acting Value
  | column objective lower upper kind name => addVar objective lower upper kind name
  | columns count objectives lowers uppers kinds names =>
    addVars count objectives lowers uppers kinds names
  | row size indices values sense bound name => addConstraint size indices values sense bound name
  | rows count size begins indices values senses bounds names =>
    addConstraints count size begins indices values senses bounds names

/-- Whether the call says that it adds so many columns and rows. -/
def Announces (a : Addition) (columns rows : Nat) : Prop :=
  match a with
  | column .. => columns = 1 ∧ rows = 0
  | .columns count .. => count.toIndex = .ok columns ∧ rows = 0
  | row .. => columns = 0 ∧ rows = 1
  | .rows count .. => columns = 0 ∧ count.toIndex = .ok rows

/-- The elements of a sequence as a caller passes it. -/
def itemsOf (view : View) (v : Value) : List Value :=
  match listed view v with
  | .ok l => items l
  | .error _ => []

/-- Whether the numbers of a batch can be read, and the starts of its rows be counted with. -/
def Readable (view : View) : Addition → Prop
  | column .. | row .. => True
  | columns _ objectives lowers uppers _ _ =>
    ∀ v ∈ itemsOf view objectives ++ itemsOf view lowers ++ itemsOf view uppers, IsReadable v
  | rows _ size begins _ values _ bounds _ =>
    (∀ v ∈ itemsOf view values ++ itemsOf view bounds, IsReadable v) ∧
      ∀ v ∈ itemsOf view begins ++ [size], IsIndex v

/-- The announced columns and rows were appended, and no solution is known any more. -/
def Added (a : Addition) (e t : Engine) : Prop :=
  ∃ cs rs, a.Announces cs.length rs.length ∧ t.columns = e.columns ++ cs ∧ t.rows = e.rows ++ rs ∧
    t.solution = {}

/-- Some of the announced columns and rows were appended and some not, and the solution that was
known stays. -/
def Begun (a : Addition) (e t : Engine) : Prop :=
  ∃ cs rs columns rows, a.Announces columns rows ∧ 0 < cs.length + rs.length ∧
    cs.length + rs.length < columns + rows ∧ t.columns = e.columns ++ cs ∧ t.rows = e.rows ++ rs ∧
    t.solution = e.solution

end Addition

/-- The columns, the rows and the solution are as they were. -/
structure Untouched (e t : Engine) : Prop where
  columns : t.columns = e.columns
  rows : t.rows = e.rows
  solution : t.solution = e.solution

/-- An addition that is accepted appends what it announces, and any other one changes nothing. -/
def Addition.AllOrNothing (a : Addition) (s : Engine × Surroundings) : Prop :=
  (Accepted (a.run.perform s) → a.Added s.1 (a.run.perform s).2.1) ∧
    (¬Accepted (a.run.perform s) → Untouched s.1 (a.run.perform s).2.1)

/-! ## Engines in memory -/

/-- An engine in memory that has not been changed. -/
structure Resting (e : Engine) (w : Surroundings) (s : Engine × Surroundings) : Prop where
  untouched : Untouched e s.1
  inMemory : s.1.isNative = false
  surroundings : s.2 = w

section InMemory

variable {e : Engine} {w : Surroundings} {P R : Engine × Surroundings → Prop}
  {Q : Value → Engine × Surroundings → Prop}

theorem resting_heedless : Heedless (Resting e w) where
  record _ h := by
    unfold Engine.record
    split
    · exact h
    · exact ⟨⟨h.untouched.columns, h.untouched.rows, h.untouched.solution⟩, h.inMemory, h.surroundings⟩
  setInjected operation f h := by
    unfold Engine.setInjected
    split
    · exact ⟨⟨h.untouched.columns, h.untouched.rows, h.untouched.solution⟩, rfl, h.surroundings⟩
    · exact h

theorem list_then {v : Value} {f : Value → Acting Value} (hR : ∀ s, Resting e w s → R s)
    (h : ∀ l, listed w.view v = .ok l → Leads (Resting e w) (f l) Q R) :
    Leads (Resting e w) (list v >>= f) Q R :=
  listed_then (fun _ hs => congrArg Surroundings.view hs.surroundings) hR h

/-- There is no native solver to be called. -/
theorem perform_ifNative (h : e.isNative = false) (x : Acting Bool) :
    (ifNative x).perform (e, w) = (.ok true, e, w) := by
  show (if e.isNative then x else return true : Acting Bool).perform (e, w) = _
  rw [h]
  rfl

theorem ifNative_then {x : Acting Bool} {f : Bool → Acting Value}
    (h : Leads (Resting e w) (f true) Q R) : Leads (Resting e w) (ifNative x >>= f) Q R := by
  rintro ⟨t, u⟩ hs
  rw [perform_bind_of_ok (perform_ifNative hs.inMemory x)]
  exact h (t, u) hs

/-- How additions end on an engine in memory: all that they announce was appended, or nothing was, or
something cannot be read and some of it was. -/
def Addition.Ends (a : Addition) (e : Engine) (w : Surroundings) (x : Acting Value) : Prop :=
  Leads (Resting e w) x (Answered (Resting e w) fun s => a.Added e s.1)
    fun s => Resting e w s ∨ (¬a.Readable w.view ∧ a.Begun e s.1)

/-- What is stored last stays if it is stored as a whole, or if something in it cannot be read. -/
theorem store_ends {a : Addition} {columns rows : Nat} (ha : a.Announces columns rows)
    (cs : List Column) (rs : List Row) (fault : Option Fault) {x : Acting Unit}
    (hx : ∀ t, x.perform (t, w) =
      (outcomeOf fault, { t with columns := t.columns ++ cs, rows := t.rows ++ rs }, w))
    (hall : fault = none → cs.length = columns ∧ rs.length = rows)
    (hpart : ∀ f, fault = some f → cs.length + rs.length < columns + rows ∧ ¬a.Readable w.view) :
    a.Ends e w (do x; finishAddition) := by
  rintro ⟨t, u⟩ ⟨hsame, hmemory, hu⟩
  cases (hu : u = w)
  have hcolumns : t.columns ++ cs = e.columns ++ cs := congrArg (· ++ cs) hsame.columns
  have hrows : t.rows ++ rs = e.rows ++ rs := congrArg (· ++ rs) hsame.rows
  rw [perform_bind, hx]
  cases fault with
  | none =>
    obtain ⟨hcs, hrs⟩ := hall rfl
    exact .inl ⟨rfl, cs, rs, hcs ▸ hrs ▸ ha, hcolumns, hrows, rfl⟩
  | some f =>
    obtain ⟨hless, hunreadable⟩ := hpart f rfl
    by_cases hnone : cs.length + rs.length = 0
    · -- the first one cannot be read
      have hcs : cs = [] := List.length_eq_zero_iff.1 (by omega)
      have hrs : rs = [] := List.length_eq_zero_iff.1 (by omega)
      subst hcs hrs
      refine .inl ⟨⟨?_, ?_, hsame.solution⟩, hmemory, rfl⟩
      · exact (List.append_nil _).trans hsame.columns
      · exact (List.append_nil _).trans hsame.rows
    · exact .inr ⟨hunreadable, cs, rs, columns, rows, ha, Nat.pos_of_ne_zero hnone, hless, hcolumns,
        hrows, hsame.solution⟩

theorem storeColumns_ends {a : Addition} {n : Nat} (ha : a.Announces n 0) {ds : List ColumnData}
    (hn : ds.length = n) (hds : a.Readable w.view → ∀ d ∈ ds, ∃ c, d.column = .ok c) :
    a.Ends e w (do storeColumns ds; finishAddition) := by
  refine store_ends ha (readWhile ColumnData.column ds).1 [] (readWhile ColumnData.column ds).2
    (fun t => ?_) (fun hnone => ?_) fun f hf => ?_
  · rw [perform_storeColumns_read, List.append_nil t.rows]
  · exact ⟨(length_readWhile_of_none hnone).trans hn, rfl⟩
  · obtain ⟨hless, d, hmem, hd⟩ := of_readWhile_some hf
    refine ⟨by simpa [hn] using hless, fun hread => ?_⟩
    obtain ⟨c, hc⟩ := hds hread d hmem
    cases hd.symm.trans hc

theorem storeRows_ends {a : Addition} {n : Nat} (ha : a.Announces 0 n) {indices values : List Value}
    {ds : List RowData} (hn : ds.length = n)
    (hds : a.Readable w.view → ∀ d ∈ ds, ∃ r, d.row indices values = .ok r) :
    a.Ends e w (do storeRows indices values ds; finishAddition) := by
  refine store_ends ha [] (readWhile (RowData.row · indices values) ds).1
    (readWhile (RowData.row · indices values) ds).2 (fun t => ?_) (fun hnone => ?_) fun f hf => ?_
  · rw [perform_storeRows_read, List.append_nil t.columns]
  · exact ⟨rfl, (length_readWhile_of_none hnone).trans hn⟩
  · obtain ⟨hless, d, hmem, hd⟩ := of_readWhile_some hf
    refine ⟨by simpa [hn] using hless, fun hread => ?_⟩
    obtain ⟨r, hr⟩ := hds hread d hmem
    cases hd.symm.trans hr

theorem addVar_ends (objective lower upper kind name : Value) :
    (Addition.column objective lower upper kind name).Ends e w
      (addVar objective lower upper kind name) := by
  refine recorded_leads resting_heedless (fun _ => .inl) rfl ?_
  refine Leads.ofFault_then (fun _ => .inl) fun kind? _ => ?_
  cases kind? with
  | none => exact refused_answered _
  | some k =>
    refine ifNative_then ?_
    have hone : (Addition.column objective lower upper kind name).Announces 1 0 := ⟨rfl, rfl⟩
    have hstore (c : Column) : (Addition.column objective lower upper kind name).Ends e w (do
        change (·.pushColumn c)
        finishAddition) :=
      store_ends hone [c] [] none (fun t => by rw [List.append_nil]; rfl) (fun _ => ⟨rfl, rfl⟩)
        fun f hf => by cases hf
    exact Leads.ofFault_then (fun _ => .inl) fun c _ => hstore c

theorem addConstraint_ends (size indices values sense bound name : Value) :
    (Addition.row size indices values sense bound name).Ends e w
      (addConstraint size indices values sense bound name) := by
  refine list_then (fun _ => .inl) fun is _ => list_then (fun _ => .inl) fun vs _ => ?_
  refine recorded_leads resting_heedless (fun _ => .inl) rfl ?_
  refine Leads.ofFault_then (fun _ => .inl) fun sense? _ => ?_
  cases sense? with
  | none => exact refused_answered _
  | some s =>
    rintro ⟨t, u⟩ hs
    refine Leads.ofExcept_then (fun _ => .inl) (fun inRange _ => ?_) (t, u) hs
    cases inRange
    · exact refused_answered _
    · refine ifNative_then ?_
      have hone : (Addition.row size indices values sense bound name).Announces 0 1 := ⟨rfl, rfl⟩
      have hstore (r : Row) : (Addition.row size indices values sense bound name).Ends e w (do
          change (·.pushRow r)
          finishAddition) :=
        store_ends hone [] [r] none (fun t => by rw [List.append_nil]; rfl) (fun _ => ⟨rfl, rfl⟩)
          fun f hf => by cases hf
      exact Leads.ofFault_then (fun _ => .inl) fun r _ => hstore r

theorem of_checkColumns {count objectives lowers uppers kinds names : Value} {ks : List VarKind}
    (h : checkColumns count objectives lowers uppers kinds names = .ok (some ks)) :
    isCountOf count [objectives, lowers, uppers, kinds] = .ok true ∧
      namesFit names count = .ok true ∧ decodeAll VarKind.ofCode? (items kinds) = .ok (some ks) := by
  obtain ⟨counted, hcount, h⟩ := bind_eq_ok_iff.1 h
  cases counted
  · cases h
  · obtain ⟨fit, hfit, h⟩ := bind_eq_ok_iff.1 (Failure.lift_eq_ok.1 h)
    cases fit
    · cases h
    · exact ⟨hcount, hfit, h⟩

/-- The parts of a batch of columns that fits together are as many as announced. -/
theorem lengths_of_checkColumns {count objectives lowers uppers kinds names : Value}
    {ks : List VarKind} {ns : List Value} {k : Int}
    (h : checkColumns count objectives lowers uppers kinds names = .ok (some ks))
    (hk : count.toIndex = .ok k) (hnames : namesFor names count = .ok ns) :
    ∃ n : Nat, k = n ∧ (items objectives).length = n ∧ (items lowers).length = n ∧
      (items uppers).length = n ∧ ks.length = n ∧ ns.length = n := by
  obtain ⟨hcount, hfit, hkinds⟩ := of_checkColumns h
  have hlengths := length_of_isCountOf hk hcount
  obtain ⟨n, rfl⟩ : ∃ n : Nat, k = n := ⟨_, (hlengths objectives List.mem_cons_self).symm⟩
  have hlength {v : Value} (hv : v ∈ [objectives, lowers, uppers, kinds]) : (items v).length = n :=
    Int.ofNat_inj.1 (hlengths v hv)
  exact ⟨n, rfl, hlength (by simp), hlength (by simp), hlength (by simp),
    (length_decodeAll hkinds).trans (hlength (by simp)), length_namesFor hk hfit hnames⟩

theorem addVars_ends (count objectives lowers uppers kinds names : Value) :
    (Addition.columns count objectives lowers uppers kinds names).Ends e w
      (addVars count objectives lowers uppers kinds names) := by
  refine list_then (fun _ => .inl) fun os hos => list_then (fun _ => .inl) fun ls hls => ?_
  refine list_then (fun _ => .inl) fun us hus => list_then (fun _ => .inl) fun ks _ => ?_
  refine list_then (fun _ => .inl) fun ns _ => ?_
  refine recorded_leads resting_heedless (fun _ => .inl) rfl ?_
  refine Leads.ofExcept_then (fun _ => .inl) fun kinds? hcheck => ?_
  cases kinds? with
  | none => exact refused_answered _
  | some decoded =>
    refine Leads.ofExcept_then (fun _ => .inl) fun named hnamed => ifNative_then ?_
    refine Leads.ofFault_then (fun _ => .inl) fun k hk => ?_
    -- from here on all checks have passed, and only numbers that cannot be read stop the call
    obtain ⟨n, rfl, hobjectives, hlowers, huppers, hkinds, hnames⟩ :=
      lengths_of_checkColumns hcheck hk hnamed
    have hdata : (columnData (items os) (items ls) (items us) decoded named).length = n :=
      length_columnData hobjectives hlowers huppers hkinds hnames
    have ha : (Addition.columns count objectives lowers uppers kinds names).Announces n 0 :=
      ⟨hk, rfl⟩
    refine storeColumns_ends ha hdata fun hread d hd => ?_
    simp only [Addition.Readable, Addition.itemsOf, hos, hls, hus, List.mem_append] at hread
    exact exists_column (fun v hv => hread v (.inl (.inl hv)))
      (fun v hv => hread v (.inl (.inr hv))) (fun v hv => hread v (.inr hv)) hd

theorem of_checkRows {count size begins indices values senses bounds names : Value}
    {ss : List Sense}
    (h : checkRows count size begins indices values senses bounds names = .ok (some ss)) :
    isCountOf count [begins, senses, bounds] = .ok true ∧ hasLength indices size = .ok true ∧
      hasLength values size = .ok true ∧ namesFit names count = .ok true ∧
      decodeAll Sense.ofCode? (items senses) = .ok (some ss) ∧
      areParts (parts (items begins) size) = .ok true := by
  obtain ⟨counted, hcount, h⟩ := bind_eq_ok_iff.1 h
  cases counted
  · cases h
  obtain ⟨fitting, hfitting, h⟩ := bind_eq_ok_iff.1 h
  cases fitting with
  | none => cases h
  | some ss' =>
    obtain ⟨rfl, hordered⟩ :
        ss' = ss ∧ areParts (parts (items begins) size) = .ok true := by
      cases begins with
      | list bs =>
        obtain ⟨ordered, hordered, h⟩ := bind_eq_ok_iff.1 h
        cases ordered
        · cases h
        · exact ⟨Option.some.inj (Except.ok.inj h), hordered⟩
      | _ => cases h
    -- the checks that come before the senses are looked up
    obtain ⟨fits, hindices, hfitting⟩ := bind_eq_ok_iff.1 (Failure.lift_eq_ok.1 hfitting)
    cases fits
    · cases hfitting
    obtain ⟨fits, hvalues, hfitting⟩ := bind_eq_ok_iff.1 hfitting
    cases fits
    · cases hfitting
    obtain ⟨fits, hnames, hfitting⟩ := bind_eq_ok_iff.1 hfitting
    cases fits
    · cases hfitting
    exact ⟨hcount, hindices, hvalues, hnames, hfitting, hordered⟩

/-- The parts of a batch of rows that fits together are as many as announced. -/
theorem lengths_of_checkRows {count size begins indices values senses bounds names : Value}
    {ss : List Sense} {ns : List Value} {k : Int}
    (h : checkRows count size begins indices values senses bounds names = .ok (some ss))
    (hk : count.toIndex = .ok k) (hnames : namesFor names count = .ok ns) :
    ∃ n : Nat, k = n ∧ (items begins).length = n ∧ ss.length = n ∧ (items bounds).length = n ∧
      ns.length = n ∧ ∀ j, size.toIndex = .ok j →
        ((items indices).length : Int) = j ∧ ((items values).length : Int) = j := by
  obtain ⟨hcount, hindices, hvalues, hfit, hsenses, -⟩ := of_checkRows h
  have hlengths := length_of_isCountOf hk hcount
  obtain ⟨n, rfl⟩ : ∃ n : Nat, k = n := ⟨_, (hlengths begins List.mem_cons_self).symm⟩
  have hlength {v : Value} (hv : v ∈ [begins, senses, bounds]) : (items v).length = n :=
    Int.ofNat_inj.1 (hlengths v hv)
  exact ⟨n, rfl, hlength (by simp), (length_decodeAll hsenses).trans (hlength (by simp)),
    hlength (by simp), length_namesFor hk hfit hnames,
    fun _ hj => ⟨length_of_hasLength hj hindices, length_of_hasLength hj hvalues⟩⟩

theorem addConstraints_ends (count size begins indices values senses bounds names : Value) :
    (Addition.rows count size begins indices values senses bounds names).Ends e w
      (addConstraints count size begins indices values senses bounds names) := by
  refine list_then (fun _ => .inl) fun bs hbs => list_then (fun _ => .inl) fun is _ => ?_
  refine list_then (fun _ => .inl) fun vs hvs => list_then (fun _ => .inl) fun ss _ => ?_
  refine list_then (fun _ => .inl) fun rs hrs => list_then (fun _ => .inl) fun ns _ => ?_
  refine recorded_leads resting_heedless (fun _ => .inl) rfl ?_
  refine Leads.ofExcept_then (fun _ => .inl) fun senses? hcheck => ?_
  cases senses? with
  | none => exact refused_answered _
  | some decoded =>
    rintro ⟨t, u⟩ hs
    refine Leads.ofExcept_then (fun _ => .inl) (fun inRange _ => ?_) (t, u) hs
    cases inRange
    · exact refused_answered _
    refine Leads.ofExcept_then (fun _ => .inl) fun named hnamed => ifNative_then ?_
    refine Leads.ofFault_then (fun _ => .inl) fun k hk => ?_
    -- as for columns, only what cannot be read stops the call from here on
    obtain ⟨n, rfl, hbegins, hsenses, hbounds, hnames, -⟩ :=
      lengths_of_checkRows hcheck hk hnamed
    have hdata : (rowData (parts (items bs) size) decoded (items rs) named).length = n :=
      length_rowData ((length_parts _ _).trans hbegins) hsenses hbounds hnames
    have ha : (Addition.rows count size begins indices values senses bounds names).Announces 0 n :=
      ⟨rfl, hk⟩
    refine storeRows_ends ha hdata fun hread d hd => ?_
    simp only [Addition.Readable, Addition.itemsOf, hbs, hvs, hrs] at hread
    exact exists_row hread.2 (fun v hv => hread.1 v (List.mem_append_left _ hv))
      (fun v hv => hread.1 v (List.mem_append_right _ hv)) hd

end InMemory

/-- On an engine in memory an addition is made as a whole or not at all, unless it is a batch with
something that cannot be read and breaks off in the middle of it. -/
theorem Addition.allOrNothing_or_begun (a : Addition) {e : Engine} (he : e.isNative = false)
    (w : Surroundings) :
    a.AllOrNothing (e, w) ∨
      ¬a.Readable w.view ∧ (∃ f, (a.run.perform (e, w)).1 = .error f) ∧
        a.Begun e (a.run.perform (e, w)).2.1 := by
  have hends : a.Ends e w a.run := by
    cases a with
    | column => exact addVar_ends _ _ _ _ _
    | columns => exact addVars_ends _ _ _ _ _ _
    | row => exact addConstraint_ends _ _ _ _ _ _
    | rows => exact addConstraints_ends _ _ _ _ _ _ _ _
  have hend := hends (e, w) ⟨⟨rfl, rfl, rfl⟩, he, rfl⟩
  unfold AllOrNothing
  rcases hr : a.run.perform (e, w) with ⟨outcome, t⟩
  rw [hr] at hend
  cases outcome with
  | ok status =>
    rcases hend with ⟨rfl, hadded⟩ | ⟨htrue, hrest⟩
    · refine .inl ⟨fun _ => hadded, fun hnot => (hnot ⟨accepted, rfl, ?_⟩).elim⟩
      exact Value.truthy_accepted _
    · refine .inl ⟨?_, fun _ => hrest.untouched⟩
      rintro ⟨_, hstatus, hfalse⟩
      cases hstatus
      cases hfalse.symm.trans htrue
  | error f =>
    rcases hend with hrest | ⟨hunreadable, hbegun⟩
    · refine .inl ⟨?_, fun _ => hrest.untouched⟩
      rintro ⟨_, hstatus, -⟩
      cases hstatus
    · exact .inr ⟨hunreadable, ⟨f, rfl⟩, hbegun⟩

/-- A column is added as a whole or not at all. -/
theorem Addition.allOrNothing_or_begun_column :
    (Addition.column (.int 0) (.int 0) (.int 1) (.text "C") .nothing).AllOrNothing
      ({ backend := .nearestToZero }, { view := .blank }) := by
  have hmemory : Engine.isNative { backend := .nearestToZero } = false := rfl
  rcases Addition.allOrNothing_or_begun (.column (.int 0) (.int 0) (.int 1) (.text "C") .nothing)
    hmemory { view := .blank } with hall | ⟨hunreadable, -⟩
  · exact hall
  · exact absurd trivial hunreadable

/-- A batch of two columns whose second objective is too large for a double leaves the first one. -/
theorem Addition.columns_begun_overflow :
    let batch := Addition.columns (.int 2) (.list [.int 0, .int (power 10 400)])
      (.list [.int 0, .int 0]) (.list [.int 1, .int 1]) (.list [.text "C", .text "C"]) .nothing
    ¬batch.AllOrNothing ({ backend := .nearestToZero }, { view := .blank }) := by
  intro batch hall
  have hcolumns : (batch.run.perform
      ({ backend := .nearestToZero }, { view := .blank })).2.1.columns.length = 1 := by
    unfold batch
    decide +kernel
  by_cases haccepted :
      Accepted (batch.run.perform ({ backend := .nearestToZero }, { view := .blank }))
  · obtain ⟨cs, rs, ⟨hannounced, -⟩, happended, -⟩ := hall.1 haccepted
    rw [happended] at hcolumns
    have htwo : (2 : Int) = cs.length := Except.ok.inj hannounced
    have hone : cs.length = 1 := hcolumns
    omega
  · rw [(hall.2 haccepted).columns] at hcolumns
    cases hcolumns

end Milp.Engine

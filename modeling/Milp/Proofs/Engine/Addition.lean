import Milp.Proofs.Engine.Arguments
import Milp.Proofs.Engine.Frame
set_option autoImplicit false

/-! # What additions do

An addition with well-formed arguments is either accepted, and then exactly its columns or rows were
appended, or refused or broken off, and then no column and no row was. This holds for every kind of
engine, and each kind has its own say only about the native solver: `columnsAdded`… -/

namespace Milp.Engine

open Milp.Action

variable {E I J K L P : Engine × Surroundings → Prop}

/-! ## Answers -/

/-- An operation is either accepted and leads to `J`, or has a status that counts as true and leads
to `I`. -/
def Answered (I J : Engine × Surroundings → Prop) (status : Value) (s : Engine × Surroundings) :
    Prop :=
  (status = accepted ∧ J s) ∨ (status.truthy s.2.view = .ok true ∧ I s)

/-- Whether a call has succeeded with a status that counts as false. -/
def Accepted (r : Except Failure Value × Engine × Surroundings) : Prop :=
  ∃ status, r.1 = .ok status ∧ status.truthy r.2.2.view = .ok false

instance (r : Except Failure Value × Engine × Surroundings) : Decidable (Accepted r) :=
  match h : r.1 with
  | .error _ => isFalse fun ⟨_, hok, _⟩ => nomatch h.symm.trans hok
  | .ok status => decidable_of_iff (status.truthy r.2.2.view = .ok false)
      ⟨fun hfalse => ⟨status, h, hfalse⟩, fun ⟨_, hok, hfalse⟩ => by
        cases h.symm.trans hok
        exact hfalse⟩

theorem Answered.of_accepted {x : Acting Value} (hx : Leads P x (Answered I J) E)
    {s : Engine × Surroundings} (hs : P s) (h : Accepted (x.perform s)) : J (x.perform s).2 := by
  obtain ⟨status, hstatus, hfalse⟩ := h
  rcases hr : x.perform s with ⟨o, t⟩
  rw [hr] at hstatus hfalse
  cases (hstatus : o = .ok status)
  rcases hx.of_ok hs hr with ⟨-, hJ⟩ | ⟨htrue, -⟩
  · exact hJ
  · cases hfalse.symm.trans htrue

theorem Answered.of_not_accepted {x : Acting Value} (hx : Leads I x (Answered I J) I)
    {s : Engine × Surroundings} (hs : I s) (h : ¬Accepted (x.perform s)) :
    I (x.perform s).2 := by
  rcases hr : x.perform s with ⟨o, t⟩
  cases o with
  | error f => exact hx.of_error hs hr
  | ok status =>
    rcases hx.of_ok hs hr with ⟨rfl, -⟩ | ⟨-, hI⟩
    · refine absurd ⟨accepted, ?_, ?_⟩ h
      · rw [hr]
      · exact Value.truthy_accepted _
    · exact hI

/-- What follows may rely on the list that a sequence is. -/
theorem listed_then {β : Type} {Q : β → Engine × Surroundings → Prop} {view : View} {v : Value}
    {f : Value → Acting β} (hview : ∀ s, I s → s.2.view = view) (hE : ∀ s, I s → E s)
    (h : ∀ l, listed view v = .ok l → Leads I (f l) Q E) : Leads I (list v >>= f) Q E := by
  rintro ⟨e, w⟩ hs
  obtain rfl : w.view = view := hview (e, w) hs
  exact Leads.ofFault_then hE h (e, w) hs

/-- What is done with an engine that has just been looked up may rely on what is known about it. -/
theorem engine_then {α : Type} {f : Engine → Acting α} {Q : α → Engine × Surroundings → Prop}
    (h : ∀ s, I s → Leads I (f s.1) Q E) : Leads I (engine >>= f) Q E := fun s hs => h s hs s hs

theorem isTrue_leads (v : Value) :
    Leads I (isTrue v) (fun b s => v.truthy s.2.view = .ok b ∧ I s) I := by
  rintro ⟨e, w⟩ h
  have hv : (isTrue v).perform (e, w) = (ofFault (v.truthy w.view)).perform (e, w) := rfl
  rw [hv]
  cases ht : v.truthy w.view with
  | ok b => exact ⟨ht, h⟩
  | error f => exact h

theorem refused_answered (r : Refusal) : Leads I (pure (refused r)) (Answered I J) E :=
  Leads.pure fun s hs => Or.inr ⟨Value.truthy_refusal s.2.view r, hs⟩

/-- A call that is made to fail answers with a code that counts as true. -/
theorem unlessInjected_leads {α : Type} {Q : α → Engine × Surroundings → Prop} (hI : Heedless I)
    (hE : ∀ s, I s → E s) (operation : String) {refuse : Value → α}
    (hrefuse : ∀ code s, code.truthy s.2.view = .ok true → I s → Q (refuse code) s)
    {x : Acting α} (hx : Leads I x Q E) : Leads I (unlessInjected operation refuse x) Q E := by
  have hcode := Leads.of_maintains (injectedCode_maintains hI operation)
  refine (hcode.mono (fun _ h => h) (fun _ _ h => h) hE).bind fun code => ?_
  refine ((isTrue_leads code).mono (fun _ h => h) (fun _ _ h => h) hE).bind fun b => ?_
  cases b
  · exact fun s hs => hx s hs.2
  · exact Leads.pure fun s hs => hrefuse code s hs.1 hs.2

theorem unlessInjected_answered (hI : Heedless I) (hE : ∀ s, I s → E s) (operation : String)
    {x : Acting Value} (hx : Leads I x (Answered I J) E) :
    Leads I (unlessInjected operation id x) (Answered I J) E :=
  unlessInjected_leads hI hE operation (fun _ _ htrue hs => Or.inr ⟨htrue, hs⟩) hx

theorem recorded_leads (hI : Heedless I) (hE : ∀ s, I s → E s) {c : Call}
    (hc : c.isFinish = false) {x : Acting Value} (hx : Leads I x (Answered I J) E) :
    Leads I (recorded c x) (Answered I J) E :=
  ((Leads.of_maintains (record_maintains hI hc)).mono (fun _ h => h) (fun _ _ h => h) hE).bind
    fun _ => unlessInjected_answered hI hE _ hx

theorem recorded_answered (hI : Heedless I) {c : Call} (hc : c.isFinish = false)
    {x : Acting Value} (hx : Leads I x (Answered I J) I) :
    Leads I (recorded c x) (Answered I J) I :=
  recorded_leads hI (fun _ h => h) hc hx

theorem finishAddition_answered (hJ : Forgets L J) :
    Leads L finishAddition (Answered I J) I :=
  Leads.bind (Leads.modify fun s hs => hJ s.1 s.2 hs) fun _ =>
    Leads.pure fun _ hs => Or.inl ⟨rfl, hs⟩

/-- What the native solver did not take is not stored. -/
theorem ifNative_answered {native : Acting Bool} {store : Acting Value}
    (hnative : Leads P (ifNative native) (fun added s => if added then K s else I s) I)
    (hstore : Leads K store (Answered I J) I) :
    Leads P (do
      if !(← ifNative native) then return refused .engineFailure
      store) (Answered I J) I := by
  refine hnative.bind fun added => ?_
  cases added
  · exact refused_answered _
  · exact hstore

/-! ## The native solver aside

Passing an addition on changes the native solver and not the engine. -/

section Passing

variable {e : Engine}

/-- The engine itself is as it was. -/
def Kept (e : Engine) (s : Engine × Surroundings) : Prop := s.1 = e

theorem callSolver_keeps (c : SolverCall) : Maintains (Kept e) (callSolver c) := by
  rintro ⟨f, w⟩ rfl
  rw [perform_callSolver]
  split <;> rfl

theorem succeeds_keeps (c : SolverCall) : Maintains (Kept e) (succeeds c) :=
  (callSolver_keeps c).bind fun _ => Maintains.pure _

theorem passNames_keeps (call : Int → String → SolverCall) (position : Int) (names : List Value) :
    Maintains (Kept e) (passNames call position names) := by
  induction names generalizing position with
  | nil => exact Maintains.pure _
  | cons name rest ih =>
    unfold passNames
    split
    · exact Maintains.pure _
    · rename_i hrest
      injection hrest with _ hrest
      exact hrest ▸ ih (position + 1)
    · rename_i hrest
      injection hrest with _ hrest
      exact Maintains.get_bind fun s hs => ((succeeds_keeps _).bind fun _ =>
        Maintains.ite (hrest ▸ ih (position + 1)) (Maintains.pure _)) s hs

theorem describeColumns_keeps (marking : Option SolverCall) (first : Int) (names : List Value) :
    Maintains (Kept e) (describeColumns marking first names) := by
  have hnames (marked : Bool) : Maintains (Kept e)
      (if marked then passNames .nameColumn first names else return false) :=
    Maintains.ite (passNames_keeps _ _ _) (Maintains.pure _)
  cases marking with
  | none => exact (Maintains.pure true).bind hnames
  | some c => exact (succeeds_keeps c).bind hnames

theorem addAndDescribe_keeps (addition undo : SolverCall) {description : Acting Bool}
    (h : Maintains (Kept e) description) :
    Maintains (Kept e) (addAndDescribe addition undo description) := by
  refine (succeeds_keeps addition).bind fun added => Maintains.ite ?_ (Maintains.pure _)
  refine h.bind fun described => Maintains.ite (Maintains.pure _) ?_
  exact (callSolver_keeps undo).bind fun _ => Maintains.pure _

theorem addNativeColumn_keeps (objective lower upper : Value) (kind : VarKind) (name : Value) :
    Maintains (Kept e) (addNativeColumn objective lower upper kind name) :=
  solverInstance_maintains.bind fun _ => (Maintains.ofExcept _).bind fun _ =>
    (Maintains.ofFault _).bind fun _ => addAndDescribe_keeps _ _ (describeColumns_keeps _ _ _)

theorem addNativeColumns_keeps (objectives lowers uppers : List Value) (kinds : List VarKind)
    (names : List Value) :
    Maintains (Kept e) (addNativeColumns objectives lowers uppers kinds names) :=
  solverInstance_maintains.bind fun _ => (Maintains.ofExcept _).bind fun _ =>
    (Maintains.ofFault _).bind fun _ => addAndDescribe_keeps _ _ (describeColumns_keeps _ _ _)

theorem addNativeRow_keeps (indices values : List Value) (sense : Sense) (bound name : Value) :
    Maintains (Kept e) (addNativeRow indices values sense bound name) :=
  solverInstance_maintains.bind fun _ => (Maintains.ofFault _).bind fun _ =>
    addAndDescribe_keeps _ _ (passNames_keeps _ _ _)

theorem addNativeRows_keeps (begins indices values : List Value) (senses : List Sense)
    (bounds names : List Value) :
    Maintains (Kept e) (addNativeRows begins indices values senses bounds names) :=
  solverInstance_maintains.bind fun _ => (Maintains.ofFault _).bind fun _ =>
    addAndDescribe_keeps _ _ (passNames_keeps _ _ _)

/-- What only the engine decides is not changed on the way to the native solver. -/
theorem ifNative_maintains {native : Acting Bool} (h : ∀ e, Maintains (Kept e) native)
    (hI : ∀ e v w, I (e, v) → I (e, w)) : Maintains I (ifNative native) := by
  have hI' : Maintains I native := by
    rintro ⟨e, w⟩ hs
    have hkept : Kept e (native.perform (e, w)).2 := h e (e, w) rfl
    rcases hn : (native.perform (e, w)).2 with ⟨f, v⟩
    rw [hn] at hkept
    cases (hkept : f = e)
    exact hI f w v hs
  exact engine_maintains.bind fun _ => Maintains.ite hI' (Maintains.pure _)

theorem ifNative_leads {native : Acting Bool} (h : ∀ e, Maintains (Kept e) native)
    (hI : ∀ e v w, I (e, v) → I (e, w)) :
    Leads I (ifNative native) (fun added s => if added then I s else I s) I := by
  refine (Leads.of_maintains (ifNative_maintains h hI)).mono (fun _ h => h)
    (fun added s hs => ?_) fun _ h => h
  rw [ite_self]
  exact hs

/-- Changing the direction changes nothing but the direction and what is known about a solution. -/
theorem setDirection_maintains (hI : Patient I) (hw : ∀ e v w, I (e, v) → I (e, w))
    (hsense : ∀ e w value, I (e, w) → I ({ e with sense := value }, w)) (value : Value) :
    Maintains I (setDirection value) := by
  refine engine_maintains.bind fun e => (Maintains.ofFault _).bind fun same => ?_
  refine Maintains.ite (Maintains.pure _) ((Maintains.ofFault _).bind fun d => ?_)
  have hnative : Maintains I (ifNative (succeeds (.setDirection d))) :=
    ifNative_maintains (fun _ => succeeds_keeps _) hw
  refine hnative.bind fun b => Maintains.ite (Maintains.pure _) ?_
  have hchanged : Maintains I (change fun e => { e with sense := value }) :=
    change_maintains fun e w => hsense e w value
  exact hchanged.bind fun _ => (clearSolution_maintains hI).bind fun _ => Maintains.pure _

end Passing

/-! ## Columns -/

theorem addVar_answered (hI : Heedless I) (hJ : Forgets L J) (objective lower upper : Value)
    (kind : VarKind) (name : Value)
    (hnative : Leads I (ifNative (addNativeColumn objective lower upper kind name))
      (fun added s => if added then K s else I s) I)
    (hstore : ∀ s, K s →
      match columnOf objective lower upper kind name with
      | .ok c => L (s.1.pushColumn c, s.2)
      | .error _ => I s) :
    Leads I (addVar objective lower upper (.text kind.code) name) (Answered I J) I := by
  refine recorded_answered hI rfl ?_
  rw [decode_code VarKind.ofCode?_code kind]
  refine ifNative_answered hnative ?_
  intro s hs
  have hcolumn := hstore s hs
  -- the numbers are read last, when the native solver has its column already
  cases hc : columnOf objective lower upper kind name with
  | error f =>
    rw [hc] at hcolumn
    exact hcolumn
  | ok c =>
    rw [hc] at hcolumn
    exact finishAddition_answered hJ (s.1.pushColumn c, s.2) hcolumn

/-- The call that adds columns whose numbers have been read. -/
def addColumns (cs : List Column) : Acting Value :=
  addVars (.int cs.length) (.list (cs.map fun c => .float c.objective))
    (.list (cs.map fun c => .float c.lower)) (.list (cs.map fun c => .float c.upper))
    (.list (cs.map fun c => .text c.kind.code)) (.list (cs.map (·.name)))

theorem checkColumns_columns (cs : List Column) :
    checkColumns (.int cs.length) (.list (cs.map fun c => .float c.objective))
      (.list (cs.map fun c => .float c.lower)) (.list (cs.map fun c => .float c.upper))
      (.list (cs.map fun c => .text c.kind.code)) (.list (cs.map (·.name))) =
      .ok (some (cs.map (·.kind))) := by
  have hcount := isCountOf_lists cs.length [cs.map fun c => .float c.objective,
    cs.map fun c => .float c.lower, cs.map fun c => .float c.upper,
    cs.map fun c => .text c.kind.code] (by simp)
  have hnames : namesFit (.list (cs.map (·.name))) (.int cs.length) = .ok true := by
    have hlength := hasLength_list (cs.map (·.name))
    rwa [List.length_map] at hlength
  have hkinds := decodeAll_codes VarKind.ofCode?_code (cs.map (·.kind))
  rw [List.map_map] at hkinds
  simp only [List.map_cons, List.map_nil] at hcount
  rw [checkColumns, hcount, hnames, items_list]
  exact congrArg Failure.lift hkinds

theorem addColumns_answered (hI : Heedless I) (hJ : Forgets L J) (cs : List Column)
    (hnative : Leads I (ifNative (addNativeColumns (cs.map fun c => .float c.objective)
      (cs.map fun c => .float c.lower) (cs.map fun c => .float c.upper) (cs.map (·.kind))
      (cs.map (·.name)))) (fun added s => if added then K s else I s) I)
    (hstore : ∀ e w, K (e, w) → L ({ e with columns := e.columns ++ cs }, w)) :
    Leads I (addColumns cs) (Answered I J) I := by
  refine recorded_answered hI rfl ?_
  rw [checkColumns_columns]
  refine ifNative_answered hnative ?_
  refine Leads.bind (Q := fun _ => K) (fun s hs => hs) fun _ => ?_
  refine Leads.bind (Q := fun _ => L) ?_ fun _ => finishAddition_answered hJ
  rintro ⟨e, w⟩ hs
  simp only [items_list, perform_storeColumns]
  exact hstore e w hs

/-! ## Rows -/

theorem arePositions_terms (count : Nat) (ts : List (Nat × Double)) {b : Bool}
    (h : arePositions count (ts.map fun t => .int t.1) = .ok b) :
    b = true → TermRow.InRange count ts := by
  have hpositions := arePositions_ints count (ts.map Prod.fst)
  rw [List.map_map] at hpositions
  have hb : b = decide (∀ i ∈ ts.map Prod.fst, i < count) := by
    simpa using h.symm.trans hpositions
  intro htrue t ht
  rw [htrue, eq_comm, decide_eq_true_iff] at hb
  exact hb t.1 (List.mem_map_of_mem ht)

/-- Rows are passed on only if their columns are there. -/
theorem arePositions_answered (ts : List (Nat × Double)) {x : Acting Value}
    (hx : Leads (fun s => TermRow.InRange s.1.columns.length ts ∧ I s) x (Answered I J) I) :
    Leads I (do
      let count := (← engine).columns.length
      if !(← Action.ofExcept (arePositions count (ts.map fun t => .int t.1))) then
        return refused .indexOutOfRange
      x) (Answered I J) I := by
  refine Leads.get_bind fun s hs => ?_
  have hcheck : Leads (· = s)
      (Action.ofExcept (arePositions s.1.columns.length (ts.map fun t => .int t.1)))
      (fun b t => arePositions s.1.columns.length (ts.map fun t => .int t.1) = .ok b ∧ t = s) I :=
    (Leads.ofExcept _).mono (fun _ h => h) (fun _ _ h => h) (fun _ h => h ▸ hs)
  refine hcheck.bind fun b => ?_
  cases b
  · rintro t ⟨-, rfl⟩
    exact refused_answered (E := I) .indexOutOfRange t hs
  · rintro t ⟨hb, rfl⟩
    exact hx t ⟨arePositions_terms _ _ hb rfl, hs⟩

/-- The call that adds a row. -/
def addRow (r : TermRow) : Acting Value :=
  addConstraint (.int r.terms.length) (.list (r.terms.map fun t => .int t.1))
    (.list (r.terms.map fun t => .float t.2)) (.text r.sense.code) (.float r.bound)
    (.ofName r.name)

/-- The arguments for a row fit together. -/
theorem checkRow_terms (r : TermRow) :
    (do
      if !(← hasLength (.list (r.terms.map fun t => .int t.1)) (.int r.terms.length)) then
        return none
      if !(← hasLength (.list (r.terms.map fun t => .float t.2)) (.int r.terms.length)) then
        return none
      decode Sense.ofCode? (.text r.sense.code) : Except Fault (Option Sense)) =
      .ok (some r.sense) := by
  have hindices := hasLength_list (r.terms.map fun t => .int t.1)
  have hvalues := hasLength_list (r.terms.map fun t => .float t.2)
  rw [List.length_map] at hindices hvalues
  rw [hindices, hvalues]
  exact decode_code Sense.ofCode?_code r.sense

theorem addRow_answered (hI : Heedless I) (hJ : Forgets L J) (r : TermRow)
    (hnative : Leads (fun s => TermRow.InRange s.1.columns.length r.terms ∧ I s)
      (ifNative (addNativeRow (r.terms.map fun t => .int t.1) (r.terms.map fun t => .float t.2)
        r.sense (.float r.bound) (.ofName r.name))) (fun added s => if added then K s else I s) I)
    (hstore : ∀ e w, K (e, w) → L (e.pushRow r.row, w)) :
    Leads I (addRow r) (Answered I J) I := by
  refine recorded_answered hI rfl ?_
  rw [checkRow_terms]
  refine arePositions_answered r.terms (ifNative_answered hnative ?_)
  rw [items_list, items_list, rowOf_terms]
  exact fun s hs => finishAddition_answered hJ (s.1.pushRow r.row, s.2) (hstore s.1 s.2 hs)

/-- The call that adds rows. -/
def addRows (rs : List TermRow) : Acting Value :=
  addConstraints (.int rs.length) (.int (TermRow.allTerms rs).length)
    (.list ((TermRow.startsFrom 0 rs).map fun (i : Nat) => .int i))
    (.list ((TermRow.allTerms rs).map fun t => .int t.1))
    (.list ((TermRow.allTerms rs).map fun t => .float t.2))
    (.list (rs.map fun r => .text r.sense.code)) (.list (rs.map fun r => .float r.bound))
    (.list (rs.map fun r => .ofName r.name))

theorem checkRows_rows (rs : List TermRow) :
    checkRows (.int rs.length) (.int (TermRow.allTerms rs).length)
      (.list ((TermRow.startsFrom 0 rs).map fun (i : Nat) => .int i))
      (.list ((TermRow.allTerms rs).map fun t => .int t.1))
      (.list ((TermRow.allTerms rs).map fun t => .float t.2))
      (.list (rs.map fun r => .text r.sense.code)) (.list (rs.map fun r => .float r.bound))
      (.list (rs.map fun r => .ofName r.name)) = .ok (some (rs.map (·.sense))) := by
  have hcount := isCountOf_lists rs.length [(TermRow.startsFrom 0 rs).map fun (i : Nat) => .int i,
    rs.map fun r => .text r.sense.code, rs.map fun r => .float r.bound]
    (by simp [TermRow.length_startsFrom])
  have hindices := hasLength_list ((TermRow.allTerms rs).map fun t => .int t.1)
  have hvalues := hasLength_list ((TermRow.allTerms rs).map fun t => .float t.2)
  have hnames := hasLength_list (rs.map fun r => .ofName r.name)
  have hsenses := decodeAll_codes Sense.ofCode?_code (rs.map (·.sense))
  have hparts := parts_starts 0 rs
  rw [List.length_map] at hindices hvalues hnames
  rw [List.map_map] at hsenses
  rw [Nat.zero_add] at hparts
  simp only [List.map_cons, List.map_nil] at hcount
  have hfit : (do
      if !(← hasLength (.list ((TermRow.allTerms rs).map fun t => .int t.1))
        (.int (TermRow.allTerms rs).length)) then return none
      if !(← hasLength (.list ((TermRow.allTerms rs).map fun t => .float t.2))
        (.int (TermRow.allTerms rs).length)) then return none
      if !(← namesFit (.list (rs.map fun r => .ofName r.name)) (.int rs.length)) then return none
      decodeAll Sense.ofCode? (rs.map fun r => .text r.sense.code) :
      Except Fault (Option (List Sense))) = .ok (some (rs.map (·.sense))) := by
    rw [hindices, hvalues, namesFit, hnames]
    · exact hsenses
    · simp
  rw [checkRows, hcount, items_list, items_list, hfit, hparts, areParts_ranges]
  rfl

theorem addRows_answered (hI : Heedless I) (hJ : Forgets L J) (rs : List TermRow)
    (hnative : Leads (fun s => TermRow.InRange s.1.columns.length (TermRow.allTerms rs) ∧ I s)
      (ifNative (addNativeRows ((TermRow.startsFrom 0 rs).map fun (i : Nat) => .int i)
        ((TermRow.allTerms rs).map fun t => .int t.1) ((TermRow.allTerms rs).map fun t => .float t.2)
        (rs.map (·.sense)) (rs.map fun r => .float r.bound) (rs.map fun r => .ofName r.name)))
      (fun added s => if added then K s else I s) I)
    (hstore : ∀ e w, K (e, w) → L ({ e with rows := e.rows ++ rs.map TermRow.row }, w)) :
    Leads I (addRows rs) (Answered I J) I := by
  refine recorded_answered hI rfl ?_
  rw [checkRows_rows]
  refine arePositions_answered (TermRow.allTerms rs) (ifNative_answered hnative ?_)
  refine Leads.bind (Q := fun _ => K) (fun s hs => hs) fun _ => ?_
  refine Leads.bind (Q := fun _ => L) ?_ fun _ => finishAddition_answered hJ
  rintro ⟨e, w⟩ hs
  have hparts := parts_starts 0 rs
  have hrows := perform_storeRows [] rs e w
  rw [Nat.zero_add] at hparts
  rw [List.nil_append, List.length_nil] at hrows
  simp only [items_list, hparts, hrows]
  exact hstore e w hs

end Milp.Engine

import Milp.Proofs.Engine.Batch
import Milp.Proofs.Engine.Parallel
import Milp.Settings.Basic
set_option autoImplicit false

/-! # Calls of an engine in memory

Without a native solver behind it an engine carries out every well-formed call, unless there is an
order to fail for it (`CallEnds`). Either way the call is logged, and the order is used up; nothing
else is changed but what the call stores (`Ran`). -/

namespace Milp

/-- An order to fail whose code counts as false or is a number, and whose calls can be counted. -/
structure InjectedFailure.Proper (view : View) (f : InjectedFailure) : Prop where
  code : f.code.truthy view = .ok false ∨
    (f.code.truthy view = .ok true ∧ ∃ n, f.code.toInt = .ok n)
  times : ∃ next, f.next = .ok next

/-- Orders with a number as their code, for any number of calls, are proper ones. -/
theorem InjectedFailure.proper {f : InjectedFailure} (view : View)
    (hcode : (∃ n, f.code = .int n) ∨ ∃ r, f.code = .refusal r)
    (htimes : f.times = .nothing ∨ ∃ n, f.times = .int n) : f.Proper view where
  code := by
    rcases hcode with ⟨n, hn⟩ | ⟨r, hr⟩
    · have htruthy : f.code.truthy view = .ok !decide (n = 0) := by
        rw [hn]
        exact congrArg (fun b => Except.ok !b) (Number.same_int n 0)
      by_cases hzero : n = 0
      · exact .inl (by rw [htruthy, decide_eq_true hzero]; rfl)
      · exact .inr ⟨by rw [htruthy, decide_eq_false hzero]; rfl, n, by rw [hn]; rfl⟩
    · exact .inr ⟨by rw [hr, Value.truthy_refusal], r.code, by rw [hr]; rfl⟩
  times := by
    unfold next
    rcases htimes with hnothing | ⟨n, hn⟩
    · exact ⟨some f, by rw [hnothing]; rfl⟩
    · rw [hn, Value.holds_atMost_int, Value.int, Value.int, Value.combine_numbers]
      cases decide (n ≤ 1) with
      | true => exact ⟨none, rfl⟩
      | false => exact ⟨_, rfl⟩

namespace Engine

open Milp.Action

variable {e f g : Engine} {w : Surroundings}

/-- The order to fail for an operation is a proper one, if there is one. -/
def ProperOrder (view : View) (e : Engine) (operation : String) : Prop :=
  ∀ order, e.injected? operation = some order → order.Proper view

/-- The next call of an operation is made to fail with a code. -/
def FailsOn (view : View) (e : Engine) (operation : String) (code : Int) : Prop :=
  ∃ order, e.injected? operation = some order ∧ order.code.truthy view = .ok true ∧
    order.code.toInt = .ok code

theorem FailsOn.unique {view : View} {operation : String} {m n : Int}
    (hm : FailsOn view e operation m) (hn : FailsOn view e operation n) : m = n := by
  obtain ⟨order, horder, -, hcode⟩ := hm
  obtain ⟨order', horder', -, hcode'⟩ := hn
  cases horder.symm.trans horder'
  exact Except.ok.inj (hcode.symm.trans hcode')

/-! ## The log and the orders -/

/-- Operations have been called, which are all that is new in the log. Orders to fail for other
operations are as they were, and so is what is set. -/
structure Called (operations : List String) (e f : Engine) : Prop where
  calls : ∃ cs, f.calls = e.calls ++ cs ∧ cs.map Call.operation = operations
  isNative : f.isNative = e.isNative
  orders : ∀ operation ∉ operations, f.injected? operation = e.injected? operation
  modelName : f.modelName = e.modelName
  sense : f.sense = e.sense
  parameters : f.parameters = e.parameters
  ended : f.ended = e.ended

theorem Called.refl (e : Engine) : Called [] e e :=
  ⟨⟨[], (List.append_nil _).symm, rfl⟩, rfl, fun _ _ => rfl, rfl, rfl, rfl, rfl⟩

theorem Called.trans {os os' : List String} (h : Called os e f) (h' : Called os' f g) :
    Called (os ++ os') e g where
  calls := by
    obtain ⟨cs, hcalls, hcs⟩ := h.calls
    obtain ⟨cs', hcalls', hcs'⟩ := h'.calls
    refine ⟨cs ++ cs', ?_, ?_⟩
    · rw [hcalls', hcalls, List.append_assoc]
    · rw [List.map_append, hcs, hcs']
  isNative := h'.isNative.trans h.isNative
  orders := by
    intro operation hoperation
    rw [List.mem_append, not_or] at hoperation
    exact (h'.orders operation hoperation.2).trans (h.orders operation hoperation.1)
  modelName := h'.modelName.trans h.modelName
  sense := h'.sense.trans h.sense
  parameters := h'.parameters.trans h.parameters
  ended := h'.ended.trans h.ended

/-- What an engine stores does not matter for its log and its orders. -/
theorem Called.store {os : List String} (h : Called os e f) (cs : List Column) (rs : List Row)
    (solution : Solution) :
    Called os e { f with columns := cs, rows := rs, solution } :=
  ⟨h.calls, h.isNative, h.orders, h.modelName, h.sense, h.parameters, h.ended⟩

theorem Called.failsOn {os : List String} (h : Called os e f) {view : View} {operation : String}
    (ho : operation ∉ os) {n : Int} : FailsOn view f operation n ↔ FailsOn view e operation n := by
  unfold FailsOn
  rw [h.orders operation ho]

theorem Called.properOrder {os : List String} (h : Called os e f) {view : View}
    {operation : String} (ho : operation ∉ os) :
    ProperOrder view f operation ↔ ProperOrder view e operation := by
  unfold ProperOrder
  rw [h.orders operation ho]

theorem record_called (h : e.isNative = false) (c : Call) :
    Called [c.operation] e (e.record c) ∧ Untouched e (e.record c) ∧
      (e.record c).backend = e.backend := by
  rw [record_of_not_native h]
  exact ⟨⟨⟨[c], rfl, rfl⟩, rfl, fun _ _ => rfl, rfl, rfl, rfl, rfl⟩, ⟨rfl, rfl, rfl⟩, rfl⟩

/-- An order to fail is one for the same operation as long as it lasts. -/
theorem operation_of_next {order next : InjectedFailure} (h : order.next = .ok (some next)) :
    next.operation = order.operation := by
  unfold InjectedFailure.next at h
  split at h
  · cases h
    rfl
  · obtain ⟨last, -, h⟩ := bind_eq_ok_iff.1 h
    cases last with
    | true => cases h
    | false =>
      obtain ⟨times, -, h⟩ := bind_eq_ok_iff.1 h
      cases h
      rfl

/-- Orders for other operations stay when one for an operation is replaced. -/
theorem injected?_setInjected {operation other : String} (hne : other ≠ operation)
    {next : Option InjectedFailure}
    (hnext : ∀ order, next = some order → order.operation.same (.text operation) = true) :
    (e.setInjected operation next).injected? other = e.injected? other := by
  obtain ⟨backend, modelName, columns, rows, sense, parameters, calls, ended, solution⟩ := e
  cases backend with
  | faulty orders =>
    have hsame {order : InjectedFailure} (h : order.operation.same (.text operation) = true) :
        order.operation.same (.text other) = false := by
      rw [SettingsNode.same_text_of_same h, decide_eq_false hne.symm]
    have hfirst : next.toList.find? (fun order => order.operation.same (.text other)) = none := by
      cases next with
      | none => rfl
      | some order => simp [hsame (hnext order rfl)]
    have hrest (order : InjectedFailure) (h : order.operation.same (.text other) = true) :
        (!order.operation.same (.text operation)) = true := by
      cases hthis : order.operation.same (.text operation) with
      | false => rfl
      | true => cases (hsame hthis).symm.trans h
    -- neither the order that is put first nor those that are dropped are for the other operation
    show List.find? _ (next.toList ++ orders.filter _) = _
    rw [List.find?_append, hfirst, Option.none_or, List.find?_filter]
    congr 1
    funext order
    cases hother : order.operation.same (.text other) with
    | false => simp
    | true => simp [hrest order hother]
  | _ => rfl

/-- The order that is found for an operation is one for it. -/
theorem operation_of_injected? {operation : String} {order : InjectedFailure}
    (h : e.injected? operation = some order) :
    order.operation.same (.text operation) = true := by
  unfold injected? at h
  split at h
  · have hmatch := List.find?_some h
    exact hmatch
  · cases h

/-- An order that is used up is not one for another operation. -/
theorem Called.setInjected {operation : String} (h : Called [operation] e f)
    {order : InjectedFailure} (hfound : e.injected? operation = some order)
    {next : Option InjectedFailure} (hnext : order.next = .ok next) :
    Called [operation] e (f.setInjected operation next) := by
  have horders : ∀ other ∉ [operation],
      (f.setInjected operation next).injected? other = e.injected? other := by
    intro other hother
    have hne : other ≠ operation := fun he => hother (List.mem_singleton.2 he)
    refine (injected?_setInjected hne fun left hleft => ?_).trans (h.orders other hother)
    rw [operation_of_next (hleft ▸ hnext)]
    exact operation_of_injected? hfound
  have hnative : (f.setInjected operation next).isNative = e.isNative := by
    rw [← h.isNative]
    unfold Engine.setInjected
    split
    · rename_i orders horders
      rw [Engine.isNative, Engine.isNative, horders]
    · rfl
  refine ⟨?_, hnative, horders, ?_, ?_, ?_, ?_⟩ <;> unfold Engine.setInjected
  · split <;> exact h.calls
  · split <;> exact h.modelName
  · split <;> exact h.sense
  · split <;> exact h.parameters
  · split <;> exact h.ended

/-- The code that an order to fail answers a call with. -/
inductive Answers (view : View) (e : Engine) (operation : String) (code : Value) : Prop
  | fail {n : Int} (h : FailsOn view e operation n) (htrue : code.truthy view = .ok true)
      (hcode : code.toInt = .ok n)
  | pass (h : ∀ n, ¬FailsOn view e operation n) (hfalse : code.truthy view = .ok false)

/-- Asking for an order to fail uses it up, and changes nothing else. -/
theorem injectedCode_answers {operation : String} (hcalled : Called [operation] e f)
    (hsame : Untouched e f) (hbackend : f.backend = e.backend)
    (horder : ProperOrder w.view e operation) :
    ∃ code g, (injectedCode operation).perform (f, w) = (.ok code, g, w) ∧
      Called [operation] e g ∧ Untouched e g ∧ Answers w.view e operation code := by
  have hinjected : f.injected? operation = e.injected? operation := by
    unfold injected?
    rw [hbackend]
  cases hfound : e.injected? operation with
  | none =>
    refine ⟨accepted, f, perform_injectedCode_none (hinjected.trans hfound), hcalled, hsame,
      .pass ?_ (Value.truthy_accepted _)⟩
    rintro n ⟨order, hother, -⟩
    cases hfound.symm.trans hother
  | some order =>
    obtain ⟨hcode, next, hnext⟩ := horder order hfound
    refine ⟨order.code, f.setInjected operation next,
      perform_injectedCode_ok (hinjected.trans hfound) hnext w, hcalled.setInjected hfound hnext,
      ?_, ?_⟩
    · unfold setInjected
      split <;> exact ⟨hsame.columns, hsame.rows, hsame.solution⟩
    · rcases hcode with hfalse | ⟨htrue, n, hn⟩
      · refine .pass ?_ hfalse
        rintro n ⟨order', horder', htrue, -⟩
        cases hfound.symm.trans horder'
        cases hfalse.symm.trans htrue
      · exact .fail ⟨order, hfound, htrue, hn⟩ htrue hn

/-! ## Calls -/

/-- Operations have been called, and all that they have stored are some columns and rows. If there
are any, what was known about a solution is forgotten. -/
structure Ran (operations : List String) (cs : List Column) (rs : List Row) (e f : Engine) :
    Prop extends Called operations e f where
  columns : f.columns = e.columns ++ cs
  rows : f.rows = e.rows ++ rs
  solution : cs = [] → rs = [] → f.solution = e.solution
  forgotten : cs ≠ [] ∨ rs ≠ [] → f.solution = {}

theorem Ran.of_untouched {os : List String} (h : Called os e f) (hsame : Untouched e f) :
    Ran os [] [] e f where
  toCalled := h
  columns := hsame.columns.trans (List.append_nil _).symm
  rows := hsame.rows.trans (List.append_nil _).symm
  solution _ _ := hsame.solution
  forgotten h := absurd h (not_or.2 ⟨not_not.2 rfl, not_not.2 rfl⟩)

theorem Ran.refl (e : Engine) : Ran [] [] [] e e := .of_untouched (.refl e) ⟨rfl, rfl, rfl⟩

theorem Ran.trans {os os' : List String} {cs cs' : List Column} {rs rs' : List Row}
    (h : Ran os cs rs e f) (h' : Ran os' cs' rs' f g) :
    Ran (os ++ os') (cs ++ cs') (rs ++ rs') e g where
  toCalled := h.toCalled.trans h'.toCalled
  columns := by rw [h'.columns, h.columns, List.append_assoc]
  rows := by rw [h'.rows, h.rows, List.append_assoc]
  solution hcs hrs := by
    obtain ⟨hcs, hcs'⟩ := List.append_eq_nil_iff.1 hcs
    obtain ⟨hrs, hrs'⟩ := List.append_eq_nil_iff.1 hrs
    exact (h'.solution hcs' hrs').trans (h.solution hcs hrs)
  forgotten hnew := by
    by_cases hlater : cs' ≠ [] ∨ rs' ≠ []
    · exact h'.forgotten hlater
    · rw [not_or, not_not, not_not] at hlater
      rw [hlater.1, hlater.2, List.append_nil, List.append_nil] at hnew
      exact (h'.solution hlater.1 hlater.2).trans (h.forgotten hnew)

/-- How a call ends: an order makes it fail with a code and nothing is stored, or there is none and it
succeeds with what it stores. -/
inductive CallEnds (operation : String) (cs : List Column) (rs : List Row) (e : Engine)
    (w : Surroundings) : Except Failure Value × Engine × Surroundings → Prop
  | failed {code : Value} {n : Int} {f : Engine} (h : FailsOn w.view e operation n)
      (htrue : code.truthy w.view = .ok true) (hcode : code.toInt = .ok n)
      (hran : Ran [operation] [] [] e f) : CallEnds operation cs rs e w (.ok code, f, w)
  | stored {status : Value} {f : Engine} (h : ∀ n, ¬FailsOn w.view e operation n)
      (hfalse : status.truthy w.view = .ok false) (hran : Ran [operation] cs rs e f) :
      CallEnds operation cs rs e w (.ok status, f, w)

theorem updateModel_ends (h : e.isNative = false) (horder : ProperOrder w.view e "update_model") :
    CallEnds "update_model" [] [] e w (updateModel.perform (e, w)) := by
  obtain ⟨hcalled, hsame, hbackend⟩ := record_called h .updateModel
  obtain ⟨code, f, hcode, hcalled, hsame, hanswer⟩ :=
    injectedCode_answers hcalled hsame hbackend horder
  have hperform : updateModel.perform (e, w) = (.ok code, f, w) := by
    show (if e.isNative then return accepted else do
      change (·.record .updateModel)
      injectedCode Call.updateModel.operation : Acting Value).perform (e, w) = _
    rw [h]
    exact hcode
  rw [hperform]
  cases hanswer with
  | fail hfails htrue hint => exact .failed hfails htrue hint (.of_untouched hcalled hsame)
  | pass hnone hfalse => exact .stored hnone hfalse (.of_untouched hcalled hsame)

/-- An addition that has something to store ends as its second part says. -/
theorem recorded_ends (h : e.isNative = false) (c : Call)
    (horder : ProperOrder w.view e c.operation) {x : Acting Value} {cs : List Column}
    {rs : List Row} (hnew : cs ≠ [] ∨ rs ≠ [])
    (hx : ∀ f : Engine, f.isNative = false → f.columns = e.columns → x.perform (f, w) =
      (.ok accepted,
        { f with columns := f.columns ++ cs, rows := f.rows ++ rs, solution := {} }, w)) :
    CallEnds c.operation cs rs e w ((recorded c x).perform (e, w)) := by
  obtain ⟨hcalled, hsame, hbackend⟩ := record_called h c
  obtain ⟨code, f, hcode, hcalled, hsame, hanswer⟩ :=
    injectedCode_answers hcalled hsame hbackend horder
  have hperform : (recorded c x).perform (e, w) =
      (do if ← isTrue code then return code else x : Acting Value).perform (f, w) := by
    show (unlessInjected c.operation id x).perform (e.record c, w) = _
    rw [unlessInjected, perform_bind_of_ok hcode]
    rfl
  -- the code is not compared with 0 but asked whether it counts as true
  have htruth {b : Bool} (hb : code.truthy w.view = .ok b) :
      (isTrue code).perform (f, w) = (.ok b, f, w) := by
    show (Action.ofFault (code.truthy w.view) : Acting Bool).perform (f, w) = _
    rw [hb]
    rfl
  rw [hperform]
  cases hanswer with
  | fail hfails htrue hint =>
    rw [perform_bind_of_ok (htruth htrue)]
    exact .failed hfails htrue hint (.of_untouched hcalled hsame)
  | pass hnone hfalse =>
    rw [perform_bind_of_ok (htruth hfalse)]
    show CallEnds _ _ _ _ _ (x.perform (f, w))
    rw [hx f (hcalled.isNative.trans h) hsame.columns]
    refine .stored hnone (Value.truthy_accepted _) ⟨hcalled.store _ _ _, ?_, ?_, ?_, fun _ => rfl⟩
    · exact congrArg (· ++ cs) hsame.columns
    · exact congrArg (· ++ rs) hsame.rows
    · exact fun hcs hrs => absurd hnew (not_or.2 ⟨not_not.2 hcs, not_not.2 hrs⟩)

/-! ## Additions -/

theorem addVar_ends_of_column (h : e.isNative = false)
    (horder : ProperOrder w.view e "add_var") {objective lower upper name : Value}
    {kind : VarKind} {c : Column}
    (hc : columnOf objective lower upper kind name = .ok c) :
    CallEnds "add_var" [c] [] e w
      ((addVar objective lower upper (.text kind.code) name).perform (e, w)) := by
  refine recorded_ends h (.addVar objective lower upper (.text kind.code) name) horder
    (.inl (List.cons_ne_nil c [])) ?_
  intro f hf _
  rw [decode_code VarKind.ofCode?_code kind, List.append_nil]
  show ((ifNative _) >>= _ : Acting Value).perform (f, w) = _
  rw [perform_bind_of_ok (perform_ifNative hf _), hc]
  rfl

theorem addColumns_ends (h : e.isNative = false) (horder : ProperOrder w.view e "add_vars")
    {cs : List Column} (hcs : cs ≠ []) :
    CallEnds "add_vars" cs [] e w ((addColumns cs).perform (e, w)) := by
  refine recorded_ends h (.addVars _ _ _ _ _ _) horder (.inl hcs) ?_
  intro f hf _
  rw [checkColumns_columns, List.append_nil]
  show ((ifNative _) >>= _ : Acting Value).perform (f, w) = _
  rw [perform_bind_of_ok (perform_ifNative hf _)]
  show ((storeColumns _) >>= _ : Acting Value).perform (f, w) = _
  rw [items_list, items_list, items_list, items_list,
    perform_bind_of_ok (perform_storeColumns cs f w)]
  rfl

theorem arePositions_inRange {count : Nat} {ts : List (Nat × Double)}
    (h : TermRow.InRange count ts) : arePositions count (ts.map fun t => .int t.1) = .ok true := by
  have hpositions := arePositions_ints count (ts.map Prod.fst)
  rw [List.map_map] at hpositions
  refine hpositions.trans (congrArg Except.ok (decide_eq_true fun i hi => ?_))
  obtain ⟨t, ht, rfl⟩ := List.mem_map.1 hi
  exact h t ht

/-- The positions of the terms of rows are checked, and found to be right. -/
theorem perform_arePositions {count : Nat} {ts : List (Nat × Double)}
    (h : TermRow.InRange count ts) (hcount : f.columns.length = count) {x : Acting Value} :
    (do
      let count := (← engine).columns.length
      if !(← Action.ofExcept (arePositions count (ts.map fun t => .int t.1))) then
        return refused .indexOutOfRange
      x : Acting Value).perform (f, w) = x.perform (f, w) := by
  show ((Action.ofExcept (arePositions f.columns.length _) : Acting Bool) >>= _).perform (f, w) = _
  rw [hcount, arePositions_inRange h]
  rfl

theorem addRow_ends (h : e.isNative = false) (horder : ProperOrder w.view e "add_constr")
    {r : TermRow} (hr : TermRow.InRange e.columns.length r.terms) :
    CallEnds "add_constr" [] [r.row] e w ((addRow r).perform (e, w)) := by
  refine recorded_ends h (.addConstraint _ _ _ _ _ _) horder
    (.inr (List.cons_ne_nil r.row [])) ?_
  intro f hf hcolumns
  rw [checkRow_terms, List.append_nil]
  refine (perform_arePositions hr (congrArg List.length hcolumns)).trans ?_
  rw [perform_bind_of_ok (perform_ifNative hf _), items_list, items_list, rowOf_terms]
  rfl

theorem addRows_ends (h : e.isNative = false) (horder : ProperOrder w.view e "add_constrs")
    {rs : List TermRow} (hnew : rs ≠ [])
    (hrs : TermRow.InRange e.columns.length (TermRow.allTerms rs)) :
    CallEnds "add_constrs" [] (rs.map TermRow.row) e w ((addRows rs).perform (e, w)) := by
  refine recorded_ends h (.addConstraints _ _ _ _ _ _ _ _) horder
    (.inr (mt List.map_eq_nil_iff.1 hnew)) ?_
  intro f hf hcolumns
  have hparts := parts_starts 0 rs
  have hrows := perform_storeRows [] rs f w
  rw [Nat.zero_add] at hparts
  rw [List.nil_append, List.length_nil] at hrows
  rw [checkRows_rows, List.append_nil]
  refine (perform_arePositions hrs (congrArg List.length hcolumns)).trans ?_
  show ((ifNative _) >>= _ : Acting Value).perform (f, w) = _
  rw [perform_bind_of_ok (perform_ifNative hf _)]
  show ((storeRows _ _ _) >>= _ : Acting Value).perform (f, w) = _
  rw [items_list, items_list, items_list, items_list, items_list, hparts, perform_bind_of_ok hrows]
  rfl

end Engine

end Milp

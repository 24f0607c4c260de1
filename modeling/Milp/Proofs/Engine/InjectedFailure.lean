import Milp.Proofs.Engine.Orders
set_option autoImplicit false

/-! # Counted failures

An engine can be told to make the first calls of an operation fail with a code. However these are
mixed with other calls, with orders for other operations and with readings, just as many calls fail as
were ordered, but at least one (`Engine.failOn_counted`). -/

namespace Milp

open Milp.Action

/-! ## What is left of an order -/

namespace InjectedFailure

/-- The order to make a number of calls of an operation fail with a code. -/
def counted (operation : String) (code : Value) (times : Int) : InjectedFailure :=
  { operation := .text operation, code, times := .int times }

/-- What some calls leave of the order to make the first `n` calls of an operation fail. An order for
no call at all is one for a single call. -/
def left (operation : String) (code : Value) (n calls : Nat) : Option InjectedFailure :=
  if calls < max n 1 then some (counted operation code (n - calls)) else none

variable {operation : String} {code : Value} {n calls : Nat} {f : InjectedFailure}

theorem left_zero : left operation code n 0 = some (counted operation code n) := by
  simp [left]

theorem operation_of_left (h : left operation code n calls = some f) :
    f.operation.same (.text operation) = true := by
  unfold left at h
  split at h
  · cases h
    simp [counted, Value.same]
  · cases h

theorem left_of_ge (h : max n 1 ≤ calls) : left operation code n calls = none :=
  if_neg (Nat.not_lt.2 h)

theorem next_counted (times : Int) : (counted operation code times).next =
    .ok (if times ≤ 1 then none else some (counted operation code (times - 1))) := by
  unfold next counted
  rw [Value.holds_atMost_int]
  by_cases hlast : times ≤ 1
  · rw [decide_eq_true hlast, if_pos hlast]
    rfl
  · have hminus : Value.combine 0 .minus (.int times) (.int 1) = .ok (.int (times - 1)) := by
      rw [Value.int, Value.int, Value.combine_numbers]
      rfl
    rw [decide_eq_false hlast, if_neg hlast, hminus]
    rfl

/-- One more call leaves one call less. -/
theorem next_of_left (h : left operation code n calls = some f) :
    f.next = .ok (left operation code n (calls + 1)) := by
  unfold left at h
  split at h
  · rename_i hcalls
    cases h
    rw [next_counted, left]
    by_cases hlast : (n : Int) - calls ≤ 1
    · rw [if_pos hlast, if_neg (by omega)]
    · rw [if_neg hlast, if_pos (by omega), Int.sub_sub, Int.natCast_succ]
  · cases h

end InjectedFailure

namespace Engine

/-! ## What happens to an engine -/

/-- What happens to an engine that takes orders. -/
inductive Event where
  | request (r : Request)
  | order (f : InjectedFailure)
  /-- The log of calls is emptied. -/
  | clearLog

namespace Event

def after (e : Engine) (w : Surroundings) : Event → Engine
  | request r => r.after e w
  | order f => e.failOn f
  | clearLog => { e with calls := [] }

/-- Whether an event is no order for an operation. -/
def Spares (operation : String) : Event → Prop
  | order f => f.operation.same (.text operation) = false
  | _ => True

/-- Whether an event counts as a call of an operation. -/
def counts (operation : String) (view : View) : Event → Bool
  | request r => r.operation = operation && r.isListable view
  | _ => false

end Event

/-- The engine after events, each of which may find other surroundings. -/
def throughout (e : Engine) (history : List (Event × Surroundings)) : Engine :=
  history.foldl (fun e s => s.1.after e s.2) e

/-- How often an operation has been called. -/
def timesCalled (operation : String) (history : List (Event × Surroundings)) : Nat :=
  history.countP fun s => s.1.counts operation s.2.view

/-- The order for an operation is what some calls have left of the first one. -/
structure Ordered (operation : String) (code : Value) (n calls : Nat) (e : Engine) : Prop where
  takesOrders : e.TakesOrders
  order : e.injected? operation = InjectedFailure.left operation code n calls

section

variable {operation : String} {code : Value} {n calls : Nat} {e : Engine}

theorem ordered_failOn (he : e.TakesOrders) :
    Ordered operation code n 0 (e.failOn (.counted operation code n)) where
  takesOrders := takesOrders_failOn he
  order := by
    rw [InjectedFailure.left_zero]
    exact injected?_failOn_self he (InjectedFailure.operation_of_left InjectedFailure.left_zero)

theorem Ordered.of_backend {f : Engine} (h : Ordered operation code n calls e)
    (hbackend : f.backend = e.backend) : Ordered operation code n calls f where
  takesOrders := h.takesOrders.of_backend hbackend
  order := by
    rw [← h.order, Engine.injected?, Engine.injected?, hbackend]

theorem Ordered.setInjected {e : Engine} {next : Option InjectedFailure} (he : e.TakesOrders)
    (hnext : next = InjectedFailure.left operation code n calls) :
    Ordered operation code n calls (e.setInjected operation next) where
  takesOrders := takesOrders_setInjected he
  order := by
    rw [← hnext]
    exact injected?_setInjected_self he fun _ horder =>
      InjectedFailure.operation_of_left (hnext.symm.trans horder)

/-- While something is left of the order, a call of its operation is made to fail. -/
theorem Ordered.perform_run_fails {r : Request} {w : Surroundings}
    (h : Ordered r.operation code n calls e) (hr : r.operation ≠ "end")
    (hcode : ∀ view, code.truthy view = .ok true) (hlisted : r.isListable w.view = true)
    (hcalls : calls < max n 1) :
    r.run.perform (e, w) = (.ok (code, .nothing),
      { e with calls := e.calls ++ (r.recorded? w.view).toList }.setInjected r.operation
        (InjectedFailure.left r.operation code n (calls + 1)), w) := by
  have hleft : InjectedFailure.left r.operation code n calls =
      some (.counted r.operation code (n - calls)) := if_pos hcalls
  exact Request.perform_run_fails h.takesOrders hr hlisted (h.order.trans hleft)
    (InjectedFailure.next_of_left hleft) (hcode _)

/-- Once nothing is left of the order, a call of its operation does what it does near zero. -/
theorem Ordered.perform_run_nearZero {r : Request} (h : Ordered r.operation code n calls e)
    (hcalls : max n 1 ≤ calls) (w : Surroundings) :
    r.run.perform (e, w) = (nearZero r.run).perform (e, w) :=
  Request.perform_run_nearZero h.takesOrders (h.order.trans (InjectedFailure.left_of_ge hcalls)) w

/-- A request counts the order for its operation down, if it gets as far as that. -/
theorem Ordered.request (h : Ordered operation code n calls e) (hoperation : operation ≠ "end")
    (hcode : ∀ view, code.truthy view = .ok true) (r : Request) (w : Surroundings) :
    Ordered operation code n
      (calls + if (Event.request r).counts operation w.view then 1 else 0) (r.after e w) := by
  rw [← Request.run_after]
  by_cases hr : r.operation = operation
  · subst hr
    cases hlisted : r.isListable w.view with
    | false =>
      obtain ⟨x, hx⟩ := Request.exists_run_unlisted hlisted
      rw [if_neg (by simp [Event.counts, hlisted]), hx e h.takesOrders.isNative]
      exact h
    | true =>
      rw [if_pos (by simp [Event.counts, hlisted])]
      rcases Nat.lt_or_ge calls (max n 1) with hcalls | hcalls
      · rw [h.perform_run_fails hoperation hcode hlisted hcalls]
        exact .setInjected (h.takesOrders.of_backend rfl) rfl
      · -- nothing is left to be counted down
        have hleft : Ordered r.operation code n (calls + 1) e := by
          refine ⟨h.takesOrders, h.order.trans ?_⟩
          rw [InjectedFailure.left_of_ge hcalls, InjectedFailure.left_of_ge (by omega)]
        rw [h.perform_run_nearZero hcalls]
        exact hleft.of_backend rfl
  · have hoverlooks := Request.overlooks hr h.takesOrders w
    rw [if_neg (by simp [Event.counts, hr])]
    exact ⟨hoverlooks.takesOrders, hoverlooks.order.trans h.order⟩

/-- Each event counts down as many calls as it counts for. -/
theorem Ordered.after (h : Ordered operation code n calls e) (hoperation : operation ≠ "end")
    (hcode : ∀ view, code.truthy view = .ok true) {event : Event} (hspares : event.Spares operation)
    (w : Surroundings) :
    Ordered operation code n (calls + if event.counts operation w.view then 1 else 0)
      (event.after e w) := by
  cases event with
  | request r => exact h.request hoperation hcode r w
  | order f => exact ⟨takesOrders_failOn h.takesOrders, (injected?_failOn hspares).trans h.order⟩
  | clearLog => exact h.of_backend rfl

theorem Ordered.throughout (h : Ordered operation code n calls e) (hoperation : operation ≠ "end")
    (hcode : ∀ view, code.truthy view = .ok true) {history : List (Event × Surroundings)}
    (hspares : ∀ s ∈ history, s.1.Spares operation) :
    Ordered operation code n (calls + timesCalled operation history) (e.throughout history) := by
  induction history generalizing e calls with
  | nil => exact h
  | cons s rest ih =>
    -- what is left after the first event is an order for the others
    obtain ⟨hs, hrest⟩ := List.forall_mem_cons.1 hspares
    have hlater := ih (h.after hoperation hcode hs s.2) hrest
    rw [timesCalled, List.countP_cons, Nat.add_comm (rest.countP _), ← Nat.add_assoc]
    exact hlater

end

/-- A request is answered with a code, and nothing has changed but the log and the order for its
operation. -/
def Request.FailsWith (code : Value) (r : Request) (e : Engine) (w : Surroundings) : Prop :=
  ∃ left, r.run.perform (e, w) = (.ok (code, .nothing),
    { e with calls := e.calls ++ (r.recorded? w.view).toList }.setInjected r.operation left, w)

/-- An engine has been told to make the first `n` calls of an operation fail with a code that counts as
true, as every number but zero does, and has had no other order for this operation since. A call of it
fails with the code as long as fewer than `n` calls have been made, or none at all, and then does what
it would do near zero. Calls of other operations make nothing of the order. -/
theorem failOn_counted {e : Engine} (he : e.TakesOrders) {operation : String}
    (hoperation : operation ≠ "end") {code : Value} (hcode : ∀ view, code.truthy view = .ok true)
    (n : Nat) {history : List (Event × Surroundings)}
    (hspares : ∀ s ∈ history, s.1.Spares operation) (r : Request) (w : Surroundings) :
    let f := (e.failOn (.counted operation code n)).throughout history
    if r.operation = operation then
      if r.isListable w.view ∧ timesCalled operation history < max n 1 then r.FailsWith code f w
      else r.run.perform (f, w) = (nearZero r.run).perform (f, w)
    else r.Overlooks operation f w := by
  intro f
  have hf : Ordered operation code n (timesCalled operation history) f := by
    have hordered := (ordered_failOn (n := n) he).throughout hoperation hcode hspares
    rwa [Nat.zero_add] at hordered
  by_cases hr : r.operation = operation
  · rw [if_pos hr]
    subst hr
    cases hlisted : r.isListable w.view with
    | false =>
      -- the call does not get as far as the operation, neither here nor near zero
      obtain ⟨x, hx⟩ := Request.exists_run_unlisted hlisted
      rw [if_neg (by simp), hx f hf.takesOrders.isNative, nearZero, within_run, hx _ rfl]
    | true =>
      rcases Nat.lt_or_ge (timesCalled r.operation history) (max n 1) with hcalls | hcalls
      · rw [if_pos ⟨rfl, hcalls⟩]
        exact ⟨_, hf.perform_run_fails hoperation hcode hlisted hcalls⟩
      · rw [if_neg fun h => Nat.not_lt.2 hcalls h.2]
        exact hf.perform_run_nearZero hcalls w
  · rw [if_neg hr]
    exact Request.overlooks hr hf.takesOrders w

/-- A request for a column between zero and one. -/
def columnRequest : Request := .call (.addVar (.int 0) (.int 0) (.int 1) (.text "C") .nothing)

/-- What happens between two requests for a column. -/
def meanwhile : List (Event × Surroundings) :=
  [.request columnRequest, .order (.counted "optimize" (.int 7) 1), .request (.call .optimize),
    .clearLog].map fun event => (event, { view := .blank })

theorem failOn_counted_twice :
    let e := Engine.failOn { backend := .faulty [] } (.counted "add_var" (.int 42) 2)
    let w : Surroundings := { view := .blank }
    columnRequest.FailsWith (.int 42) (e.throughout meanwhile) w ∧
      columnRequest.run.perform (e.throughout (meanwhile ++ meanwhile), w) =
        (nearZero columnRequest.run).perform (e.throughout (meanwhile ++ meanwhile), w) := by
  intro e w
  have hspares : ∀ s ∈ meanwhile, s.1.Spares "add_var" := by
    simp [meanwhile, Event.Spares, InjectedFailure.counted, Value.same]
  have hcounted {history} (h : ∀ s ∈ history, s.1.Spares "add_var") :=
    @failOn_counted { backend := .faulty [] } ⟨[], rfl⟩ "add_var" (by decide) (.int 42)
      (fun view => Value.truthy_int view 42) 2 history h columnRequest w
  have hsecond := hcounted hspares
  have hthird := hcounted (List.forall_mem_append.2 ⟨hspares, hspares⟩)
  dsimp only at hsecond hthird
  have hadds : columnRequest.operation = "add_var" := rfl
  have honce : timesCalled "add_var" meanwhile = 1 := rfl
  have htwice : timesCalled "add_var" (meanwhile ++ meanwhile) = 2 := rfl
  rw [if_pos hadds, honce, if_pos ⟨rfl, Nat.one_lt_two⟩] at hsecond
  rw [if_pos hadds, htwice, if_neg fun h => Nat.lt_irrefl 2 h.2] at hthird
  exact ⟨hsecond, hthird⟩

/-- An order for no call makes one fail, which near zero adds a column. -/
theorem failOn_zero_fails :
    let e := Engine.failOn { backend := .faulty [] } (.counted "add_var" (.int 42) 0)
    let w : Surroundings := { view := .blank }
    columnRequest.FailsWith (.int 42) e w ∧
      ((nearZero columnRequest.run).perform (e, w)).2.1.columns.length = 1 := by
  intro e w
  have hordered : Ordered columnRequest.operation (.int 42) 0 0 e := ordered_failOn ⟨[], rfl⟩
  have hfails := hordered.perform_run_fails (by decide) (fun view => Value.truthy_int view 42)
    (w := w) rfl (by decide)
  exact ⟨⟨_, hfails⟩, by decide +kernel⟩

end Engine

end Milp

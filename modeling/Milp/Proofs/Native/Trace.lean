import Milp.Proofs.Engine.Addition
import Milp.Proofs.Native.Replay
set_option autoImplicit false

/-! # Following the calls of an engine

What is known about the model that an engine's instance of the native solver has after its calls so
far (`Traced`), and how each kind of call changes that. An addition with what has to be said about it
either goes through or leaves the model as it was (`addAndDescribe_leads`): the first failing call
stops it, and taking back what was added restores the model, as long as taking back does not fail
itself. -/

namespace Milp

/-- Whether a call deletes columns or rows. -/
def SolverCall.isDeletion : SolverCall → Bool
  | deleteColumns _ | deleteRows _ => true
  | _ => false

/-- No deletion among some calls has failed. -/
def DeletionsSucceed (calls : List AnsweredCall) : Prop :=
  ∀ c ∈ calls, c.call.isDeletion → c.reply ≠ .error

instance (calls : List AnsweredCall) : Decidable (DeletionsSucceed calls) :=
  inferInstanceAs (Decidable (∀ c ∈ calls, c.call.isDeletion = true → c.reply ≠ .error))

theorem deletionsSucceed_concat {calls : List AnsweredCall} {c : AnsweredCall}
    (h : DeletionsSucceed (calls ++ [c])) :
    DeletionsSucceed calls ∧ (c.call.isDeletion → c.reply ≠ .error) :=
  ⟨fun d hd => h d (List.mem_append_left _ hd),
    h c (List.mem_append_right _ (List.mem_singleton.2 rfl))⟩

/-! ## Counts -/

/-- An instance counts as many columns and rows as a model has. -/
structure SolverInstance.Counts (x : SolverInstance) (m : NativeModel) : Prop where
  columns : x.columns = m.columns.length
  rows : x.rows = m.rows.length

/-- A call changes the counts as it changes the model. -/
def SolverCall.Fits (c : SolverCall) (m : NativeModel) : Prop :=
  ∀ x : SolverInstance, x.Counts m → (x.apply c).Counts (m.apply c)

/-! ## What is known about a model -/

/-- If no deletion has failed, `R` holds of the model that an instance has after its calls since some
earlier ones. -/
structure Traced (i : Nat) (earlier : List AnsweredCall) (R : NativeModel → Prop) (s : Solver) :
    Prop where
  exists_instance : i < s.instances.length
  model : ∃ calls, s.callsOf i = earlier ++ calls ∧ (DeletionsSucceed calls →
    R (NativeModel.replay calls) ∧ (s.instance? i).Counts (NativeModel.replay calls))

/-- The calls of an instance since an earlier state. -/
def Solver.callsSince (i : Nat) (earlier s : Solver) : List AnsweredCall :=
  (s.callsOf i).drop (earlier.callsOf i).length

namespace Traced

variable {i : Nat} {earlier : List AnsweredCall} {R Q : NativeModel → Prop} {s t : Solver}

theorem mono (h : Traced i earlier R s) (hR : ∀ m, R m → Q m) : Traced i earlier Q s := by
  obtain ⟨hi, calls, hcalls, hs⟩ := h
  exact ⟨hi, calls, hcalls, fun hd => ⟨hR _ (hs hd).1, (hs hd).2⟩⟩

theorem of_sameAt (h : Traced i earlier R s) (hst : s.SameAt i t) : Traced i earlier R t := by
  obtain ⟨hi, calls, hcalls, hs⟩ := h
  exact ⟨hst.length hi, calls, hst.calls.trans hcalls, by rwa [hst.instance?]⟩

/-- What the instance counts may be used. -/
theorem counts (h : Traced i earlier R s) :
    Traced i earlier (fun m => R m ∧ (s.instance? i).Counts m) s := by
  obtain ⟨hi, calls, hcalls, hs⟩ := h
  exact ⟨hi, calls, hcalls, fun hd => ⟨hs hd, (hs hd).2⟩⟩

/-- A call that has not failed has had its effect, and one that has failed has had none. -/
theorem call (h : Traced i earlier R s) {c : SolverCall}
    (hQ : (s.call i c).1 ≠ .error → ∀ m, R m → c.Fits m ∧ Q (m.apply c))
    (hfailed : (s.call i c).1 = .error → c.isDeletion = false → ∀ m, R m → Q m) :
    Traced i earlier Q (s.call i c).2 := by
  obtain ⟨hi, calls, hcalls, hs⟩ := h
  have hi' : i < (s.call i c).2.instances.length := by rwa [Solver.length_instances_call]
  have hcalls' : (s.call i c).2.callsOf i = earlier ++ (calls ++ [⟨i, c, (s.call i c).1⟩]) := by
    rw [Solver.callsOf_call, if_pos rfl, hcalls, List.append_assoc]
  obtain ⟨hcolumns, hrows⟩ := Solver.instance?_call hi c
  refine ⟨hi', _, hcalls', fun hd => ?_⟩
  obtain ⟨hd, hdc⟩ := deletionsSucceed_concat hd
  obtain ⟨hR, hcounts⟩ := hs hd
  rw [NativeModel.replay_concat, NativeModel.applyAnswered]
  by_cases hr : (s.call i c).1 = .error
  · have hc : c.isDeletion = false := by
      rw [← Bool.not_eq_true]
      exact fun hc => hdc hc hr
    rw [SolverInstance.answered, if_pos hr] at hcolumns hrows
    rw [if_pos hr]
    exact ⟨hfailed hr hc _ hR, hcolumns.trans hcounts.columns, hrows.trans hcounts.rows⟩
  · obtain ⟨hfits, hq⟩ := hQ hr _ hR
    have hcounts' := hfits _ hcounts
    rw [SolverInstance.answered, if_neg hr] at hcolumns hrows
    rw [if_neg hr]
    exact ⟨hq, hcolumns.trans hcounts'.columns, hrows.trans hcounts'.rows⟩

/-- Calls that are not about the model leave it as it is. -/
theorem call_neutral (h : Traced i earlier R s) {c : SolverCall} (hc : c.isNeutral) :
    Traced i earlier R (s.call i c).2 := by
  refine h.call (fun _ m hm => ⟨fun x hx => ?_, ?_⟩) fun _ _ _ hm => hm
  · rw [NativeModel.apply_neutral hc]
    cases c with
    | setOption _ _ | write _ | run => exact hx
    | _ => cases hc
  · rwa [NativeModel.apply_neutral hc]

theorem callsSince {u : Solver} (h : Traced i (u.callsOf i) R s) :
    s.callsOf i = u.callsOf i ++ u.callsSince i s ∧
      (DeletionsSucceed (u.callsSince i s) → R (NativeModel.replay (u.callsSince i s))) := by
  obtain ⟨-, calls, hcalls, hs⟩ := h
  have hsince : u.callsSince i s = calls := by
    rw [Solver.callsSince, hcalls, List.drop_left]
  rw [hsince]
  exact ⟨hcalls, fun hd => (hs hd).1⟩

/-- The model is no other than that of the calls. -/
theorem eq_replay {u : Solver} (h : Traced i (u.callsOf i) R s) :
    Traced i (u.callsOf i) (fun m => R m ∧ m = NativeModel.replay (u.callsSince i s)) s := by
  obtain ⟨hi, calls, hcalls, hs⟩ := h
  have hsince : u.callsSince i s = calls := by
    rw [Solver.callsSince, hcalls, List.drop_left]
  rw [hsince]
  exact ⟨hi, calls, hcalls, fun hd => ⟨⟨(hs hd).1, rfl⟩, (hs hd).2⟩⟩

/-- A new instance has an empty model. -/
theorem create (hR : R {}) :
    Traced s.instances.length (s.callsOf s.instances.length) R s.create.2 := by
  have hnew : s.create.2.instance? s.instances.length = {} := by
    rw [Solver.instance?, Solver.create, List.getD_eq_getElem?_getD, List.getElem?_concat_length]
    rfl
  refine ⟨?_, [], (List.append_nil _).symm, fun _ => ⟨hR, ?_⟩⟩
  · rw [Solver.create, List.length_append]
    exact Nat.lt_succ_self _
  · rw [hnew]
    exact ⟨rfl, rfl⟩

end Traced

/-! ## Engines with an instance -/

namespace Engine

open Milp.Action

section

variable (i : Nat) (earlier : List AnsweredCall)

/-- The engine has an instance, and `R` relates the engine to the model of that instance. -/
def Live (R : Engine → NativeModel → Prop) (s : Engine × Surroundings) : Prop :=
  s.1.backend = .native (some i) ∧ Traced i earlier (R s.1) s.2.solver

/-- The same of an engine that may have ended. -/
def Held (R : Engine → NativeModel → Prop) (s : Engine × Surroundings) : Prop :=
  (s.1.backend = .native (some i) ∨ s.1.backend = .native none) ∧
    Traced i earlier (R s.1) s.2.solver

end

variable {i : Nat} {earlier : List AnsweredCall} {R Q : Engine → NativeModel → Prop}
  {E : Engine × Surroundings → Prop}

theorem Live.held {s : Engine × Surroundings} (h : Live i earlier R s) : Held i earlier R s :=
  ⟨.inl h.1, h.2⟩

theorem Held.mono {s : Engine × Surroundings} (h : Held i earlier R s)
    (hR : ∀ m, R s.1 m → Q s.1 m) : Held i earlier Q s := ⟨h.1, h.2.mono hR⟩

/-- An engine that has ended does not look into its instance. -/
theorem solverInstance_leads : Leads (Held i earlier R) solverInstance
    (fun x => Live i earlier fun e m => R e m ∧ x.Counts m) (Held i earlier R) := by
  rintro ⟨e, w⟩ ⟨(hi | hnone : e.backend = _ ∨ e.backend = _), h⟩
  · rw [perform_solverInstance, hi]
    exact ⟨hi, h.counts⟩
  · rw [perform_solverInstance, hnone]
    exact ⟨.inr hnone, h⟩

theorem perform_callSolver_of_backend {e : Engine} {w : Surroundings} (c : SolverCall)
    (h : e.backend = .native (some i)) : (callSolver c).perform (e, w) =
      (.ok (w.solver.call i c).1, e, { w with solver := (w.solver.call i c).2 }) := by
  rw [perform_callSolver, h]

theorem succeeds_leads {c : SolverCall}
    (hQ : ∀ e m, R e m → c.Fits m ∧ Q e (m.apply c)) :
    Leads (Live i earlier R) (succeeds c)
      (fun b => Live i earlier fun e m => if b then Q e m else R e m) E := by
  rintro ⟨e, w⟩ ⟨hi, h⟩
  have hx : (succeeds c).perform (e, w) = (.ok (decide ((w.solver.call i c).1 ≠ .error)), e,
      { w with solver := (w.solver.call i c).2 }) := by
    rw [succeeds, perform_bind_of_ok (perform_callSolver_of_backend c hi)]
    rfl
  rw [hx]
  refine ⟨hi, h.call (fun hr m hm => ?_) fun hr _ m hm => ?_⟩
  · simp only [decide_eq_true hr, if_true]
    exact hQ e m hm
  · simp only [hr, ne_eq, not_true_eq_false, decide_false, Bool.false_eq_true, if_false]
    exact hm

/-- A deletion that fails is not followed any further. -/
theorem deletion_leads {c : SolverCall} (hc : c.isDeletion = true)
    (hQ : ∀ e m, R e m → c.Fits m ∧ Q e (m.apply c)) :
    Leads (Live i earlier R) (callSolver c) (fun _ => Live i earlier Q) E := by
  rintro ⟨e, w⟩ ⟨hi, h⟩
  rw [perform_callSolver_of_backend c hi]
  refine ⟨hi, h.call (fun _ m hm => hQ e m hm) fun _ hnot => ?_⟩
  cases hc.symm.trans hnot

/-! ## Additions

Columns and rows are added in the same way, which `put` stands for. -/

section Additions

variable {α : Type} (put : NativeModel → List α → NativeModel)

/-- What a description leads to: all that was added is as it should be, or something is there that
can be taken back. -/
def Described (R : Engine → NativeModel → Prop) (full : List α) (described : Bool) (e : Engine)
    (n : NativeModel) : Prop :=
  ∃ m, R e m ∧ if described then n = put m full else ∃ as, as.length = full.length ∧ n = put m as

/-- Names are passed on one after the other; each one changes what was added at its position. -/
theorem passNames_leads {β : Type} (call : Int → String → SolverCall) {first : Nat}
    (bare full : β → α) (name : β → Option String)
    (hfits : ∀ p s m, (call p s).Fits m) (hnone : ∀ x, name x = none → full x = bare x)
    (hname : ∀ e m x s before after, R e m → name x = some s →
      (put m (before ++ bare x :: after)).apply (call (first + before.length : Nat) s) =
        put m (before ++ full x :: after))
    (before : List α) (xs : List β) :
    Leads (Live i earlier fun e n => ∃ m, R e m ∧ n = put m (before ++ xs.map bare))
      (passNames call (first + before.length : Nat) (xs.map fun x => .ofName (name x)))
      (fun b => Live i earlier (Described put R (before ++ xs.map full) b)) E := by
  -- the induction is on what is still to be named; `before` has its names already
  induction xs generalizing before with
  | nil =>
    refine Leads.pure fun s hs => ⟨hs.1, hs.2.mono ?_⟩
    rintro n ⟨m, hm, rfl⟩
    exact ⟨m, hm, rfl⟩
  | cons x rest ih =>
    have hposition : ((first + before.length : Nat) : Int) + 1 =
        ((first + (before ++ [full x]).length : Nat) : Int) := by
      rw [List.length_append, List.length_singleton]
      omega
    have hrest := ih (before ++ [full x])
    rw [← hposition, List.append_assoc, List.append_assoc] at hrest
    rw [List.map_cons, List.map_cons, List.map_cons]
    cases hx : name x with
    | none =>
      rw [← hnone x hx]
      exact hrest
    | some s =>
      refine Leads.get_bind fun t ht => ?_
      have hcall (e : Engine) (n : NativeModel) :
          (∃ m, R e m ∧ n = put m (before ++ bare x :: rest.map bare)) →
          (call (first + before.length : Nat) s).Fits n ∧
            ∃ m, R e m ∧ n.apply (call (first + before.length : Nat) s) =
              put m (before ++ full x :: rest.map bare) := by
        rintro ⟨m, hm, rfl⟩
        exact ⟨hfits _ _ _, m, hm, hname e m x s before _ hm hx⟩
      have ht' : ∀ u, u = t → Live i earlier (fun e n => ∃ m, R e m ∧
          n = put m (before ++ bare x :: rest.map bare)) u := fun u hu => hu ▸ ht
      refine Leads.bind ((succeeds_leads (c := call (first + before.length : Nat) s)
        (Q := fun e n => ∃ m, R e m ∧ n = put m (before ++ full x :: rest.map bare)) hcall).mono ht'
          (fun _ _ h => h) fun _ h => h) fun b => ?_
      cases b
      · refine Leads.pure fun s hs => ⟨hs.1, hs.2.mono ?_⟩
        rintro n ⟨m, hm, rfl⟩
        exact ⟨m, hm, _, by simp, rfl⟩
      · exact hrest

/-- An addition with its description goes through as a whole, or leaves the model as it was. -/
theorem addAndDescribe_leads (bare full : List α) {addition undo : SolverCall}
    {description : Acting Bool}
    (hadd : ∀ e m, R e m → addition.Fits m ∧ m.apply addition = put m bare)
    (hundo : ∀ e m as, R e m → as.length = full.length →
      undo.Fits (put m as) ∧ (put m as).apply undo = m) (hdeletion : undo.isDeletion = true)
    (hdescription : Leads (Live i earlier fun e n => ∃ m, R e m ∧ n = put m bare) description
      (fun b => Live i earlier (Described put R full b)) E) :
    Leads (Live i earlier R) (addAndDescribe addition undo description)
      (fun added => Live i earlier fun e n =>
        if added then ∃ m, R e m ∧ n = put m full else R e n) E := by
  have hadded (e : Engine) (m : NativeModel) (hm : R e m) : addition.Fits m ∧
      ∃ n, R e n ∧ m.apply addition = put n bare := ⟨(hadd e m hm).1, m, hm, (hadd e m hm).2⟩
  refine (succeeds_leads (Q := fun e n => ∃ m, R e m ∧ n = put m bare) hadded).bind fun b => ?_
  cases b
  · exact Leads.pure fun _ hs => hs
  · refine hdescription.bind fun described => ?_
    cases described
    -- whatever was described of the addition so far, taking it back needs only its length
    · have hdeleted (e : Engine) (n : NativeModel) (hn : Described put R full false e n) :
          undo.Fits n ∧ R e (n.apply undo) := by
        obtain ⟨m, hm, as, has, rfl⟩ := hn
        obtain ⟨hfits, hrestored⟩ := hundo e m as hm has
        exact ⟨hfits, hrestored.symm ▸ hm⟩
      exact (deletion_leads hdeletion hdeleted).bind fun _ => Leads.pure fun _ hs => hs
    · exact Leads.pure fun _ hs => hs

/-- The counts that were read before an addition are not needed after it. -/
theorem added_held (full : List α) {x : SolverInstance} {action : Acting Bool}
    (h : Leads (Live i earlier fun e m => R e m ∧ x.Counts m) action
      (fun added => Live i earlier fun e n =>
        if added then ∃ m, (R e m ∧ x.Counts m) ∧ n = put m full else R e n ∧ x.Counts n) E) :
    Leads (Live i earlier fun e m => R e m ∧ x.Counts m) action
      (fun added => Held i earlier fun e n =>
        if added then ∃ m, R e m ∧ n = put m full else R e n) E := by
  refine h.mono (fun _ hs => hs) (fun added s hs => hs.held.mono fun n hn => ?_) fun _ hs => hs
  cases added
  · exact hn.1
  · obtain ⟨m, hm, rfl⟩ := hn
    exact ⟨m, hm.1, rfl⟩

end Additions

end Engine

end Milp

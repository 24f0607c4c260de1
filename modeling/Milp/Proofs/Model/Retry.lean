import Milp.Proofs.Model.Store
set_option autoImplicit false

/-! # Batches and retries

An update that succeeds leaves nothing queued (`update_leads`). After it the tables of a model and
what its engine stores are determined by the entities that were admitted, so that it makes no
difference in which portions they were committed, and how often that had failed before. -/

namespace Milp.Model

open Milp.Action

/-! ## Emptying the queues -/

theorem indexed_steady : Steady (fun _ _ => True) fun s => s.1.Indexed :=
  fun hc h => hc.indexed h

/-- A queue of variables stays empty while nothing is queued. -/
theorem noPendingVars_steady :
    Steady (fun _ _ => True) fun s => s.1.Indexed ∧ s.1.pendingVars = [] := by
  rintro s t hc ⟨h, hs⟩
  refine ⟨hc.indexed h, ?_⟩
  rcases hc.entities with ht | ⟨e, hm, ht⟩ | ⟨e, hm, ht⟩
  · rw [ht]
    exact hs
  · rw [ht, (h.of_engine e).commitVars_eq hm]
  · rw [ht, (h.of_engine e).commitConstraints_eq hm]
    exact hs

/-- Neither queue is refilled by an update. -/
theorem nothingPending_steady : Steady (fun _ _ => True) fun s =>
    (s.1.Indexed ∧ s.1.pendingVars = []) ∧ s.1.pendingConstraints = [] := by
  rintro s t hc ⟨h, hs⟩
  refine ⟨noPendingVars_steady hc h, ?_⟩
  rcases hc.entities with ht | ⟨e, hm, ht⟩ | ⟨e, hm, ht⟩
  · rw [ht]
    exact hs
  · rw [ht, (h.1.of_engine e).commitVars_eq hm]
    exact hs
  · rw [ht, (h.1.of_engine e).commitConstraints_eq hm]

/-- An update that succeeds leaves nothing queued. -/
theorem update_leads : Leads (fun s => s.1.Indexed) update
    (fun _ t => t.1.pendingVars = [] ∧ t.1.pendingConstraints = []) fun _ => True := by
  have hany {α : Type} {P E : Model × Surroundings → Prop} {R : α → Model × Surroundings → Prop}
      {x : Acting α} (hx : Leads P x R E) : Leads P x R fun _ => True :=
    hx.mono (fun _ h => h) (fun _ _ h => h) fun _ _ => trivial
  have hvars := flushVars_leads (Steady.abiding indexed_steady) (Steady.abiding noPendingVars_steady) (fun _ h hs => ⟨h, hs⟩)
    fun _ _ _ h hm hx hr => ⟨indexed_steady (.commitVars hm hx hr) h, rfl⟩
  have hconstraints := flushConstraints_leads (Steady.abiding noPendingVars_steady)
    (Steady.abiding nothingPending_steady)
    (fun _ h hs => ⟨h, hs⟩)
    fun _ _ _ h hm hx hr => ⟨noPendingVars_steady (.commitConstraints hm hx hr) h, rfl⟩
  refine (hany (Leads.of_maintains checkAlive_maintains)).bind fun _ => ?_
  refine (hany hvars).bind fun _ => (hany hconstraints).bind fun _ => ?_
  -- the last call may fail, but nothing is queued by it
  have hengine := callEngine_maintains (Steady.abiding nothingPending_steady) "update_model"
    fun _ hI => Engine.updateModel_maintains hI
  exact (Leads.of_maintains hengine).mono (fun _ h => h) (fun _ _ h => ⟨h.1.2, h.2⟩)
    fun _ _ => trivial

/-! ## Two histories -/

namespace History

/-- After an update that succeeds nothing but the admitted entities matters. -/
theorem committed_of_update {h : History} (hh : h.StoredInOrder) {m : Model} {w : Surroundings}
    (hu : update.perform (h.model, h.surroundings) = (.ok (), m, w)) :
    m.Indexed ∧ m.Stored ∧ m.vars = h.vars ∧ m.constraints = h.constraints := by
  have hpending := update_leads.of_ok hh.inOrder.indexed hu
  -- seen as one more move, the update keeps everything in order
  have hafter : (h.next (.operate 0 .update)) = { h with model := m, surroundings := w } := by
    have hrun : (Move.operate 0 .update).run.perform (h.model, h.surroundings) =
        (.ok .nothing, m, w) := by
      show (void update).perform (h.model, h.surroundings) = _
      rw [void, perform_bind_of_ok hu]
      rfl
    rw [next, hrun]
    rfl
  have hsteps : Steps (fun _ _ => True) h (h.next (.operate 0 .update)) :=
    steps_next h trivial
  have hm := hsteps.maintains storedInOrder_step hh
  rw [hafter] at hm
  have hvars := hm.inOrder.vars
  have hcs := hm.inOrder.constraints
  refine ⟨hm.inOrder.indexed, hm.stored, ?_, ?_⟩
  · rw [← hvars]
    exact (hpending.1 ▸ List.append_nil m.vars).symm
  · rw [← hcs]
    exact (hpending.2 ▸ List.append_nil m.constraints).symm

/-- Two histories that admit the same variables and the same constraints, each in the same order,
agree after an update that succeeds in both: their tables are equal, and so is what their engines
store. It does not matter how the admissions are interleaved, in which portions they were committed,
and what has failed on the way. -/
theorem run_update_eq {env₁ env₂ : Environment} {settings₁ settings₂ : SettingsStore}
    {place₁ place₂ : Nat} {name₁ name₂ : Value} {v₁ v₂ w₁ w₂ : Surroundings} {m₁ m₂ : Model}
    (h₁ : (env₁.newModel settings₁ place₁ name₁).perform v₁ = (.ok m₁, w₁))
    (h₂ : (env₂.newModel settings₂ place₂ name₂).perform v₂ = (.ok m₂, w₂))
    (moves₁ moves₂ : List Move) :
    let s₁ := run { model := m₁, surroundings := w₁ } moves₁
    let s₂ := run { model := m₂, surroundings := w₂ } moves₂
    s₁.vars = s₂.vars → s₁.constraints = s₂.constraints →
    ∀ n₁ u₁ n₂ u₂, update.perform (s₁.model, s₁.surroundings) = (.ok (), n₁, u₁) →
      update.perform (s₂.model, s₂.surroundings) = (.ok (), n₂, u₂) →
      n₁.varIndices = n₂.varIndices ∧ n₁.constraintIndices = n₂.constraintIndices ∧
        n₁.varsByName = n₂.varsByName ∧ n₁.engine.columns = n₂.engine.columns ∧
        n₁.engine.rows = n₂.engine.rows := by
  intro s₁ s₂ hvars hcs n₁ u₁ n₂ u₂ hu₁ hu₂
  obtain ⟨hi₁, hs₁, hv₁, hc₁⟩ := committed_of_update (storedInOrder_run h₁ moves₁) hu₁
  obtain ⟨hi₂, hs₂, hv₂, hc₂⟩ := committed_of_update (storedInOrder_run h₂ moves₂) hu₂
  have hv : n₁.vars = n₂.vars := hv₁.trans (hvars.trans hv₂.symm)
  have hc : n₁.constraints = n₂.constraints := hc₁.trans (hcs.trans hc₂.symm)
  have hindices : n₁.varIndices = n₂.varIndices := by rw [hi₁.varIndices, hi₂.varIndices, hv]
  refine ⟨hindices, ?_, ?_, ?_, ?_⟩
  · rw [hi₁.constraintIndices, hi₂.constraintIndices, hc]
  · rw [hi₁.varsByName, hi₂.varsByName, hv]
  · exact Except.ok.inj (hs₁.columns.symm.trans ((congrArg _ hv).trans hs₂.columns))
  -- the rows of both are made with the same indices
  · have hrows : n₂.constraints.mapM n₂.row = .ok n₁.engine.rows := by
      refine mapM_row_of_indices (fun v i hvi => ?_) (hc ▸ hs₁.rows)
      rw [varIndex?, ← hindices]
      exact hvi
    exact Except.ok.inj (hrows.symm.trans hs₂.rows)

/-- The same entities, queued before anything is committed. -/
def queueThree : List Move :=
  [.operate 0 (.addConstraint (.constraint atMostNine)), .operate 0 (.addVar (.var twoToFive)),
    .operate 0 (.addVar (.var belowZero))]

/-- Two variables and a constraint come to the same tables, columns and rows one by one, with an
update on the way that fails, and in one batch. -/
theorem run_update_eq_failing : ∃ m w, Environment.firstModelOn "fail" = (.ok m, w) ∧
    let s₁ := run { model := m, surroundings := w } failedUpdate
    let s₂ := run { model := m, surroundings := w } queueThree
    (s₁.model.vars = [twoToFive] ∧ s₂.model.vars = []) ∧
      ∃ n₁ u₁ n₂ u₂, update.perform (s₁.model, s₁.surroundings) = (.ok (), n₁, u₁) ∧
        update.perform (s₂.model, s₂.surroundings) = (.ok (), n₂, u₂) ∧
        n₁.varIndices = n₂.varIndices ∧ n₁.constraintIndices = n₂.constraintIndices ∧
        n₁.varsByName = n₂.varsByName ∧ n₁.engine.columns = n₂.engine.columns ∧
        n₁.engine.rows = n₂.engine.rows := by
  let updated (h : History) := update.perform (h.model, h.surroundings)
  obtain ⟨m, w, h, hp⟩ := Environment.exists_of_made (r := Environment.firstModelOn "fail")
    (p := fun m w =>
      let s₁ := run { model := m, surroundings := w } failedUpdate
      let s₂ := run { model := m, surroundings := w } queueThree
      (s₁.model.vars = [twoToFive] ∧ s₂.model.vars = []) ∧ s₁.vars = s₂.vars ∧
        s₁.constraints = s₂.constraints ∧ (updated s₁).1.isOk = true ∧
        (updated s₂).1.isOk = true) (by decide +kernel)
  obtain ⟨hcommitted, hvars, hconstraints, hu₁, hu₂⟩ := of_decide_eq_true hp
  obtain ⟨⟨⟩, ⟨n₁, u₁⟩, hn₁⟩ := exists_ok_of_isOk hu₁
  obtain ⟨⟨⟩, ⟨n₂, u₂⟩, hn₂⟩ := exists_ok_of_isOk hu₂
  exact ⟨m, w, h, hcommitted, n₁, u₁, n₂, u₂, hn₁, hn₂,
    run_update_eq h h failedUpdate queueThree hvars hconstraints n₁ u₁ n₂ u₂ hn₁ hn₂⟩

end History

end Milp.Model

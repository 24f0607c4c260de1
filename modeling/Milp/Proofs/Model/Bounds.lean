import Milp.Proofs.Domain.Order
import Milp.Proofs.Model.Store
set_option autoImplicit false

/-! # Bounds of committed columns

The columns of a model's engine have the bounds of the committed variables, rounded to doubles. So
they are in order wherever a variable of a default domain was asked for with numbers
(`History.run_bounds_ordered`). A continuous variable keeps a bound that is not a number, and its
column has no domain at all. -/

namespace Milp.Model.History

open Milp.Model

/-- A variable of a default domain has bounds in order, unless it is continuous and was asked for with
a bound that is not a number. Whatever has happened to a new model, each column of its engine is that
of a committed variable, and its bounds are in order in just the same case. -/
theorem run_bounds_ordered {env : Environment} {settings : SettingsStore} {place : Nat}
    {name : Value} {w w' : Surroundings} {m : Model}
    (h : (env.newModel settings place name).perform w = (.ok m, w')) (moves : List Move) :
    (∀ kind lower upper v, (∀ x ∈ lower, x.IsPlain) → (∀ x ∈ upper, x.IsPlain) →
      Var.MadeFor kind lower upper v →
        (v.lower.le v.upper = .ok true ↔ ¬Var.AsksForNan kind lower upper)) ∧
    let s := (run { model := m, surroundings := w' } moves).model
    ∀ c ∈ s.engine.columns, ∃ v ∈ s.vars, v.column = .ok c ∧
      ∀ kind lower upper, (∀ x ∈ lower, x.IsPlain) → (∀ x ∈ upper, x.IsPlain) →
        Var.MadeFor kind lower upper v →
          (c.lower.le c.upper = true ↔ ¬Var.AsksForNan kind lower upper) := by
  refine ⟨fun kind lower upper v hlower hupper hv => (hv.bounded hlower hupper).le_iff, ?_⟩
  intro s c hc
  obtain ⟨v, hv, hcolumn⟩ := exists_of_mapM (storedInOrder_run h moves).stored.columns hc
  obtain ⟨-, hl, hu, -⟩ := column_eq_ok hcolumn
  refine ⟨v, hv, hcolumn, fun kind lower upper hlower hupper hmade => ?_⟩
  exact (hmade.bounded hlower hupper).le_toDouble_iff hl hu

/-- A variable that is asked for is added and committed. -/
def commitNew (r : Var.Request) : List Move := [.operate 0 (.newVar 0 r), .operate 0 .update]

/-- An integer variable between 1 and 2 is committed with bounds in order. -/
theorem run_bounds_ordered_integer : ∃ m w, Environment.firstModel = (.ok m, w) ∧
    let s := (run { model := m, surroundings := w }
      (commitNew (.ofBounds .integer (some (.int 1)) (some (.int 2))))).model
    ∃ v ∈ s.vars, v.lower.le v.upper = .ok true ∧
      ∃ c ∈ s.engine.columns, c.lower.le c.upper = true := by
  obtain ⟨made, hmade, -⟩ := exists_ok_of_any (p := fun _ => true)
    (x := Var.ofValues 0 (.ofBounds .integer (some (.int 1)) (some (.int 2)))) (by decide +kernel)
  obtain ⟨m, w, h, hp⟩ := Environment.exists_firstModel (p := fun m w =>
    let s := (run { model := m, surroundings := w }
      (commitNew (.ofBounds .integer (some (.int 1)) (some (.int 2))))).model
    s.vars.map some =
        [(Var.ofValues 0 (.ofBounds .integer (some (.int 1)) (some (.int 2)))).toOption] ∧
      s.engine.columns ≠ []) (by decide +kernel)
  obtain ⟨hvars, hcolumns⟩ := of_decide_eq_true hp
  rw [hmade] at hvars
  have hvars : _ = [made] := List.map_injective_iff.2 (Option.some_injective _) hvars
  have hplain (n : Int) : ∀ x ∈ some (Number.int n), x.IsPlain := by
    rintro _ ⟨⟩
    exact .inl ⟨n, rfl⟩
  have hmadeFor : Var.MadeFor .integer (some (.int 1)) (some (.int 2)) made :=
    ⟨0, _, rfl, rfl, rfl, hmade⟩
  have hnumber : ¬Var.AsksForNan .integer (some (.int 1)) (some (.int 2)) :=
    fun hasks => VarKind.noConfusion hasks.1
  obtain ⟨hbounds, hcommitted⟩ := run_bounds_ordered h
    (commitNew (.ofBounds .integer (some (.int 1)) (some (.int 2))))
  obtain ⟨c, hc⟩ := List.exists_mem_of_ne_nil _ hcolumns
  obtain ⟨v, hv, -, hordered⟩ := hcommitted c hc
  obtain rfl : v = made := by
    rw [hvars] at hv
    exact List.mem_singleton.1 hv
  exact ⟨m, w, h, v, hv, (hbounds _ _ _ _ (hplain 1) (hplain 2) hmadeFor).2 hnumber, c, hc,
    (hordered _ _ _ (hplain 1) (hplain 2) hmadeFor).2 hnumber⟩

/-- A continuous variable is made with a lower bound that is not a number, and committed with it. -/
theorem nan_bound_committed : ∃ m w, Environment.firstModel = (.ok m, w) ∧
    let request := Var.Request.ofBounds .continuous (some (.float .nan)) none
    let s := (run { model := m, surroundings := w } (commitNew request)).model
    (∃ v, Var.ofValues 0 request = .ok v ∧ v ∈ s.vars ∧ v.lower.le v.upper = .ok false) ∧
      ∃ c ∈ s.engine.columns, c.lower.le c.upper = false := by
  obtain ⟨made, hmade, hbounds⟩ := exists_ok_of_any
    (x := Var.ofValues 0 (.ofBounds .continuous (some (.float .nan)) none))
    (p := fun v => v.lower = .float .nan ∧ v.upper = .float infinity) (by decide +kernel)
  obtain ⟨hlower, hupper⟩ := of_decide_eq_true hbounds
  obtain ⟨m, w, h, hp⟩ := Environment.exists_firstModel (p := fun m w =>
    let s := (run { model := m, surroundings := w }
      (commitNew (.ofBounds .continuous (some (.float .nan)) none))).model
    some ((Var.ofValues 0 (.ofBounds .continuous (some (.float .nan)) none)).toOption) =
        s.vars.head?.map some ∧
      ∃ c ∈ s.engine.columns, c.lower.le c.upper = false) (by decide +kernel)
  obtain ⟨hvars, hcolumns⟩ := of_decide_eq_true hp
  refine ⟨m, w, h, ⟨made, hmade, ?_, ?_⟩, hcolumns⟩
  · rw [hmade] at hvars
    obtain ⟨v, hv, he⟩ := Option.map_eq_some_iff.1 hvars.symm
    exact List.mem_of_head? (Option.some.inj he ▸ hv)
  · rw [hlower, hupper, Number.le_float, Double.le_eq_any]
    rfl

end Milp.Model.History

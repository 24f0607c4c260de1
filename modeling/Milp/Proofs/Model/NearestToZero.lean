import Milp.Proofs.Engine.NearestToZero
import Milp.Proofs.Model.Bounds
import Milp.Proofs.Model.Ended
import Milp.Proofs.Model.Freshness
set_option autoImplicit false

/-! # Models that are solved near zero

Neither an update nor solving changes what stands behind the engine of a model that is in use. So where
the engine solves by staying near zero, a model that has been solved tells the state of an optimal
solution, and for each committed variable the number between the bounds of its column that is nearest
to zero (`History.run_stays_near_zero`). The bounds are finite and in order because the variable could
be made, and whole if it is to be integral, so the number is one of its domain. -/

namespace Milp.Model

open Milp.Action

variable {Elsewhere : Surroundings → Surroundings → Prop} {B : Backend → Prop}

/-! ## What stands behind the engine -/

/-- A model is in use, and what stands behind its engine is one of some things. -/
def InUse (B : Backend → Prop) (s : Model × Surroundings) : Prop :=
  s.1.ended = false ∧ B s.1.engine.backend

theorem inUse_abiding (hB : Backend.InMemory B) : Abiding Elsewhere (InUse B) := by
  intro s t hc hending hs
  have hpatient : Engine.Patient (Engine.HasBackend B) := Engine.HasBackend.patient hB
  have hended : t.1.ended = false := (congrArg Prod.fst hending).trans hs.1
  refine ⟨hended, ?_⟩
  cases hc with
  | aside ha => exact hpatient ha (congrArg Prod.snd hending) hs.2
  | message => exact hs.2
  | ending => exact hs.2
  | elsewhere => exact hs.2
  | direction m w d =>
    exact Engine.setDirection_maintains hpatient (fun _ _ _ h => h) (fun _ _ _ h => h) _ (m.engine, w)
      hs.2
  | @refuseVars m w x hx =>
    exact varsCall_maintains hpatient (fun _ _ _ h => h) (fun _ _ _ h => h) hx (m.engine, w) hs.2
  | @refuseConstraints m w x hx =>
    exact constraintsCall_maintains hpatient (fun _ _ _ h => h) (fun _ _ _ h => h) hx (m.engine, w)
      hs.2
  | @commitVars m w x hm hx =>
    show B (commitVars _).engine.backend
    rw [commitVars_engine]
    exact varsCall_maintains hpatient (fun _ _ _ h => h) (fun _ _ _ h => h) hx (m.engine, w) hs.2
  | @commitConstraints m w x hm hx =>
    show B (commitConstraints _).engine.backend
    rw [commitConstraints_engine]
    exact constraintsCall_maintains hpatient (fun _ _ _ h => h) (fun _ _ _ h => h) hx (m.engine, w)
      hs.2

theorem inUse_solvable : Solvable (InUse B) := fun _ h => h

/-! ## Solving -/

variable {s t : Model × Surroundings}

theorem optimize_leads : Leads (InUse Backend.StaysNearZero) optimize
    (fun _ t => Engine.SolvedNearZero (t.1.engine, t.2)) fun _ => True := by
  have hP : Abiding (fun _ _ => True) (InUse Backend.StaysNearZero) :=
    inUse_abiding Backend.staysNearZero_inMemory
  have hkeeps {α : Type} {x : Acting α} (hx : Maintains (InUse Backend.StaysNearZero) x) :
      Leads (InUse Backend.StaysNearZero) x (fun _ => InUse Backend.StaysNearZero) fun _ => True :=
    (Leads.of_maintains hx).mono (fun _ h => h) (fun _ _ h => h) fun _ _ => trivial
  refine (hkeeps (update_maintains hP)).bind fun _ => (hkeeps model_maintains).bind fun _ =>
    (hkeeps (log_maintains hP _ _)).bind fun _ => ?_
  rintro ⟨m, w⟩ hs
  exact (callEngine_leads Engine.optimize_nearest (fun _ _ _ h => h) hs.2 "optimize").mono
    (fun _ h => h) (fun _ _ h => h) (fun _ _ => trivial) (m, w) rfl

/-- A model that was solved is in use. -/
theorem not_ended_of_optimize (h : optimize.perform s = (.ok (), t)) : s.1.ended = false := by
  cases hs : s.1.ended with
  | false => rfl
  | true =>
    have hrefused : optimize.perform s = (.error (.ended s.1.name), s) :=
      perform_bind_of_error (update_of_ended (m := s.1) (w := s.2) hs)
    cases hrefused.symm.trans h

theorem inUse_of_optimize (hB : Backend.InMemory B) (hs : B s.1.engine.backend)
    (h : optimize.perform s = (.ok (), t)) : InUse B t := by
  have hP : Abiding (fun _ _ => True) (InUse B) := inUse_abiding hB
  have ht := optimize_maintains hP inUse_solvable s ⟨not_ended_of_optimize h, hs⟩
  rwa [h] at ht

/-! ## Reading -/

section Reading

variable {m : Model} {w : Surroundings}

theorem perform_value {v : Var} {i : Nat} {c : Column} {values : List Double} {x : Double}
    (hm : m.ended = false) (h : m.engine.injected? "get_var_attr" = none)
    (hi : m.varIndex? v = some i) (hc : m.engine.columns[i]? = some c)
    (hvalues : m.engine.solution.values = some values) (hx : values[i]? = some x) :
    (value (.var v)).perform (m, w) = (.ok (.float x), m, w) := by
  rw [value, getVarAttribute, perform_bind_of_ok (perform_checkAlive hm),
    perform_bind_of_ok (perform_committedVar hi)]
  exact perform_askEngine (Engine.perform_getVarAttribute_value h hc hvalues hx)

theorem perform_objectiveValue {x : Number} (hm : m.ended = false)
    (h : m.engine.injected? "get_dbl_attr" = none) (hx : m.engine.solution.objective = some x) :
    objectiveValue.perform (m, w) = (.ok (.number x), m, w) := by
  rw [objectiveValue, perform_bind_of_ok (perform_checkAlive hm)]
  exact perform_askEngine (Engine.perform_getObjective h hx)

end Reading

/-- A sum to which the objectives of variables are added, each times the value of its variable. -/
def addObjectives (sum : Double) : List (Var × Double) → Double
  | [] => sum
  | (v, x) :: rest => addObjectives (sum + v.objective * x) rest

/-- The objective value of variables with values. Without variables it is the whole number zero. -/
def objectiveOf (vars : List Var) (values : List Double) : Number :=
  match vars with
  | [] => .int 0
  | _ => .float (addObjectives Double.zero (vars.zip values))

theorem foldl_products (sum : Double) (vars : List Var) (values : List Double) :
    (List.zipWith (· * ·) (vars.map (·.objective)) values).foldl (· + ·) sum =
      addObjectives sum (vars.zip values) := by
  induction vars generalizing sum values with
  | nil => rfl
  | cons v rest ih =>
    cases values with
    | nil => rfl
    | cons x others => exact ih (sum + v.objective * x) others

/-- A solution weighs the values of all variables with their objectives. -/
theorem weightedSum_eq {vars : List Var} {values : List Double}
    (h : values.length = vars.length) :
    Engine.weightedSum (vars.map (·.objective)) values = objectiveOf vars values := by
  cases vars with
  | nil => rfl
  | cons v rest =>
    cases values with
    | nil => cases h
    | cons x others => exact congrArg Number.float (foldl_products _ (v :: rest) (x :: others))

/-- What a model tells that has been solved near zero, as far as its engine is not told to fail. The
values of the committed variables are in the order of their indices. -/
structure ToldNearZero (values : List Double) (s : Model × Surroundings) : Prop where
  status (h : s.1.engine.injected? "get_int_attr" = none) :
    status.perform s = (.ok (.int ModelState.optimal), s)
  objective (h : s.1.engine.injected? "get_dbl_attr" = none) :
    objectiveValue.perform s = (.ok (.number (objectiveOf s.1.vars values)), s)
  length_eq : values.length = s.1.vars.length
  value (h : s.1.engine.injected? "get_var_attr" = none) {i : Nat} {v : Var} {x : Double}
    (hv : s.1.vars[i]? = some v) (hx : values[i]? = some x) :
    (value (.var v)).perform s = (.ok (.float x), s)
  /-- For a variable of a default domain that was asked for with numbers, the value is the number
  between the bounds that are told for it which is nearest to zero, and whole if it is to be integral. -/
  nearest (h : s.1.engine.injected? "get_var_attr" = none) {i : Nat} {v : Var} {x : Double}
    (hv : s.1.vars[i]? = some v) (hx : values[i]? = some x) {kind : VarKind}
    {lower upper : Option Number} (hlower : ∀ y ∈ lower, y.IsBound) (hupper : ∀ y ∈ upper, y.IsBound)
    (hmade : v.MadeFor kind lower upper) :
    ∃ l u,
      (getVarAttribute (.var v) (.text "LB")).perform s = (.ok (.float l), s) ∧
      (getVarAttribute (.var v) (.text "UB")).perform s = (.ok (.float u), s) ∧
      NearestToZero l u x ∧ (kind ≠ .continuous → ∃ n : Int, x.value = n)

/-- The values that the solution near zero has for columns. -/
def valuesNearZero (columns : List Column) : List Double :=
  columns.map fun c => Engine.nearestToZero c.lower c.upper

/-- The bounds of a column, which belongs to a variable that was asked for with numbers, let a number
nearest to zero through. -/
theorem nearest_of_column {v : Var} {c : Column} (hc : v.column = .ok c) {kind : VarKind}
    {lower upper : Option Number} (hlower : ∀ y ∈ lower, y.IsBound) (hupper : ∀ y ∈ upper, y.IsBound)
    (hmade : v.MadeFor kind lower upper) :
    NearestToZero c.lower c.upper (Engine.nearestToZero c.lower c.upper) ∧
      (kind ≠ .continuous → ∃ n : Int, (Engine.nearestToZero c.lower c.upper).value = n) := by
  obtain ⟨-, hl, hu, -⟩ := column_eq_ok hc
  have hbounded := hmade.bounded (fun y hy => (hlower y hy).isPlain) fun y hy => (hupper y hy).isPlain
  obtain ⟨a, b, ha, hb, hab, hwhole⟩ :=
    hbounded.points (Var.not_asksForNan hlower hupper) hl hu
  refine ⟨Engine.nearestToZero_spec ha hb hab, fun hk => ?_⟩
  obtain ⟨⟨m, rfl⟩, n, rfl⟩ := hwhole hk
  exact Engine.nearestToZero_whole ha hb

theorem Stored.toldNearZero {m : Model} {w : Surroundings} (hm : m.Stored) (hindexed : m.Indexed)
    (halive : m.ended = false) (hsolved : Engine.SolvedNearZero (m.engine, w)) :
    ToldNearZero (valuesNearZero m.engine.columns) (m, w) := by
  obtain ⟨iis, hsolution⟩ := hsolved
  have hsolution : m.engine.solution = Engine.zeroSolution m.engine.columns iis := hsolution
  have hvalues : m.engine.solution.values = some (valuesNearZero m.engine.columns) := by
    rw [hsolution]
    rfl
  have hobjectives : m.engine.columns.map (·.objective) = m.vars.map (·.objective) :=
    (map_eq_map (mapM_eq_ok_iff.1 hm.columns) fun _ _ hc => (column_eq_ok hc).1.symm).symm
  have hlength : (valuesNearZero m.engine.columns).length = m.vars.length := by
    rw [valuesNearZero, List.length_map]
    exact (mapM_eq_ok_iff.1 hm.columns).length_eq.symm
  -- what stands at the place of a variable, and of its value, is its column
  have hcolumn {i : Nat} {v : Var} {x : Double} (hv : m.vars[i]? = some v)
      (hx : (valuesNearZero m.engine.columns)[i]? = some x) : ∃ c, v.column = .ok c ∧
        m.engine.columns[i]? = some c ∧ x = Engine.nearestToZero c.lower c.upper := by
    obtain ⟨c, hc, hi⟩ := getElem?_of_mapM hm.columns hv
    rw [valuesNearZero, List.getElem?_map, hi] at hx
    exact ⟨c, hc, hi, (Option.some.inj hx).symm⟩
  have hindex {i : Nat} {v : Var} (hv : m.vars[i]? = some v) : m.varIndex? v = some i :=
    (hindexed.varIndex_iff v i).2 ⟨v, hv, rfl⟩
  constructor
  · intro h
    rw [perform_status halive h, hsolution]
    rfl
  · intro h
    refine perform_objectiveValue halive h ?_
    rw [hsolution, ← weightedSum_eq hlength, ← hobjectives]
    rfl
  · exact hlength
  · intro h i v x hv hx
    obtain ⟨c, -, hc, -⟩ := hcolumn hv hx
    exact perform_value halive h (hindex hv) hc hvalues hx
  · intro h i v x hv hx kind lower upper hlower hupper hmade
    obtain ⟨c, hc, hi, rfl⟩ := hcolumn hv hx
    refine ⟨c.lower, c.upper, ?_, ?_, nearest_of_column hc hlower hupper hmade⟩
    · exact perform_getVarAttribute (a := .lower) VarAttribute.noConfusion halive h (hindex hv) hi
    · exact perform_getVarAttribute (a := .upper) VarAttribute.noConfusion halive h (hindex hv) hi

namespace History

/-- Whatever has happened to a new model, if its engine stays near zero and the model is solved, the
model tells the state of an optimal solution, and for each committed variable the number between the
bounds of its column that is nearest to zero. Its objective value is the sum of these numbers, each
times the objective of its variable, in the order of the indices. An engine that cannot be told to fail
tells all of this. -/
theorem run_stays_near_zero {env : Environment} {settings : SettingsStore} {place : Nat}
    {name : Value} {w w' : Surroundings} {m : Model}
    (h : (env.newModel settings place name).perform w = (.ok m, w')) (moves : List Move)
    {t : Model × Surroundings}
    (hbackend : (run { model := m, surroundings := w' } moves).model.engine.backend.StaysNearZero)
    (hoptimize : optimize.perform (run { model := m, surroundings := w' } moves).state = (.ok (), t)) :
    (∃ values, ToldNearZero values t) ∧
      ((run { model := m, surroundings := w' } moves).model.engine.backend = .nearestToZero →
        ∀ operation, t.1.engine.injected? operation = none) := by
  have hstate : (run { model := m, surroundings := w' } (moves ++ [.operate 0 .optimize])).state =
      t := by
    rw [run_append]
    show ((run { model := m, surroundings := w' } moves).next (.operate 0 .optimize)).state = t
    rw [next_state, show (Move.operate 0 .optimize).run = void optimize from rfl, perform_void,
      hoptimize]
  have hstored := storedInOrder_run h (moves ++ [.operate 0 .optimize])
  obtain ⟨hm, hindexed⟩ : t.1.Stored ∧ t.1.Indexed := by
    rw [← hstate]
    exact ⟨hstored.stored, hstored.inOrder.indexed⟩
  have halive := inUse_of_optimize Backend.staysNearZero_inMemory hbackend hoptimize
  have hsolved := optimize_leads.of_ok ⟨not_ended_of_optimize hoptimize, hbackend⟩ hoptimize
  refine ⟨⟨_, hm.toldNearZero (w := t.2) hindexed halive.1 hsolved⟩, fun hnearest operation => ?_⟩
  have ht := (inUse_of_optimize Backend.nearestToZero_inMemory hnearest hoptimize).2
  rw [Engine.injected?, ht]

/-- Whether a model tells a double as the value of a variable. -/
def tellsValue (s : Model × Surroundings) (v : Var) (x : Double) : Bool :=
  match ((value (.var v)).perform s).1 with
  | .ok (.float y) => decide (y = x)
  | _ => false

theorem eq_of_tellsValue {s : Model × Surroundings} {v : Var} {x y : Double}
    (h : tellsValue s v x = true) (hy : (value (.var v)).perform s = (.ok (.float y), s)) :
    y = x := by
  rw [tellsValue, hy] at h
  exact of_decide_eq_true h

/-- An integer variable between 2 and 5 gets the value 2, and a continuous one between -4 and -1 the
value -1. With the objectives 3 and -2 they come to 8. -/
theorem run_stays_near_zero_two : ∃ m w t, Environment.firstModelOn "zero" = (.ok m, w) ∧
    optimize.perform (run { model := m, surroundings := w } commitThree).state = (.ok (), t) ∧
    ToldNearZero [2, -1] t ∧ objectiveValue.perform t = (.ok (.number (.float 8)), t) ∧
    ∀ operation, t.1.engine.injected? operation = none := by
  obtain ⟨m, w, h, hp⟩ := Environment.exists_of_made (r := Environment.firstModelOn "zero")
    (p := fun m w =>
      let s := run { model := m, surroundings := w } commitThree
      let t := optimize.perform s.state
      t.1.isOk && (s.model.engine.backend matches .nearestToZero) &&
        (decide (t.2.1.vars = [twoToFive, belowZero]) &&
          (tellsValue t.2 twoToFive 2 && tellsValue t.2 belowZero (-1))))
    (by decide +kernel)
  simp only [Bool.and_eq_true, decide_eq_true_eq] at hp
  obtain ⟨⟨hok, hbackend⟩, hvars, htwo, hbelow⟩ := hp
  have heq {b : Backend} (hb : (b matches .nearestToZero) = true) : b = .nearestToZero := by
    cases b with
    | nearestToZero => rfl
    | _ => cases hb
  have hnearest : (run { model := m, surroundings := w } commitThree).model.engine.backend =
      .nearestToZero := heq hbackend
  obtain ⟨⟨⟩, t, ht⟩ := exists_ok_of_isOk hok
  obtain ⟨⟨values, htold⟩, hheard⟩ := run_stays_near_zero h commitThree
    (hnearest ▸ .nearestToZero) ht
  have hheard := hheard hnearest
  refine ⟨m, w, t, h, ht, ?_⟩
  -- the history is not to be evaluated again
  generalize (run { model := m, surroundings := w } commitThree).state = s at *
  rw [ht] at hvars htwo hbelow
  obtain ⟨x, y, rfl⟩ := List.length_eq_two.1 (htold.length_eq.trans (congrArg List.length hvars))
  have hx := eq_of_tellsValue htwo (htold.value (hheard _) (i := 0) (by rw [hvars]; rfl) rfl)
  have hy := eq_of_tellsValue hbelow (htold.value (hheard _) (i := 1) (by rw [hvars]; rfl) rfl)
  rw [hx, hy] at htold
  have hobjective : objectiveOf t.1.vars [2, -1] = .float 8 := by
    rw [hvars]
    decide +kernel
  exact ⟨htold, hobjective ▸ htold.objective (hheard _), hheard⟩

end History

end Milp.Model

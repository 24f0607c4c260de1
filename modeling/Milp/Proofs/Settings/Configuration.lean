import Milp.Proofs.Settings.Way
import Milp.Proofs.Action
import Mathlib
set_option autoImplicit false

/-! # Configurations

New settings have five known settings below them. A configuration is what has become of them: their
values, and the tables that scripts have made on the way. Whatever assigns a known setting leads
from one configuration to the one with the new value and touches nothing else
(`Configuration.assign_above`, `Configuration.assignDotted_above`); so do the statements of a script
(`Configuration.perform_run`). After any assignments each setting has the last value that it was
given (`KnownSetting.assigned_default`). -/

namespace Milp

open Milp.Action Milp.Settings

/-! ## The known settings -/

/-- A setting that all settings have from the start. -/
inductive KnownSetting where
  | agent
  | logOutput
  | timeLimit
  | mipGap
  | outputLevel
deriving DecidableEq

/-- A known setting and the value that it is given. -/
abbrev Assignment := KnownSetting × Value

namespace KnownSetting

/-- The name of a setting at its node, which is its quick name as well. -/
def key : KnownSetting → String
  | agent => "agent"
  | logOutput => "log_output"
  | timeLimit => "time_limit"
  | mipGap => "mip_gap"
  | outputLevel => "output_level"

/-- The names that lead to a setting. -/
def way : KnownSetting → List String
  | outputLevel => [outputLevel.key]
  | k => ["solver", k.key]

def dotted (k : KnownSetting) : String := ".".intercalate k.way

/-- What a script calls the settings that have a known one. -/
def owner : KnownSetting → Script.Term
  | outputLevel => .name Script.contextName
  | _ => .member (.name Script.contextName) "solver"

def target (k : KnownSetting) : Script.Target := .member k.owner k.key

/-- The value that a setting has from the start. -/
def default : KnownSetting → Value
  | logOutput => .bool false
  | outputLevel => .text "info"
  | _ => .nothing

/-- The value of the last assignment of a setting, or the one from the start if there is none. -/
def lastOf (as : List Assignment) (k : KnownSetting) : Value :=
  ((as.filter (·.1 = k)).getLast?.map Prod.snd).getD k.default

/-- The values of all settings after assignments. -/
def assigned (values : KnownSetting → Value) (as : List Assignment) : KnownSetting → Value :=
  as.foldl (fun values a => Function.update values a.1 a.2) values

theorem assigned_append (values : KnownSetting → Value) (as bs : List Assignment) :
    assigned values (as ++ bs) = assigned (assigned values as) bs := List.foldl_append

/-- Of all assignments of a setting the last one counts. -/
theorem assigned_default (as : List Assignment) : assigned default as = lastOf as := by
  induction as using List.reverseRecOn with
  | nil => rfl
  | append_singleton as a ih =>
    rw [assigned_append, ih]
    funext k
    show Function.update (lastOf as) a.1 a.2 k = _
    rw [lastOf, List.filter_append]
    by_cases h : a.1 = k
    · subst h
      simp
    · rw [Function.update_of_ne (Ne.symm h), List.filter_singleton]
      simp [h, lastOf]

theorem way_eq (k : KnownSetting) : k.way = k.way.dropLast ++ [k.key] := by
  cases k <;> rfl

theorem components_dotted (k : KnownSetting) : SettingsStore.components k.dotted = k.way := by
  cases k <;> decide +kernel

end KnownSetting

/-! ## Configurations -/

/-- What has become of new settings. -/
structure Configuration where
  values : KnownSetting → Value := KnownSetting.default
  /-- The tables that scripts have made, which are nodes as well. -/
  tables : List SettingsNode := []

namespace Configuration

variable {view : View} {s : SettingsStore} {c : Configuration}

/-- The node of the settings for engines. -/
def solverNode (values : KnownSetting → Value) : SettingsNode where
  kind := .solver
  entries := [.agent, .logOutput, .timeLimit, .mipGap].map fun k : KnownSetting =>
    (.text k.key, values k)

/-- The node above that, with the output level. -/
def generalNode (solver : Nat) (values : KnownSetting → Value) : SettingsNode where
  kind := .general
  entries := [(.text "solver", .ref (.settings solver)),
    (.text KnownSetting.outputLevel.key, values .outputLevel)]

/-- New settings as they have become, next to all nodes that were there before. -/
def above (s : SettingsStore) (c : Configuration) : SettingsStore :=
  { s with
    nodes := s.nodes ++ solverNode c.values :: generalNode s.nodes.length c.values :: c.tables }

/-- The place of new settings. -/
def root (s : SettingsStore) : Nat := s.nodes.length + 1

/-- The place of the node that has a setting. -/
def placeOf (s : SettingsStore) : KnownSetting → Nat
  | .outputLevel => root s
  | _ => s.nodes.length

theorem placeOf_of_ne {k : KnownSetting} (hk : k ≠ .outputLevel) :
    placeOf s k = s.nodes.length := by
  cases k with
  | outputLevel => exact absurd rfl hk
  | _ => rfl

def assign (c : Configuration) (as : List Assignment) : Configuration :=
  { c with values := KnownSetting.assigned c.values as }

theorem addDefault_eq (s : SettingsStore) : s.addDefault = (root s, above s {}) := by
  have hnodes : (s.nodes ++ [.newSolver]) ++ [.newGeneral s.nodes.length] =
      s.nodes ++ [solverNode KnownSetting.default,
        generalNode s.nodes.length KnownSetting.default] := List.append_assoc _ _ _
  rw [SettingsStore.addDefault]
  dsimp only [SettingsStore.add]
  rw [hnodes, List.length_append]
  rfl

/-! ### Nodes -/

theorem node?_above_of_some {i : Nat} {n : SettingsNode} (h : s.node? i = some n) :
    (above s c).node? i = some n := by
  have hi : s.nodes[i]? = some n := h
  rw [SettingsStore.node?, above, List.getElem?_append_left (List.getElem?_eq_some_iff.1 hi).1, hi]

theorem node?_above_solver (s : SettingsStore) (c : Configuration) :
    (above s c).node? s.nodes.length = some (solverNode c.values) := by
  rw [SettingsStore.node?, above, List.getElem?_append_right (Nat.le_refl _), Nat.sub_self]
  rfl

theorem node?_above_root (s : SettingsStore) (c : Configuration) :
    (above s c).node? (root s) = some (generalNode s.nodes.length c.values) := by
  rw [SettingsStore.node?, above, root, List.getElem?_append_right (Nat.le_add_right _ 1),
    Nat.add_sub_cancel_left]
  rfl

/-- A setting of a node can be looked up unless its name has a meaning of its own. -/
theorem setting_of_get? (kind : SettingsKind) {n : SettingsNode} {name : String} {v : Value}
    (hkind : n.kind = kind)
    (hfree : (decide (kind = .plain) || decide (name ∈ kind.operations) ||
      name.startsWith "__") = false) (h : n.get? (.text name) = some v) :
    SettingsStore.setting n name = .ok v := by
  subst hkind
  rw [Bool.or_eq_false_iff] at hfree
  rw [SettingsStore.setting, if_neg (Bool.eq_false_iff.1 hfree.1),
    if_neg (Bool.eq_false_iff.1 hfree.2), h]

/-- The node of the settings for engines has four of the known settings. -/
theorem solverNode_known {k : KnownSetting} (hk : k ≠ .outputLevel)
    (values : KnownSetting → Value) :
    SettingsStore.setting (solverNode values) k.key = .ok (values k) ∧
      ∀ v, (solverNode values).set (.text k.key) v =
        solverNode (Function.update values k v) := by
  cases k with
  | outputLevel => exact absurd rfl hk
  | _ =>
    refine ⟨setting_of_get? .solver rfl (by decide +kernel) rfl, fun v => ?_⟩
    simp [solverNode, SettingsNode.set, Value.insert, Value.same, KnownSetting.key]

theorem generalNode_known (solver : Nat) (values : KnownSetting → Value) :
    SettingsStore.setting (generalNode solver values) KnownSetting.outputLevel.key =
        .ok (values .outputLevel) ∧
      ∀ v, (generalNode solver values).set (.text KnownSetting.outputLevel.key) v =
        generalNode solver (Function.update values .outputLevel v) := by
  refine ⟨setting_of_get? .general rfl (by decide +kernel) rfl, fun v => ?_⟩
  simp [generalNode, SettingsNode.set, Value.insert, Value.same, KnownSetting.key]

/-- A known setting is assigned at one node, and nothing else changes. -/
theorem modify_above (s : SettingsStore) (c : Configuration) (k : KnownSetting) (v : Value) :
    (above s c).modify (placeOf s k) (·.set (.text k.key) v) = above s (c.assign [(k, v)]) := by
  have hset {i : Nat} {n : SettingsNode} (h : (above s c).node? i = some n) :
      (above s c).modify i (·.set (.text k.key) v) =
        { s with nodes := (above s c).nodes.set i (n.set (.text k.key) v) } := by
    have hi : (above s c).nodes[i]? = some n := h
    rw [SettingsStore.modify, List.modify_eq_set_getElem?, hi]
    rfl
  by_cases hk : k = .outputLevel
  · subst hk
    rw [placeOf, hset (node?_above_root s c), (generalNode_known _ _).2, above, root,
      List.set_append_right _ _ (Nat.le_add_right _ 1), Nat.add_sub_cancel_left]
    rfl
  · rw [placeOf_of_ne hk, hset (node?_above_solver s c), (solverNode_known hk _).2, above,
      List.set_append_right _ _ (Nat.le_refl _), Nat.sub_self]
    cases k with
    | outputLevel => exact absurd rfl hk
    | _ => rfl

/-! ### Ways -/

theorem child_root_above (view : View) (s : SettingsStore) (c : Configuration) :
    (above s c).child view (.ref (.settings (root s))) "solver" =
      .ok (.ref (.settings s.nodes.length)) := by
  rw [SettingsStore.child, node?_above_root]
  exact setting_of_get? .general rfl (by decide +kernel) rfl

/-- The way to a known setting leads to the node that has it. -/
theorem follow_above (view : View) (s : SettingsStore) (c : Configuration) (k : KnownSetting) :
    (above s c).follow view (.ref (.settings (root s))) k.way.dropLast =
      .ok (.ref (.settings (placeOf s k))) := by
  cases k with
  | outputLevel => rfl
  | _ =>
    show (above s c).child view (.ref (.settings (root s))) "solver" >>= pure = _
    rw [child_root_above]
    rfl

/-- A known setting is found to be what it has been set to. -/
theorem follow_way_above (view : View) (s : SettingsStore) (c : Configuration)
    (k : KnownSetting) :
    (above s c).follow view (.ref (.settings (root s))) k.way = .ok (c.values k) := by
  have hchild : (above s c).child view (.ref (.settings (placeOf s k))) k.key =
      .ok (c.values k) := by
    by_cases hk : k = .outputLevel
    · subst hk
      rw [SettingsStore.child, placeOf, node?_above_root]
      exact (generalNode_known _ _).1
    · rw [SettingsStore.child, placeOf_of_ne hk, node?_above_solver]
      exact (solverNode_known hk _).1
  rw [k.way_eq, SettingsStore.follow, List.foldlM_append, ← SettingsStore.follow, follow_above]
  show (above s c).child view _ k.key >>= pure = _
  rw [hchild]
  rfl

theorem assign_above (view : View) (s : SettingsStore) (c : Configuration) (k : KnownSetting)
    (v : Value) :
    (above s c).assign view (.ref (.settings (placeOf s k))) k.key v =
      .ok (above s (c.assign [(k, v)])) := by
  rw [← modify_above]
  by_cases hk : k = .outputLevel
  · subst hk
    rw [SettingsStore.assign, placeOf, node?_above_root]
    rfl
  · rw [SettingsStore.assign, placeOf_of_ne hk, node?_above_solver]
    rfl

theorem assignDotted_above (view : View) (s : SettingsStore) (c : Configuration) (k : KnownSetting)
    (v : Value) :
    (above s c).assignDotted view (root s) k.dotted v = .ok (above s (c.assign [(k, v)])) := by
  rw [SettingsStore.assignDotted, k.components_dotted, k.way_eq,
    SettingsStore.assignAlong_concat, follow_above]
  exact assign_above view s c k v

end Configuration

/-! ## Values with tables -/

namespace SettingsStore

/-- Nodes may have been added to a store, and nothing else has changed. -/
def Extends (s t : SettingsStore) : Prop := ∃ more, t = { s with nodes := s.nodes ++ more }

theorem Extends.refl (s : SettingsStore) : s.Extends s := ⟨[], by rw [List.append_nil]⟩

theorem Extends.trans {s t u : SettingsStore} (h : s.Extends t) (h' : t.Extends u) :
    s.Extends u := by
  obtain ⟨more, rfl⟩ := h
  obtain ⟨most, rfl⟩ := h'
  exact ⟨more ++ most, by rw [List.append_assoc]⟩

mutual

/-- To keep a value is to add its tables. -/
theorem extends_intern (s : SettingsStore) : (v : Value) → s.Extends (s.intern v).2
  | .table es => (extends_internEntries s es).trans ⟨_, rfl⟩
  | .list xs | .tuple xs | .array _ xs => extends_internAll s xs
  | .cell _ x => extends_intern s x
  | .nothing | .number _ | .text _ | .textItem _ | .bytes _ | .domain .. | .sense _ | .direction _
  | .var _ | .constraint _ | .expr .. | .ref _ | .part .. => .refl s

theorem extends_internAll (s : SettingsStore) : (xs : List Value) → s.Extends (s.internAll xs).2
  | [] => .refl s
  | x :: xs => (extends_intern s x).trans (extends_internAll (s.intern x).2 xs)

theorem extends_internEntries (s : SettingsStore) :
    (es : List (Value × Value)) → s.Extends (s.internEntries es).2
  | [] => .refl s
  | (_, v) :: rest => (extends_intern s v).trans (extends_internEntries (s.intern v).2 rest)

end

end SettingsStore

namespace Configuration

/-- The value that stands for another one after its tables have been added. -/
def keptAs (s : SettingsStore) (c : Configuration) (v : Value) : Value := ((above s c).intern v).1

/-- The configuration after the tables of a value have been added. -/
def keep (s : SettingsStore) (c : Configuration) (v : Value) : Configuration :=
  { c with tables := ((above s c).intern v).2.nodes.drop (s.nodes.length + 2) }

theorem above_keep (s : SettingsStore) (c : Configuration) (v : Value) :
    above s (c.keep s v) = ((above s c).intern v).2 := by
  obtain ⟨more, h⟩ := (above s c).extends_intern v
  have htables : (c.keep s v).tables = c.tables ++ more := by
    rw [keep, h]
    dsimp only
    rw [above, List.append_assoc, List.drop_append]
    simp
  rw [h, above, htables, above]
  dsimp only
  rw [List.append_assoc]
  rfl

/-- A value without tables is kept as it is. -/
theorem keep_of_intern {s : SettingsStore} {c : Configuration} {v : Value}
    (h : (above s c).intern v = (v, above s c)) :
    c.keptAs s v = v ∧ c.keep s v = c := by
  refine ⟨congrArg Prod.fst h, ?_⟩
  rw [keep, h, above]
  dsimp only
  rw [← List.drop_drop, List.drop_left]
  rfl

theorem assign_assign (c : Configuration) (as bs : List Assignment) :
    (c.assign as).assign bs = c.assign (as ++ bs) :=
  congrArg (fun values => { c with values }) (KnownSetting.assigned_append _ as bs).symm

/-! ## Sequences of assignments -/

/-- One thing after the other makes assignments; `R` says what each of them makes of a
configuration. -/
inductive InOrder {α : Type} (R : Configuration → α → List Assignment → Configuration → Prop) :
    Configuration → List α → List Assignment → Configuration → Prop
  | nil (c : Configuration) : InOrder R c [] [] c
  | cons {c d e : Configuration} {x : α} {rest : List α} {as bs : List Assignment}
      (hfirst : R c x as d) (hrest : InOrder R d rest bs e) : InOrder R c (x :: rest) (as ++ bs) e

theorem InOrder.append {α : Type} {c d e : Configuration} {xs ys : List α}
    {as bs : List Assignment} {R : Configuration → α → List Assignment → Configuration → Prop}
    (h : InOrder R c xs as d) (h' : InOrder R d ys bs e) : InOrder R c (xs ++ ys) (as ++ bs) e := by
  induction h with
  | nil => exact h'
  | cons hfirst _ ih =>
    rw [List.append_assoc]
    exact .cons hfirst (ih h')

theorem InOrder.values_eq {α : Type} {c d : Configuration} {xs : List α} {as : List Assignment}
    {R : Configuration → α → List Assignment → Configuration → Prop}
    (hR : ∀ {c d x as}, R c x as d → d.values = KnownSetting.assigned c.values as)
    (h : InOrder R c xs as d) : d.values = KnownSetting.assigned c.values as := by
  induction h with
  | nil => rfl
  | cons hfirst _ ih => rw [ih, hR hfirst, KnownSetting.assigned_append]

/-! ## Scripts -/

/-- What a script works with: the settings as they are, under the one name that it knows. -/
def state (s : SettingsStore) (c : Configuration) : Script.State where
  store := above s c
  names := [(Script.contextName, .ref (.settings (root s)))]

/-- A statement that assigns the value of a term to known settings. -/
inductive StatementAssigns (view : View) (s : SettingsStore) :
    Configuration → Script.Statement → List Assignment → Configuration → Prop
  | assign {c : Configuration} {t : Script.Term} {v : Value} (ks : List KnownSetting)
      (hvalue : t.value view (c.state s) = .ok v) :
      StatementAssigns view s c (.assign (ks.map KnownSetting.target) t)
        (ks.map (·, c.keptAs s v)) ((c.keep s v).assign (ks.map (·, c.keptAs s v)))
  | declare {c : Configuration} {t remark : Script.Term} {v r : Value} (k : KnownSetting)
      (hvalue : t.value view (c.state s) = .ok v)
      (hremark : remark.value view (((c.keep s v).assign [(k, c.keptAs s v)]).state s) = .ok r) :
      StatementAssigns view s c (.declare k.target remark (some t))
        [(k, c.keptAs s v)] ((c.keep s v).assign [(k, c.keptAs s v)])

theorem StatementAssigns.values_eq {view : View} {s : SettingsStore} {c d : Configuration}
    {st : Script.Statement} {as : List Assignment} (h : StatementAssigns view s c st as d) :
    d.values = KnownSetting.assigned c.values as := by
  cases h <;> rfl

theorem owner_value (view : View) (s : SettingsStore) (c : Configuration) (k : KnownSetting) :
    k.owner.value view (c.state s) = .ok (.ref (.settings (placeOf s k))) := by
  have hcontext : (Script.Term.name Script.contextName).value view (c.state s) =
      .ok (.ref (.settings (root s))) := by
    rw [Script.Term.value, Script.State.resolve, state, List.lookup_cons_self]
  cases k with
  | outputLevel => exact hcontext
  | _ =>
    rw [KnownSetting.owner, Script.Term.value, hcontext]
    · show Failure.lift ((above s c).child view (.ref (.settings (root s))) "solver") = _
      rw [child_root_above]
      rfl
    · exact fun h => nomatch h

theorem perform_assignAll (view : View) (s : SettingsStore) (c : Configuration)
    (ks : List KnownSetting) (v : Value) :
    (Script.assignAll view v (ks.map KnownSetting.target)).perform (c.state s) =
      (.ok (), (c.assign (ks.map (·, v))).state s) := by
  induction ks generalizing c with
  | nil => rfl
  | cons k ks ih =>
    have htarget : k.target.assign view v (c.state s) = .ok ((c.assign [(k, v)]).state s) := by
      rw [KnownSetting.target, Script.Target.assign, owner_value]
      show (Failure.lift ((above s c).assign view _ _ v) >>= _) = _
      rw [assign_above]
      rfl
    rw [List.map_cons, Script.assignAll, perform_get_bind, htarget]
    exact ih _

theorem perform_compute {view : View} {s : SettingsStore} {c : Configuration} {t : Script.Term}
    {v : Value} (hvalue : t.value view (c.state s) = .ok v) (ks : List KnownSetting) :
    (Script.compute view (ks.map KnownSetting.target) t).perform (c.state s) =
      (.ok (), ((c.keep s v).assign (ks.map (·, c.keptAs s v))).state s) := by
  rw [Script.compute, perform_get_bind, hvalue, perform_bind_of_ok (perform_ofExcept_ok _ _),
    perform_get_bind]
  dsimp only
  rw [perform_modify_bind]
  have hstate : ({ c.state s with store := ((c.state s).store.intern v).2 } : Script.State) =
      (c.keep s v).state s := by
    rw [state, state, above_keep]
  rw [hstate]
  exact perform_assignAll view s _ ks _

theorem StatementAssigns.perform_run {view : View} {s : SettingsStore} {c d : Configuration}
    {st : Script.Statement} {as : List Assignment} (h : StatementAssigns view s c st as d) :
    (st.run view).perform (c.state s) = (.ok (), d.state s) := by
  cases h with
  | assign ks hvalue => exact perform_compute hvalue ks
  | declare k hvalue hremark =>
    have hcompute : (Script.compute view [k.target] _).perform (c.state s) = _ :=
      perform_compute hvalue [k]
    rw [Script.Statement.run]
    dsimp only
    rw [perform_bind_of_ok hcompute, perform_get_bind, List.map_singleton, hremark]
    rfl

theorem perform_run {view : View} {s : SettingsStore} {c d : Configuration}
    {sts : List Script.Statement} {as : List Assignment}
    (h : InOrder (StatementAssigns view s) c sts as d) :
    (Script.run view sts).perform (c.state s) = (.ok (), d.state s) := by
  induction h with
  | nil => rfl
  | cons hfirst _ ih =>
    rw [Script.run, perform_bind_of_ok hfirst.perform_run]
    exact ih

end Configuration

end Milp

import Milp.Proofs.Except
import Milp.Session.Basic
set_option autoImplicit false

/-! # Ways to settings

A dotted name leads from a node through members to the object where it sets its last component
(`assignAlong_concat`). The only fault on the way is that something is missing, as long as nothing else
happens when objects are looked at (`assignDotted_kind`); what a session shows of its objects is of this
kind (`Session.onlyMisses_view`). So a name either sets something or can be passed over. -/

namespace Milp

/-- What cannot be read off an object is a member that it does not have. -/
def View.OnlyMisses (view : View) : Prop :=
  ∀ r name f, view.member r name = .error f → f.kind = .missingMember

namespace SettingsStore

variable {view : View} {s : SettingsStore}

/-- The value at the end of a way through members. -/
def follow (view : View) (s : SettingsStore) (v : Value) (names : List String) :
    Except Fault Value := names.foldlM (s.child view) v

/-- New settings lead to those for engines. -/
theorem setting_newGeneral (solver : Nat) :
    setting (.newGeneral solver) "solver" = .ok (.ref (.settings solver)) := by
  have hkind : ¬(decide (SettingsKind.general = .plain) ||
      decide ("solver" ∈ SettingsKind.general.operations)) = true := by decide +kernel
  have hname : ¬"solver".startsWith "__" = true := by decide +kernel
  exact (if_neg hkind).trans (if_neg hname)

/-- A way leads to the object that has the last name on it. -/
theorem assignAlong_concat (view : View) (s : SettingsStore) (v value : Value)
    (names : List String) (last : String) :
    s.assignAlong view v value (names ++ [last]) =
      s.follow view v names >>= fun owner => s.assign view owner last value := by
  induction names generalizing v with
  | nil => rfl
  | cons name rest ih =>
    have hcons : s.assignAlong view v value (name :: (rest ++ [last])) =
        s.child view v name >>= fun o => s.assignAlong view o value (rest ++ [last]) := by
      cases rest <;> rfl
    rw [List.cons_append, hcons, follow, List.foldlM_cons, bind_assoc]
    exact bind_congr fun o => ih o

/-! ## What can go wrong -/

theorem setting_kind {n : SettingsNode} {name : String} {f : Fault}
    (h : setting n name = .error f) : f.kind = .missingMember := by
  unfold setting at h
  split_ifs at h
  · cases h
    rfl
  · cases h
    rfl
  · split at h <;> cases h
    rfl

theorem member_kind (hview : view.OnlyMisses) {v : Value} {name : String} {f : Fault}
    (h : v.member view name = .error f) : f.kind = .missingMember := by
  unfold Value.member at h
  dsimp only at h
  split at h
  · cases h
  · exact hview _ _ _ h
  · cases h
    rfl

theorem child_kind (hview : view.OnlyMisses) {v : Value} {name : String} {f : Fault}
    (h : s.child view v name = .error f) : f.kind = .missingMember := by
  unfold child at h
  split at h
  · split at h
    · exact setting_kind h
    · cases h
      rfl
  · split at h
    · cases h
    · exact member_kind hview h
  · exact member_kind hview h

theorem follow_kind (hview : view.OnlyMisses) {v : Value} {names : List String} {f : Fault}
    (h : s.follow view v names = .error f) : f.kind = .missingMember := by
  induction names generalizing v with
  | nil => cases h
  | cons name rest ih =>
    rw [follow, List.foldlM_cons] at h
    cases hchild : s.child view v name with
    | error g =>
      rw [hchild] at h
      cases h
      exact child_kind hview hchild
    | ok o =>
      rw [hchild] at h
      exact ih h

theorem assign_kind {v value : Value} {name : String} {f : Fault}
    (h : s.assign view v name value = .error f) : f.kind = .missingMember := by
  unfold assign at h
  split at h
  · split at h <;> cases h <;> rfl
  · split_ifs at h
    cases h
    rfl
  iterate 3
    · split at h <;> cases h
      rfl
  · cases h
    rfl

/-! ## By dotted names -/

/-- What was set at a node can be read there. -/
theorem get?_modify_set {i : Nat} {n : SettingsNode} (hnode : s.node? i = some n) (key : String)
    (value : Value) :
    ((s.modify i (·.set (.text key) value)).node? i).bind (·.get? (.text key)) = some value := by
  have hi : s.nodes[i]? = some n := hnode
  rw [node?, modify, List.getElem?_modify_eq, hi]
  exact n.get?_set key value

theorem components_ne_nil (name : String) : components name ≠ [] := by
  rw [components, Ne, List.map_eq_nil_iff]
  exact List.splitOn_ne_nil _ _

/-- A dotted name leads to the object that has its last component. -/
theorem assignDotted_eq (view : View) (s : SettingsStore) (root : Nat) (name : String)
    (value : Value) :
    s.assignDotted view root name value =
      s.follow view (.ref (.settings root)) (components name).dropLast >>= fun owner =>
        s.assign view owner ((components name).getLast (components_ne_nil name)) value := by
  rw [assignDotted, ← assignAlong_concat, List.dropLast_concat_getLast]

theorem assignDotted_kind (hview : view.OnlyMisses) {root : Nat} {name : String} {value : Value}
    {f : Fault} (h : s.assignDotted view root name value = .error f) : f.kind = .missingMember := by
  rw [assignDotted_eq] at h
  cases hway : s.follow view (.ref (.settings root)) (components name).dropLast with
  | error g =>
    rw [hway] at h
    cases h
    exact follow_kind hview hway
  | ok owner =>
    rw [hway] at h
    exact assign_kind h

/-- The settings after one more is set by its dotted name; one that cannot be set changes nothing. -/
def applied (view : View) (root : Nat) (s : SettingsStore) (setting : String × String) :
    SettingsStore :=
  (s.assignDotted view root setting.1 (.text setting.2)).toOption.getD s

/-- A name whose way leads to settings sets its last component there. -/
theorem applied_of_node {root i : Nat} {n : SettingsNode} {key : String}
    (hway : s.follow view (.ref (.settings root)) (components key).dropLast =
      .ok (.ref (.settings i)))
    (hnode : s.node? i = some n) (hkind : n.kind ≠ .plain) (text : String) :
    s.applied view root (key, text) = s.modify i
      (·.set (.text ((components key).getLast (components_ne_nil _))) (.text text)) := by
  have hassign (name : String) (value : Value) :
      s.assign view (.ref (.settings i)) name value = .ok (s.modify i (·.set (.text name) value)) := by
    obtain ⟨kind, entries⟩ := n
    rw [assign, hnode]
    cases kind with
    | general => rfl
    | solver => rfl
    | plain => exact absurd rfl hkind
  rw [applied, assignDotted_eq, hway]
  show (s.assign view (.ref (.settings i)) _ _).toOption.getD s = _
  rw [hassign]
  rfl

/-- A name changes nothing if the way to its last component leads nowhere. -/
theorem applied_of_missing {root : Nat} {setting : String × String} {f : Fault}
    (h : s.follow view (.ref (.settings root)) (components setting.1).dropLast = .error f) :
    s.applied view root setting = s := by
  rw [applied, assignDotted_eq, h]
  rfl

end SettingsStore

/-! ## What sessions show -/

namespace Session

theorem onlyMisses_memberAt (s : Session) {view : View} (hview : view.OnlyMisses) {r : Ref}
    {name : String} {f : Fault} (h : s.memberAt view r name = .error f) :
    f.kind = .missingMember := by
  unfold memberAt at h
  split at h
  · split at h
    · exact SettingsStore.setting_kind h
    · cases h
      rfl
  · split at h
    · exact SettingsStore.follow_kind hview h
    · cases h
      rfl
  · split at h
    · exact SettingsStore.follow_kind hview h
    · cases h
      rfl
  · split at h <;> cases h
    rfl

theorem onlyMisses_viewTo (s : Session) (depth : Nat) (opened : List Nat) :
    (s.viewTo depth opened).OnlyMisses := by
  induction depth generalizing opened with
  | zero =>
    rintro r name f h
    cases h
    rfl
  | succ depth ih => exact fun _ _ _ h => s.onlyMisses_memberAt (ih opened) h

theorem onlyMisses_view (s : Session) : s.view.OnlyMisses := s.onlyMisses_viewTo _ _

end Session

end Milp

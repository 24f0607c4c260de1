import Milp.Model.Update
set_option autoImplicit false

/-! # Tables of indices and names

A table that was filled with each key once has its entries in the order in which they were set. The
table of indices of entities with distinct identities gives each of them its position
(`Table.get?_positions`), and the table of names the first variable of each name
(`Table.get?_firstOf`). -/

namespace Milp

namespace Table

variable {κ α : Type} [DecidableEq κ]

theorem find?_eq_none_iff {key : κ} {es : List (κ × α)} :
    find? key es = none ↔ key ∉ es.map Prod.fst := by
  induction es with
  | nil => simp [find?]
  | cons e rest ih =>
    by_cases h : e.1 = key
    · simp [find?, h]
    · rw [find?, if_neg h, ih, List.map_cons, List.mem_cons]
      exact ⟨fun hr hm => hm.elim (fun he => h he.symm) hr, fun hr hm => hr (Or.inr hm)⟩

/-- Where no key comes twice, what is found is what is there. -/
theorem find?_eq_some_iff {key : κ} {value : α} {es : List (κ × α)}
    (h : (es.map Prod.fst).Nodup) : find? key es = some value ↔ (key, value) ∈ es := by
  induction es with
  | nil => simp [find?]
  | cons e rest ih =>
    obtain ⟨k, v⟩ := e
    rw [List.map_cons, List.nodup_cons] at h
    have hrest := ih h.2
    by_cases hk : k = key
    · subst hk
      have hnot : (k, value) ∉ rest := fun hm => h.1 (List.mem_map.2 ⟨_, hm, rfl⟩)
      simp [find?, hnot, eq_comm]
    · have hne : (key, value) ≠ (k, v) := fun he => hk (congrArg Prod.fst he).symm
      rw [find?, if_neg hk, hrest, List.mem_cons]
      exact ⟨Or.inr, fun hm => hm.resolve_left hne⟩

theorem insert_of_not_mem {key : κ} (value : α) {es : List (κ × α)}
    (h : key ∉ es.map Prod.fst) : insert key value es = es ++ [(key, value)] := by
  induction es with
  | nil => rfl
  | cons e rest ih =>
    rw [List.map_cons, List.mem_cons, not_or] at h
    rw [insert, if_neg (fun he => h.1 he.symm), ih h.2, List.cons_append]

/-! ## Indices -/

/-- The table that gives keys their positions in a list. -/
def positions (keys : List κ) : Table κ Nat := ⟨keys.zipIdx⟩

omit [DecidableEq κ] in
theorem keys_positions (keys : List κ) : (positions keys).entries.map Prod.fst = keys :=
  List.zipIdx_map_fst 0 keys

theorem get?_positions_eq_none (keys : List κ) (key : κ) :
    (positions keys).get? key = none ↔ key ∉ keys := by
  rw [get?, find?_eq_none_iff, keys_positions]

theorem contains_positions (keys : List κ) (key : κ) :
    (positions keys).contains key = false ↔ key ∉ keys := by
  rw [← get?_positions_eq_none, contains]
  cases (positions keys).get? key <;> simp

theorem get?_positions {keys : List κ} (h : keys.Nodup) {key : κ} {i : Nat} :
    (positions keys).get? key = some i ↔ keys[i]? = some key := by
  have hkeys : ((positions keys).entries.map Prod.fst).Nodup := by rwa [keys_positions]
  rw [get?, find?_eq_some_iff hkeys, positions, List.mem_zipIdx_iff_getElem?]

/-- A key that is new gets the next position. -/
theorem set_positions {keys : List κ} {key : κ} (h : key ∉ keys) :
    (positions keys).set key keys.length = positions (keys ++ [key]) := by
  have hkeys : key ∉ (positions keys).entries.map Prod.fst := by rwa [keys_positions]
  rw [set, insert_of_not_mem _ hkeys, positions, positions, List.zipIdx_append]
  simp

/-! ## Names -/

/-- The table that gives names the first variable that has them. -/
def named (t : Table String Var) (v : Var) : Table String Var :=
  match v.name with
  | some name => t.setNew name v
  | none => t

def firstOf (vs : List Var) : Table String Var := vs.foldl named {}

theorem get?_named (t : Table String Var) (v : Var) (name : String) :
    (t.named v).get? name = (t.get? name).or (if v.name = some name then some v else none) := by
  unfold named
  cases hv : v.name with
  | none => simp
  | some n =>
    show (t.setNew n v).get? name = _
    rw [get?_setNew]
    simp

theorem get?_firstOf (vs : List Var) (name : String) :
    (firstOf vs).get? name = vs.find? (·.name = some name) := by
  suffices h : ∀ t : Table String Var, (vs.foldl named t).get? name =
      (t.get? name).or (vs.find? (·.name = some name)) by
    rw [firstOf, h, get?_empty, Option.none_or]
  induction vs with
  | nil => intro t; simp
  | cons v rest ih =>
    intro t
    rw [List.foldl_cons, ih, get?_named, Option.or_assoc, List.find?_cons]
    by_cases hv : v.name = some name <;> simp [hv]

theorem firstOf_append (vs : List Var) (ws : List Var) :
    firstOf (vs ++ ws) = ws.foldl named (firstOf vs) := List.foldl_append

end Table

end Milp

set_option autoImplicit false

/-! # Tables

A table gives values to keys and keeps the order in which its keys were first set. Main statement:
setting a key changes the value of that key alone (`Table.get?_set`). -/

namespace Milp

structure Table (κ α : Type) where
  entries : List (κ × α) := []
deriving DecidableEq, Repr

namespace Table

variable {κ α : Type} [DecidableEq κ]

/-- The value of a key in a list of entries. -/
def find? (key : κ) : List (κ × α) → Option α
  | [] => none
  | e :: rest => if e.1 = key then some e.2 else find? key rest

/-- Sets a key in a list of entries: a key that is present keeps its place. -/
def insert (key : κ) (value : α) : List (κ × α) → List (κ × α)
  | [] => [(key, value)]
  | e :: rest => if e.1 = key then (e.1, value) :: rest else e :: insert key value rest

/-- The value of a key. -/
def get? (t : Table κ α) (key : κ) : Option α := find? key t.entries

def contains (t : Table κ α) (key : κ) : Bool := (t.get? key).isSome

/-- Sets a key. -/
def set (t : Table κ α) (key : κ) (value : α) : Table κ α := ⟨insert key value t.entries⟩

/-- Sets a key unless the table has it already. -/
def setNew (t : Table κ α) (key : κ) (value : α) : Table κ α :=
  if t.contains key then t else t.set key value

theorem find?_insert (key other : κ) (value : α) (es : List (κ × α)) :
    find? other (insert key value es) = if key = other then some value else find? other es := by
  induction es with
  | nil => rfl
  | cons e rest ih =>
    by_cases h : e.1 = key
    · rw [insert, if_pos h, find?, find?, h]
      split <;> rfl
    · rw [insert, if_neg h, find?, find?, ih]
      by_cases ho : e.1 = other
      · rw [if_pos ho, if_pos ho, if_neg (fun hk => h (ho.trans hk.symm))]
      · rw [if_neg ho, if_neg ho]

@[simp] theorem get?_empty (key : κ) : ({} : Table κ α).get? key = none := rfl

theorem get?_set (t : Table κ α) (key other : κ) (value : α) :
    (t.set key value).get? other = if key = other then some value else t.get? other :=
  find?_insert key other value t.entries

theorem get?_setNew (t : Table κ α) (key other : κ) (value : α) :
    (t.setNew key value).get? other =
      (t.get? other).or (if key = other then some value else none) := by
  unfold setNew contains
  by_cases hk : key = other
  · subst hk
    cases h : t.get? key <;> simp [h, get?_set]
  · cases t.get? key <;> simp [get?_set, hk]

end Table

end Milp

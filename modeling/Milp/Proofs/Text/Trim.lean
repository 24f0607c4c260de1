import Milp.Text.Blank
import Mathlib.Data.List.DropRight
set_option autoImplicit false

/-! # Trimming

What is trimmed away at an end makes no difference to a trimmed text, and nothing is trimmed away
beyond a character that stays: such a character divides a text into two parts that are trimmed at one
end each (`trim_append_cons`). -/

namespace Milp.Text

variable {p : Char → Bool} {a b s : List Char} {c : Char}

theorem trim_eq_rdropWhile (p : Char → Bool) (s : List Char) :
    trim p s = (s.dropWhile p).rdropWhile p := rfl

/-! ## One end -/

theorem dropWhile_append_of_all (h : ∀ c ∈ a, p c = true) (s : List Char) :
    (a ++ s).dropWhile p = s.dropWhile p := by
  rw [List.dropWhile_append, List.dropWhile_eq_nil_iff.2 h]
  rfl

theorem rdropWhile_append_of_all (h : ∀ c ∈ b, p c = true) (s : List Char) :
    (s ++ b).rdropWhile p = s.rdropWhile p := by
  rw [List.rdropWhile, List.reverse_append,
    dropWhile_append_of_all (fun c hc => h c (List.mem_reverse.1 hc))]
  rfl

theorem dropWhile_append_cons (hc : p c = false) (a b : List Char) :
    (a ++ c :: b).dropWhile p = a.dropWhile p ++ c :: b := by
  induction a with
  | nil => exact List.dropWhile_cons_of_neg (by simp [hc])
  | cons d rest ih =>
    rw [List.cons_append, List.dropWhile_cons, List.dropWhile_cons]
    split
    · exact ih
    · rfl

theorem rdropWhile_append_cons (hc : p c = false) (a b : List Char) :
    (a ++ c :: b).rdropWhile p = a ++ c :: b.rdropWhile p := by
  rw [List.rdropWhile, List.reverse_append, List.reverse_cons, List.append_assoc,
    List.singleton_append, dropWhile_append_cons hc]
  simp [List.rdropWhile]

/-! ## Both ends -/

theorem trim_append_left (h : ∀ c ∈ a, p c = true) (s : List Char) :
    trim p (a ++ s) = trim p s := by
  rw [trim_eq_rdropWhile, dropWhile_append_of_all h, trim_eq_rdropWhile]

theorem trim_append_right (h : ∀ c ∈ b, p c = true) (s : List Char) :
    trim p (s ++ b) = trim p s := by
  rw [trim_eq_rdropWhile, trim_eq_rdropWhile, List.dropWhile_append]
  split
  · rename_i hs
    rw [List.dropWhile_eq_nil_iff.2 h, List.isEmpty_iff.1 hs]
  · exact rdropWhile_append_of_all h _

theorem trim_append_cons (hc : p c = false) (a b : List Char) :
    trim p (a ++ c :: b) = a.dropWhile p ++ c :: b.rdropWhile p := by
  rw [trim_eq_rdropWhile, dropWhile_append_cons hc, rdropWhile_append_cons hc]

theorem trim_dropWhile (p : Char → Bool) (s : List Char) : trim p (s.dropWhile p) = trim p s := by
  rw [trim_eq_rdropWhile, List.dropWhile_idempotent, trim_eq_rdropWhile]

theorem trim_rdropWhile (p : Char → Bool) (s : List Char) : trim p (s.rdropWhile p) = trim p s := by
  have hsplit : s.rdropWhile p ++ (s.reverse.takeWhile p).reverse = s := by
    rw [List.rdropWhile, ← List.reverse_append, List.takeWhile_append_dropWhile, List.reverse_reverse]
  have hdropped : ∀ c ∈ (s.reverse.takeWhile p).reverse, p c = true := fun c hc =>
    List.mem_takeWhile_imp (List.mem_reverse.1 hc)
  conv_rhs => rw [← hsplit, trim_append_right hdropped]

theorem mem_of_mem_trim (h : c ∈ trim p s) : c ∈ s := by
  rw [trim_eq_rdropWhile] at h
  exact (List.dropWhile_sublist p).subset ((List.rdropWhile_prefix p _).subset h)

/-- A text without characters of the class is left as it is. -/
theorem trim_of_solid (h : ∀ c ∈ s, p c = false) : trim p s = s := by
  have hdrop {t : List Char} (ht : ∀ c ∈ t, p c = false) : t.dropWhile p = t := by
    cases t with
    | nil => rfl
    | cons c rest => exact List.dropWhile_cons_of_neg (by simp [ht c List.mem_cons_self])
  rw [trim, hdrop h, hdrop fun c hc => h c (List.mem_reverse.1 hc), List.reverse_reverse]

end Milp.Text

import Milp.Text.Blank
import Mathlib.Data.Bool.AllAny
import Mathlib.Data.List.Basic
set_option autoImplicit false

/-! # Words

Blank characters divide a text into words. A blank in a text divides its words too
(`words_append_blank`), and all that is known of the words of printed texts follows from that: words
with a blank between any two of them are found again (`words_intercalate`). -/

namespace Milp.Text

/-- The words of a text. -/
def words (s : List Char) : List (List Char) := (s.splitOnP isBlank).filter (· ≠ [])

theorem words_append_blank {c : Char} (hc : isBlank c = true) (s t : List Char) :
    words (s ++ c :: t) = words s ++ words t := by
  simp [words, List.splitOnP_append_cons s t hc]

theorem words_nil : words [] = [] := rfl

/-- A text that starts with a blank, or is empty, adds its own words. -/
theorem words_append_of_head {s t : List Char} (ht : ∀ c ∈ t.head?, isBlank c = true) :
    words (s ++ t) = words s ++ words t := by
  cases t with
  | nil => rw [List.append_nil, words_nil, List.append_nil]
  | cons c rest =>
    have hc := ht c rfl
    have hrest : words (c :: rest) = words rest := words_append_blank hc [] rest
    rw [words_append_blank hc, hrest]

/-- What is one word: some characters, of which none is blank. -/
structure IsWord (w : List Char) : Prop where
  nonempty : w ≠ []
  solid : ∀ c ∈ w, isBlank c = false

instance (w : List Char) : Decidable (IsWord w) :=
  decidable_of_iff (w ≠ [] ∧ w.all (fun c => decide (isBlank c = false)) = true)
    ⟨fun h => ⟨h.1, List.all_iff_forall_prop.1 h.2⟩,
      fun h => ⟨h.nonempty, List.all_iff_forall_prop.2 h.solid⟩⟩

theorem IsWord.words_eq {w : List Char} (h : IsWord w) : words w = [w] := by
  rw [words, List.splitOnP_eq_singleton h.solid]
  simp [h.nonempty]

theorem words_intercalate {ws : List (List Char)} (h : ∀ w ∈ ws, IsWord w) :
    words ([' '].intercalate ws) = ws := by
  induction ws with
  | nil => rfl
  | cons w rest ih =>
    obtain ⟨hw, hrest⟩ := List.forall_mem_cons.1 h
    cases rest with
    | nil => simpa using hw.words_eq
    | cons v rest =>
      rw [List.intercalate_cons_cons, List.append_assoc, List.singleton_append,
        words_append_blank (by decide), hw.words_eq, ih hrest]
      rfl

theorem intercalate_append {α : Type} {sep : List α} {us vs : List (List α)} (hus : us ≠ [])
    (hvs : vs ≠ []) :
    sep.intercalate (us ++ vs) = sep.intercalate us ++ (sep ++ sep.intercalate vs) := by
  induction us with
  | nil => exact absurd rfl hus
  | cons u rest ih =>
    by_cases hrest : rest = []
    · subst hrest
      rw [List.singleton_append, List.intercalate_cons_of_ne_nil hvs, List.intercalate_singleton,
        List.append_assoc]
    · have hne : rest ++ vs ≠ [] := List.append_ne_nil_of_left_ne_nil hrest vs
      rw [List.cons_append, List.intercalate_cons_of_ne_nil hne, ih hrest,
        List.intercalate_cons_of_ne_nil hrest]
      simp only [List.append_assoc]

/-- Of the blanks only those between the words are in such a text. -/
theorem not_mem_intercalate {c : Char} (hc : isBlank c = true) (hne : c ≠ ' ') {ws : List (List Char)}
    (h : ∀ w ∈ ws, IsWord w) : c ∉ [' '].intercalate ws := by
  have hword {w : List Char} (hw : IsWord w) : c ∉ w := fun hmem => by
    rw [hw.solid c hmem] at hc
    cases hc
  induction ws with
  | nil => exact List.not_mem_nil
  | cons w rest ih =>
    obtain ⟨hw, hrest⟩ := List.forall_mem_cons.1 h
    cases rest with
    | nil => simpa using hword hw
    | cons v rest => simp [List.intercalate_cons_cons, hword hw, hne, ih hrest]

/-! ## Solid characters -/

theorem isBlank_eq_false {c : Char} (hlow : 32 < c.toNat) (hhigh : c.toNat < 127) :
    isBlank c = false := by
  simp [isBlank]
  omega

theorem isBlank_eq_false_of_isDigit {c : Char} (h : c.isDigit = true) : isBlank c = false := by
  obtain ⟨hlow, hhigh⟩ := Char.isDigit_iff_toNat.1 h
  exact isBlank_eq_false (Nat.lt_of_lt_of_le (by decide) hlow)
    (Nat.lt_of_le_of_lt hhigh (by decide))

end Milp.Text

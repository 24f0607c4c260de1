set_option autoImplicit false

/-! # Blank characters

The characters that count as white space around a setting, a name or a number, and the trimming of
a text by them. Main statement: a trimmed text does not end with one of the characters it was trimmed
by (`getLast_trim`). -/

namespace Milp.Text

/-- White space: the ASCII blanks and controls, the information separators and the Unicode spaces
and line separators. -/
def isBlank (c : Char) : Bool :=
  let n := c.toNat
  (9 ≤ n && n ≤ 13) || (28 ≤ n && n ≤ 32) || n == 0x85 || n == 0xa0 || n == 0x1680 ||
    (0x2000 ≤ n && n ≤ 0x200a) || n == 0x2028 || n == 0x2029 || n == 0x202f || n == 0x205f ||
    n == 0x3000

/-- The information separators are blank around a setting, but not around a number. -/
def isNumberBlank (c : Char) : Bool := isBlank c && !(28 ≤ c.toNat && c.toNat ≤ 31)

/-- Drops the characters of a class at both ends. -/
def trim (p : Char → Bool) (s : List Char) : List Char :=
  ((s.dropWhile p).reverse.dropWhile p).reverse

/-- Drops the blanks at both ends. -/
def trimBlanks (s : List Char) : List Char := trim isBlank s

private theorem head_dropWhile {α : Type} (p : α → Bool) (l : List α) (a : α)
    (h : (l.dropWhile p).head? = some a) : p a = false := by
  induction l with
  | nil => simp at h
  | cons b l ih =>
    rw [List.dropWhile_cons] at h
    split at h
    · exact ih h
    · simp only [List.head?_cons, Option.some.injEq] at h
      subst h
      simpa using ‹¬p b = true›

theorem getLast_trim {p : Char → Bool} {s : List Char} {c : Char}
    (h : (trim p s).getLast? = some c) : p c = false := by
  rw [trim, List.getLast?_reverse] at h
  exact head_dropWhile p _ c h

end Milp.Text

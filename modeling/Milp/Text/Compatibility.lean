import Milp.Text.CharacterName
import Milp.Text.CompatibilityTable
set_option autoImplicit false

/-! # Compatible characters

Identifiers that look alike count as the same: each character is taken apart as far as possible,
combining marks are put into a fixed order, and what can be put together again is
(`Text.compatible`). An identifier of ASCII characters is left alone
(`compatibleIdentifier_of_ascii`). -/

namespace Milp.Text

/-! ## Reading the tables -/

/-- Numbers in hexadecimal digits between marks. -/
def hexNumbers (mark : String) (s : String) : List Nat := (s.splitOn mark).map fun h => hexValue h.toList

/-- Two parts of an entry around a colon. -/
def entryParts (s : String) : String × String :=
  match s.splitOn ":" with
  | [a, b] => (a, b)
  | _ => ("", "")

/-- The entries of a table, each as its two parts. -/
def tableEntries (table : List String) : List (String × String) :=
  ((table.flatMap (·.splitOn ";")).filter (!·.isEmpty)).map entryParts

/-- Code points with what they are decomposed into. -/
def decompositions : List (Nat × List Nat) :=
  (tableEntries decompositionText).map fun (a, b) => (hexValue a.toList, hexNumbers "+" b)

/-- Ranges of code points with their combining classes. -/
def combiningClasses : List (List Nat × Nat) :=
  (tableEntries combiningText).map fun (a, b) => (hexNumbers "-" a, (b.toNat?).getD 0)

/-- Pairs of code points with what they compose to. -/
def compositions : List (List Nat × Nat) :=
  (tableEntries compositionText).map fun (a, b) => (hexNumbers "+" a, hexValue b.toList)

/-! ## Taking apart -/

/-- The parts of a syllable of Hangul. -/
def syllableParts (n : Nat) : List Nat :=
  let i := n - 0xac00
  let t := i % 28
  [0x1100 + i / 588, 0x1161 + i % 588 / 28] ++ (if t = 0 then [] else [0x11a7 + t])

/-- What a code point is made of. -/
def decompose (n : Nat) : List Nat :=
  if 0xac00 ≤ n ∧ n ≤ 0xd7a3 then syllableParts n
  else (decompositions.lookup n).getD [n]

/-! ## Order of marks -/

/-- The combining class of a code point; characters that do not combine have the class 0. -/
def combiningClass (n : Nat) : Nat :=
  match combiningClasses.find? fun e => (e.1.headD 0) ≤ n && n ≤ (e.1.getLastD 0) with
  | some e => e.2
  | none => 0

/-- Puts a mark before those of greater classes at the end of a text, which is given last character
first. -/
def insertMark (mark : Nat × Nat) : List (Nat × Nat) → List (Nat × Nat)
  | [] => [mark]
  | m :: rest =>
    if mark.2 ≠ 0 ∧ mark.2 < m.2 then m :: insertMark mark rest else mark :: m :: rest

/-- The marks after each character in the order of their classes. -/
def orderMarks (s : List Nat) : List (Nat × Nat) :=
  (s.foldl (fun done n => insertMark (n, combiningClass n) done) []).reverse

/-! ## Putting together -/

/-- What two code points compose to. -/
def compose? (a b : Nat) : Option Nat :=
  if 0x1100 ≤ a ∧ a ≤ 0x1112 ∧ 0x1161 ≤ b ∧ b ≤ 0x1175 then
    some (0xac00 + ((a - 0x1100) * 21 + (b - 0x1161)) * 28)
  else if 0xac00 ≤ a ∧ a ≤ 0xd7a3 ∧ (a - 0xac00) % 28 = 0 ∧ 0x11a8 ≤ b ∧ b ≤ 0x11c2 then
    some (a + (b - 0x11a7))
  else compositions.lookup [a, b]

/-- Composes the rest of a text with the last character that starts a combination. `starter` is that
character, `marks` are the marks after it that did not compose, last one first, and `blocked` is the
class of the last of them. -/
def composeFrom (starter : Option Nat) (marks : List Nat) (blocked : Nat) :
    List (Nat × Nat) → List Nat
  | [] => starter.toList ++ marks.reverse
  | (n, c) :: rest =>
    let free := if marks.isEmpty then true else blocked < c
    match if free then starter.bind (compose? · n) else none with
    | some composed => composeFrom (some composed) marks blocked rest
    | none =>
      if c = 0 then starter.toList ++ marks.reverse ++ composeFrom (some n) [] 0 rest
      else composeFrom starter (n :: marks) c rest

/-- A text with compatible characters brought into one form. -/
def compatible (s : List Char) : List Char :=
  let points := (s.map fun c => decompose c.toNat).flatten
  (composeFrom none [] 0 (orderMarks points)).map Char.ofNat

/-- An identifier in the form in which identifiers are compared. -/
def compatibleIdentifier (s : List Char) : List Char :=
  if s.all (·.toNat < 128) then s else compatible s

theorem compatibleIdentifier_of_ascii {s : List Char} (h : ∀ c ∈ s, c.toNat < 128) :
    compatibleIdentifier s = s := by
  rw [compatibleIdentifier, if_pos]
  simpa using h

end Milp.Text

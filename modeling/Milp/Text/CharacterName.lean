import Milp.Text.CharacterName.Alias
import Milp.Text.CharacterName.Part1
import Milp.Text.CharacterName.Part2
import Milp.Text.CharacterName.Part3
import Milp.Text.CharacterName.Part4
import Milp.Text.CharacterName.Part5
import Milp.Text.CharacterName.Part6
import Milp.Text.CharacterName.Part7
import Milp.Text.CharacterName.Part8
import Milp.Text.Quoted
set_option autoImplicit false

/-! # Characters by name

The character that a name stands for. Names are listed in the order of their characters, each as far
as it differs from the name before it: an entry is the code point after a mark, unless it is the next
one, then a digit of base 62 for the number of letters that are kept, and the rest of the name with
low lines for blanks. Ideographs and the syllables of Hangul are named by rule. -/

namespace Milp.Text

/-- The value of a hexadecimal digit. -/
def hexDigitValue? (c : Char) : Option Nat :=
  if c.isDigit then some (c.toNat - '0'.toNat)
  else if 'a' ≤ c ∧ c ≤ 'f' then some (c.toNat - 'a'.toNat + 10)
  else if 'A' ≤ c ∧ c ≤ 'F' then some (c.toNat - 'A'.toNat + 10)
  else none

/-- The number that hexadecimal digits stand for. -/
def hexValue (s : List Char) : Nat :=
  s.foldl (fun n c => 16 * n + (hexDigitValue? c).getD 0) 0

/-- The character with a number, if there is one. -/
def charOfNumber? (n : Nat) : Option Char :=
  if n.isValidChar then some (Char.ofNat n) else none

namespace CharacterName

/-- The value of a digit of base 62. -/
def keptLetters (c : Char) : Nat :=
  if c.isDigit then c.toNat - '0'.toNat
  else if c.isLower then c.toNat - 'a'.toNat + 10
  else c.toNat - 'A'.toNat + 36

/-- A code point and its name. -/
abbrev Entry := Nat × List Char

/-- An entry, given the one before it. -/
def nextEntry (last : Entry) (s : List Char) : Entry :=
  let (point, s) := match s with
    | '>' :: rest => (hexValue (rest.takeWhile (· ≠ ':')), (rest.dropWhile (· ≠ ':')).drop 1)
    | _ => (last.1 + 1, s)
  match s with
  | kept :: rest => (point, last.2.take (keptLetters kept) ++ rest)
  | [] => (point, [])

/-- The code point with the given name among the rest of a list. -/
def findFrom (name : List Char) (last : Entry) : List String → Option Nat
  | [] => none
  | s :: rest =>
    let entry := nextEntry last s.toList
    if entry.2 = name then some entry.1 else findFrom name entry rest

/-- The code point with the given name in a list of entries. -/
def find? (name : List Char) (entries : List String) : Option Nat :=
  findFrom name (0, []) ((entries.flatMap (·.splitOn ";")).filter (!·.isEmpty))

/-- The lists of names, in the order of their characters. -/
def lists : List (List String) :=
  [part1, part2, part3, part4, part5, part6, part7, part8, aliases]

/-! ## Names by rule -/

/-- The ranges of ideographs that are named by their code points. -/
def ideographRanges : List (Nat × Nat) :=
  [(0x3400, 0x4dbf), (0x4e00, 0x9fff), (0x20000, 0x2a6df), (0x2a700, 0x2b738), (0x2b740, 0x2b81d),
    (0x2b820, 0x2cea1), (0x2ceb0, 0x2ebe0), (0x30000, 0x3134a)]

/-- The ideograph with a code point of four or five hexadecimal digits in capitals. -/
def ideograph? (digits : List Char) : Option Nat :=
  let isDigit := fun (c : Char) => c.isDigit || ('A' ≤ c && c ≤ 'F')
  let n := hexValue digits
  if digits.all isDigit && (digits.length = 4 || digits.length = 5) &&
      ideographRanges.any (fun r => r.1 ≤ n && n ≤ r.2) then some n
  else none

def leadingConsonants : List String :=
  ["G", "GG", "N", "D", "DD", "R", "M", "B", "BB", "S", "SS", "", "J", "JJ", "C", "K", "T", "P", "H"]

def syllableVowels : List String :=
  ["A", "AE", "YA", "YAE", "EO", "E", "YEO", "YE", "O", "WA", "WAE", "OE", "YO", "U", "WEO", "WE",
    "WI", "YU", "EU", "YI", "I"]

def trailingConsonants : List String :=
  ["", "G", "GG", "GS", "N", "NJ", "NH", "D", "L", "LG", "LM", "LB", "LS", "LT", "LP", "LH", "M", "B",
    "BS", "S", "SS", "NG", "J", "C", "K", "T", "P", "H"]

/-- The longest of some parts that a text starts with, by its place, and the rest of the text. -/
def longestPart (parts : List String) (s : List Char) : Option (Nat × List Char) :=
  let found := (parts.zip (List.range parts.length)).filter fun p => p.1.toList.isPrefixOf s
  let best := found.foldl (fun (b : Option (String × Nat)) p =>
    match b with
    | some q => if q.1.length < p.1.length then some p else b
    | none => some p) none
  best.map fun p => (p.2, s.drop p.1.length)

/-- The syllable that is spelled by a leading consonant, a vowel and a trailing consonant. -/
def syllable? (s : List Char) : Option Nat := do
  let (l, s) ← longestPart leadingConsonants s
  let (v, s) ← longestPart syllableVowels s
  let (t, s) ← longestPart trailingConsonants s
  if s.isEmpty then return 0xac00 + (l * 21 + v) * 28 + t else none

/-- What follows a word that a text starts with. -/
def after? (word : String) (s : List Char) : Option (List Char) :=
  if word.toList.isPrefixOf s then some (s.drop word.length) else none

end CharacterName

/-- The character that a name stands for. Names that are listed count without regard to case. -/
def charOfName? (name : List Char) : Option Char :=
  match CharacterName.after? "HANGUL SYLLABLE " name,
      CharacterName.after? "CJK UNIFIED IDEOGRAPH-" name with
  | some s, _ => (CharacterName.syllable? s).bind charOfNumber?
  | none, some s => (CharacterName.ideograph? s).bind charOfNumber?
  | none, none =>
    let name := name.map fun c => if c = ' ' then '_' else if c = '_' then ' ' else c.toUpper
    (CharacterName.lists.findSome? (CharacterName.find? name)).bind charOfNumber?

end Milp.Text

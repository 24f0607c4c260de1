import Milp.Text.CharacterName
import Milp.Double.Text
set_option autoImplicit false

/-! # Literals of a script

What the digits of a number and the characters between quotes stand for. A number is a whole number in
one of four bases, a decimal number or an imaginary one; a whole number in decimal digits may have no
more than `digitLimit` of them. In a text a backslash starts an escape, and one before a character
without a meaning stands for itself. -/

namespace Milp.Settings.Script

/-! ## Numbers -/

inductive NumberLiteral where
  | whole (n : Nat)
  | real (x : Double)
  | imaginary (x : Double)
deriving DecidableEq

/-- The greatest number of decimal digits that a whole number may have. -/
def digitLimit : Nat := 4300

/-- The value of a digit in bases up to 16. -/
def digitIn? (base : Nat) (c : Char) : Option Nat :=
  (Text.hexDigitValue? c).filter (· < base)

/-- The digits at the start of a text and the rest; single low lines may stand between digits. -/
def digitRun (base : Nat) : List Char → Option (List Nat × List Char)
  | [] => some ([], [])
  | c :: rest =>
    match digitIn? base c with
    | some d => (fun (ds, last) => (d :: ds, last)) <$> digitRun base rest
    | none =>
      if c = '_' then
        match rest with
        | d :: _ => if (digitIn? base d).isSome then digitRun base rest else none
        | [] => none
      else some ([], c :: rest)

/-- Decimal digits at the start of a text, of which there is at least one, and the rest. -/
def decimalRun (s : List Char) : Option (List Nat × List Char) :=
  match s with
  | c :: _ => if c.isDigit then digitRun 10 s else none
  | [] => none

def valueIn (base : Nat) (ds : List Nat) : Nat := ds.foldl (fun n d => base * n + d) 0

/-- An exponent at the start of a text, zero if there is none, whether there is one, and the rest. -/
def exponentPart (s : List Char) : Option (Int × Bool × List Char) :=
  match s with
  | c :: rest =>
    if c = 'e' ∨ c = 'E' then
      let (negative, signed, digits) := match rest with
        | '-' :: r => (true, true, r)
        | '+' :: r => (false, true, r)
        | r => (false, false, r)
      match digits with
      | d :: _ =>
        if d.isDigit then
          (fun (ds, last) =>
            let n : Int := valueIn 10 ds
            (if negative then -n else n, true, last)) <$> digitRun 10 digits
        else if signed then none
        else some (0, false, s)
      | [] => none
    else some (0, false, s)
  | [] => some (0, false, [])

/-- Whether a number may end before a text: it may not run into a name, but for a few words that can
follow a number. -/
def endsNumber (s : List Char) : Bool :=
  match s with
  | [] => true
  | c :: _ =>
    ["and", "else", "for", "if", "in", "is", "or", "not"].any (fun w => w.toList.isPrefixOf s) ||
      !(c.isAlphanum || c = '_' || 128 ≤ c.toNat)

/-- A number in a base other than ten, after its mark. -/
def basedNumber (base : Nat) (s : List Char) : Option (NumberLiteral × List Char) :=
  let s := match s with
    | '_' :: rest => rest
    | _ => s
  match s with
  | c :: _ =>
    if (digitIn? base c).isSome then
      match digitRun base s with
      | some (ds, rest) =>
        if endsNumber rest && !(rest.head?.any Char.isDigit) then some (.whole (valueIn base ds), rest)
        else none
      | none => none
    else none
  | [] => none

/-- The digits at the start of a decimal number, of which there are none before a point, and the
rest. -/
def wholePart (s : List Char) : Option (List Nat × List Char) :=
  match s with
  | '.' :: _ => some ([], s)
  | _ => decimalRun s

/-- The digits after a point at the start of a text, whether there is a point, and the rest. -/
def fractionPart (s : List Char) : Option (List Nat × Bool × List Char) :=
  match s with
  | '.' :: after =>
    match decimalRun after with
    | some (ds, last) => some (ds, true, last)
    | none => if after.head?.any Char.isDigit then none else some ([], true, after)
  | _ => some ([], false, s)

/-- A decimal number: a whole number, or one with a fraction, an exponent or an imaginary unit. -/
def decimalNumber (s : List Char) : Option (NumberLiteral × List Char) := do
  let (whole, rest) ← wholePart s
  let (fraction, pointed, rest) ← fractionPart rest
  let (exponent, scaled, rest) ← exponentPart rest
  let decimal : Decimal := ⟨valueIn 10 (whole ++ fraction), exponent - fraction.length⟩
  match rest with
  | c :: after =>
    if c = 'j' ∨ c = 'J' then
      if endsNumber after then return (.imaginary (decimal.toDouble false), after) else none
  | [] => pure ()
  if !endsNumber rest then none
  else if pointed || scaled then return (.real (decimal.toDouble false), rest)
  else if whole.head? = some 0 && whole.any (· ≠ 0) then none
  else if digitLimit < whole.length then none
  else return (.whole (valueIn 10 whole), rest)

/-- The number at the start of a text, and the rest. -/
def numberLiteral (s : List Char) : Option (NumberLiteral × List Char) :=
  match s with
  | '0' :: c :: rest =>
    if c = 'x' ∨ c = 'X' then basedNumber 16 rest
    else if c = 'o' ∨ c = 'O' then basedNumber 8 rest
    else if c = 'b' ∨ c = 'B' then basedNumber 2 rest
    else decimalNumber s
  | _ => decimalNumber s

/-! ## Texts -/

/-- What a backslash and one character stand for. -/
def simpleEscape? : Char → Option (List Char)
  | '\n' => some []
  | '\\' => some ['\\']
  | '\'' => some ['\'']
  | '"' => some ['"']
  | 'a' => some ['\x07']
  | 'b' => some ['\x08']
  | 'f' => some ['\x0c']
  | 'n' => some ['\n']
  | 'r' => some ['\r']
  | 't' => some ['\t']
  | 'v' => some ['\x0b']
  | _ => none

def isOctal (c : Char) : Bool := '0' ≤ c && c ≤ '7'

/-- The number of up to so many octal digits at the start of a text, and the rest. -/
def octalRun : Nat → Nat → List Char → Nat × List Char
  | 0, n, s => (n, s)
  | _ + 1, n, [] => (n, [])
  | count + 1, n, c :: rest =>
    if isOctal c then octalRun count (8 * n + (c.toNat - '0'.toNat)) rest else (n, c :: rest)

/-- How many hexadecimal digits follow a letter. -/
def hexWidth? : Char → Option Nat
  | 'x' => some 2
  | 'u' => some 4
  | 'U' => some 8
  | _ => none

/-- The character of so many hexadecimal digits at the start of a text, and the rest. -/
def hexEscape (width : Nat) (s : List Char) : Option (Char × List Char) :=
  let digits := s.take width
  if digits.length = width && digits.all fun c => (Text.hexDigitValue? c).isSome then
    (Text.charOfNumber? (Text.hexValue digits)).map fun c => (c, s.drop width)
  else none

/-- The character whose name stands between braces at the start of a text, and the rest. -/
def namedEscape : List Char → Option (Char × List Char)
  | '{' :: s =>
    let name := s.takeWhile (· ≠ '\x7d')
    match s.dropWhile (· ≠ '\x7d') with
    | _ :: rest => if name.isEmpty then none else (Text.charOfName? name).map (·, rest)
    | [] => none
  | _ => none

/-- What the characters between quotes stand for; none if an escape is not complete. The first
argument bounds the number of escapes. -/
def unescapeUpTo : Nat → List Char → Option (List Char)
  | 0, _ => some []
  | _ + 1, [] => some []
  | _ + 1, ['\\'] => some ['\\']
  | fuel + 1, '\\' :: c :: rest =>
    match simpleEscape? c, hexWidth? c with
    | some cs, _ => (cs ++ ·) <$> unescapeUpTo fuel rest
    | none, some width => do
      let (d, rest) ← hexEscape width rest
      (d :: ·) <$> unescapeUpTo fuel rest
    | none, none =>
      if isOctal c then
        let (n, rest) := octalRun 3 0 (c :: rest)
        (Char.ofNat n :: ·) <$> unescapeUpTo fuel rest
      else if c = 'N' then do
        let (d, rest) ← namedEscape rest
        (d :: ·) <$> unescapeUpTo fuel rest
      else (['\\', c] ++ ·) <$> unescapeUpTo fuel rest
  | fuel + 1, c :: rest => (c :: ·) <$> unescapeUpTo fuel rest

/-- What the characters between quotes stand for. -/
def unescape (s : List Char) : Option (List Char) := unescapeUpTo s.length s

/-- A text without a backslash stands for itself. -/
theorem unescape_of_plain {s : List Char} (h : '\\' ∉ s) : unescape s = some s := by
  suffices hs : ∀ n, s.length ≤ n → unescapeUpTo n s = some s from hs _ (Nat.le_refl _)
  induction s with
  | nil => intro n _; cases n <;> rfl
  | cons c rest ih =>
    intro n hn
    cases n with
    | zero => simp at hn
    | succ n =>
      have hc : c ≠ '\\' := fun e => h (by simp [e])
      have hr : '\\' ∉ rest := fun e => h (by simp [e])
      have := ih hr n (by simpa using hn)
      rw [unescapeUpTo]
      · simp [this]
      · intro hc'
        exact absurd hc' hc
      · intro d ds hc'
        exact absurd hc' hc

/-! ## Bytes -/

/-- What the characters between the quotes of a sequence of bytes stand for. All must be ASCII, and
only the escapes for single bytes count. -/
def unescapeBytesUpTo : Nat → List Char → Option (List Char)
  | 0, _ => some []
  | _ + 1, [] => some []
  | _ + 1, ['\\'] => some ['\\']
  | fuel + 1, '\\' :: c :: rest =>
    match simpleEscape? c with
    | some cs => (cs ++ ·) <$> unescapeBytesUpTo fuel rest
    | none =>
      if isOctal c then
        let (n, rest) := octalRun 3 0 (c :: rest)
        (Char.ofNat (n % 256) :: ·) <$> unescapeBytesUpTo fuel rest
      else if c = 'x' then do
        let (d, rest) ← hexEscape 2 rest
        (d :: ·) <$> unescapeBytesUpTo fuel rest
      else (['\\', c] ++ ·) <$> unescapeBytesUpTo fuel rest
  | fuel + 1, c :: rest => (c :: ·) <$> unescapeBytesUpTo fuel rest

def unescapeBytes (s : List Char) : Option (List Char) :=
  if s.all (·.toNat < 128) then unescapeBytesUpTo s.length s else none

end Milp.Settings.Script

import Milp.Settings.Script.Literal
import Milp.Text.Compatibility
import Milp.Text.Identifier
set_option autoImplicit false

/-! # Tokens of a script

A script is cut into names, numbers, texts and marks, with an end of line after each logical line. A
logical line ends with its physical line, unless a bracket is open or a backslash stands at the end.
A list of tokens may end early with a token for what is no token (`Token.broken`), so that whoever
reads it sees the first mistake first. -/

namespace Milp.Settings.Script

inductive Token where
  /-- A name in the form in which names are compared; `plain` if it was written so. -/
  | name (s : String) (plain : Bool)
  | number (n : NumberLiteral)
  | text (s : String)
  | bytes (s : String)
  | mark (s : String)
  | lineEnd
  /-- A line that does not begin at the margin. -/
  | indented
  /-- What is no token. -/
  | broken
deriving DecidableEq

/-! ## Texts between quotes -/

/-- What the letters before a quote say about the text. -/
structure TextForm where
  bytes : Bool := false
  raw : Bool := false
  unicode : Bool := false
  /-- Whether braces in the text stand for fields. -/
  fields : Bool := false
deriving DecidableEq

/-- The form after one more letter, if the letter can stand there. -/
def TextForm.add? (f : TextForm) (c : Char) : Option TextForm :=
  let c := c.toLower
  if c = 'b' ∧ !(f.bytes || f.unicode || f.fields) then some { f with bytes := true }
  else if c = 'u' ∧ !(f.bytes || f.unicode || f.raw || f.fields) then some { f with unicode := true }
  else if c = 'r' ∧ !(f.raw || f.unicode) then some { f with raw := true }
  else if c = 'f' ∧ !(f.fields || f.bytes || f.unicode) then some { f with fields := true }
  else none

/-- The form of a text that starts here, the quote and what follows it. -/
def textStart (f : TextForm) : List Char → Option (TextForm × Char × List Char)
  | [] => none
  | c :: rest =>
    if c = '\'' ∨ c = '"' then some (f, c, rest)
    else
      match f.add? c with
      | some g => textStart g rest
      | none => none

/-- The characters up to the closing quotes and what follows those. A backslash takes the next
character with it, and only a text between triple quotes may go over several lines. -/
def textBody (quote : Char) (triple : Bool) (seen : List Char) :
    List Char → Option (List Char × List Char)
  | [] => none
  | '\\' :: c :: rest => textBody quote triple (c :: '\\' :: seen) rest
  | c :: rest =>
    if c = quote then
      if !triple then some (seen.reverse, rest)
      else
        match rest with
        | d :: e :: last =>
          if d = quote ∧ e = quote then some (seen.reverse, last)
          else textBody quote triple (c :: seen) rest
        | _ => none
    else if c = '\n' ∧ !triple then none
    else textBody quote triple (c :: seen) rest

/-- Whether the quote opens a text between triple quotes, and what follows. -/
def openQuote (quote : Char) (s : List Char) : Bool × List Char :=
  match s with
  | a :: b :: rest => if a = quote ∧ b = quote then (true, rest) else (false, s)
  | _ => (false, s)

/-- A text with doubled braces for single ones; a field has no meaning here. -/
def withoutFields : List Char → Option (List Char)
  | [] => some []
  | '{' :: '{' :: rest => ('{' :: ·) <$> withoutFields rest
  | '\x7d' :: '\x7d' :: rest => ('\x7d' :: ·) <$> withoutFields rest
  | c :: rest => if c = '{' ∨ c = '\x7d' then none else (c :: ·) <$> withoutFields rest

/-- The token of the characters between quotes. -/
def textToken (f : TextForm) (s : List Char) : Token :=
  let read := if f.raw then some s else if f.bytes then unescapeBytes s else unescape s
  let read := if f.bytes ∧ !(s.all (·.toNat < 128)) then none else read
  match read with
  | none => .broken
  | some cs =>
    if f.bytes then .bytes (String.ofList cs)
    else if f.fields then ((withoutFields cs).map fun ds => Token.text (String.ofList ds)).getD .broken
    else .text (String.ofList cs)

/-- The text at the start, and what follows it. -/
def lexText? (s : List Char) : Option (Token × List Char) :=
  match textStart {} s with
  | none => none
  | some (f, quote, rest) =>
    let (triple, body) := openQuote quote rest
    match textBody quote triple [] body with
    | some (cs, rest) => some (textToken f cs, rest)
    | none => some (.broken, [])

/-! ## Names and marks -/

/-- Characters that may belong to a name; which of those beyond ASCII do is seen when the name is
complete. -/
def isNameChar (c : Char) : Bool := c.isAlphanum || c = '_' || 128 ≤ c.toNat

def nameToken (s : List Char) : Token :=
  if s.all (·.toNat < 128) then .name (String.ofList s) true
  else if Text.isIdentifier s then .name (String.ofList (Text.compatibleIdentifier s)) false
  else .broken

/-- Marks, the longer ones first. -/
def marks : List String :=
  ["**=", "//=", ">>=", "<<=", "...", "!=", "==", "<=", ">=", "->", "+=", "-=", "*=", "/=", "%=",
    "&=", "|=", "^=", "@=", ":=", "**", "//", "<<", ">>", "<>", "(", ")", "[", "]", "\x7b", "\x7d",
    ":", ",", ";", "+", "-", "*", "/", "|", "&", "<", ">", "=", ".", "%", "~", "^", "@"]

/-- The mark at the start of a text, and what follows it. -/
def lexMark? (s : List Char) : Option (String × List Char) :=
  (marks.find? fun m => m.toList.isPrefixOf s).map fun m => (m, s.drop m.length)

/-- The brackets that are open after a mark; none if it closes another one than the last. -/
def bracketsAfter (opened : List String) (m : String) : Option (List String) :=
  let closing := fun (o : String) => match opened with
    | p :: rest => if p = o then some rest else none
    | [] => none
  match m with
  | "(" | "[" | "\x7b" => if opened.length < 200 then some (m :: opened) else none
  | ")" => closing "("
  | "]" => closing "["
  | "\x7d" => closing "\x7b"
  | _ => some opened

/-! ## Lines -/

def isSpace (c : Char) : Bool := c = ' ' || c = '\t' || c = '\x0c'

/-- The columns that the blanks at the start of a line take up, and what follows them. A form feed
starts again. -/
def margin (column : Nat) : List Char → Nat × List Char
  | ' ' :: rest => margin (column + 1) rest
  | '\t' :: rest => margin ((column / 8 + 1) * 8) rest
  | '\x0c' :: rest => margin 0 rest
  | '\\' :: '\n' :: rest =>
    if column = 0 || rest.isEmpty then (0, '\\' :: '\n' :: rest) else (column, rest)
  | s => (column, s)

/-- Whether a line says nothing. -/
def isBlankLine : List Char → Bool
  | [] => true
  | c :: _ => c = '\n' || c = '#'

/-- The tokens of a text. `atMargin` tells whether a line begins here, and `written` whether the
current line has a token so far. Each step takes at least one character, so the first argument, the
number of steps, may be the length of the text. -/
def tokensUpTo : Nat → Bool → List String → List Char → List Token
  | 0, _, _, _ => []
  | _ + 1, _, opened, [] => if opened.isEmpty then [] else [.broken]
  | fuel + 1, true, opened, s =>
    let (column, rest) := margin 0 s
    if isBlankLine rest then
      match rest.dropWhile (· ≠ '\n') with
      | _ :: rest => tokensUpTo fuel true opened rest
      | [] => tokensUpTo fuel false opened []
    else if column = 0 then tokensUpTo fuel false opened rest
    else .indented :: tokensUpTo fuel false opened rest
  | fuel + 1, false, opened, c :: rest =>
    if isSpace c then tokensUpTo fuel false opened rest
    else if c = '#' then tokensUpTo fuel false opened (rest.dropWhile (· ≠ '\n'))
    else if c = '\n' then
      if opened.isEmpty then .lineEnd :: tokensUpTo fuel true opened rest
      else tokensUpTo fuel false opened rest
    else if c = '\\' then
      match rest with
      | '\n' :: d :: rest => tokensUpTo fuel false opened (d :: rest)
      | _ => [.broken]
    else
      match lexText? (c :: rest) with
      | some (.broken, _) => [.broken]
      | some (t, rest) => t :: tokensUpTo fuel false opened rest
      | none =>
        let s := c :: rest
        if c.isDigit || (c = '.' && rest.head?.any Char.isDigit) then
          match numberLiteral s with
          | some (n, rest) => .number n :: tokensUpTo fuel false opened rest
          | none => [.broken]
        else if isNameChar c then
          match nameToken (s.takeWhile isNameChar) with
          | .broken => [.broken]
          | t => t :: tokensUpTo fuel false opened (s.dropWhile isNameChar)
        else
          match lexMark? s with
          | none => [.broken]
          | some (m, rest) =>
            match bracketsAfter opened m with
            | some opened => .mark m :: tokensUpTo fuel false opened rest
            | none => [.broken]

/-- The tokens of a text, whose last line ends with an end of line in any case. -/
def tokens (text : String) : List Token :=
  let s := text.toList
  let s := if s.getLast? = some '\n' ∨ s.isEmpty then s else s ++ ['\n']
  tokensUpTo (3 * s.length + 3) true [] s

end Milp.Settings.Script

import Milp.Template.Layout
import Milp.Value.Member
set_option autoImplicit false

/-! # Message templates

A message may be a template with places for arguments, in one of two notations: fields in braces
(`Template.fillBraces`), or directives that start with a percent sign (`Template.fillPercent`).
A template is first cut into pieces by a scan over its characters, then filled piece by piece, so
that the first fault from the left is the one that counts. Main statement: a template without braces
is its own text (`Template.fillBraces_of_plain`). -/

namespace Milp.Template

/-! ## Fields in braces -/

/-- A field: which argument it shows, in which way, and how it is laid out. -/
structure Field where
  name : List Char
  conversion : Option Char
  layout : List Char

inductive BracePiece where
  | literal (c : Char)
  | field (f : Field)
  /-- A brace without its partner, or a field without a meaning. -/
  | broken

/-- The name of a field, the character that ends it and what follows. Within square brackets any
character belongs to the name. -/
def takeName (inside : Bool) (seen : List Char) : List Char → Option (List Char × Char × List Char)
  | [] => none
  | c :: rest =>
    if inside then takeName (c ≠ ']') (c :: seen) rest
    else if c = '{' then none
    else if c = '}' ∨ c = ':' ∨ c = '!' then some (seen.reverse, c, rest)
    else takeName (c = '[') (c :: seen) rest

/-- A layout up to the brace that closes the field, and what follows. -/
def takeLayout (depth : Nat) (seen : List Char) : List Char → Option (List Char × List Char)
  | [] => none
  | c :: rest =>
    if c = '{' then takeLayout (depth + 1) (c :: seen) rest
    else if c = '}' then
      match depth with
      | 0 => some (seen.reverse, rest)
      | depth + 1 => takeLayout depth (c :: seen) rest
    else takeLayout depth (c :: seen) rest

/-- A field after its opening brace: a name, a conversion of one letter after an exclamation mark, a
layout after a colon. -/
def takeField (s : List Char) : Option (Field × List Char) := do
  let (name, mark, rest) ← takeName false [] s
  let laidOut (conversion : Option Char) (rest : List Char) : Option (Field × List Char) := do
    let (layout, rest) ← takeLayout 0 [] rest
    return (⟨name, conversion, layout⟩, rest)
  match mark, rest with
  | ':', rest => laidOut none rest
  | '!', c :: ':' :: rest => laidOut (some c) rest
  | '!', c :: '}' :: rest => return (⟨name, some c, []⟩, rest)
  | '!', _ => none
  | _, rest => return (⟨name, none, []⟩, rest)

/-- The pieces of a template. Each takes at least one character, so the first argument may be the
number of characters. -/
def bracePieces : Nat → List Char → List BracePiece
  | 0, _ | _, [] => []
  | _ + 1, ['{'] | _ + 1, ['}'] => [.broken]
  | fuel + 1, '{' :: '{' :: rest => .literal '{' :: bracePieces fuel rest
  | fuel + 1, '}' :: '}' :: rest => .literal '}' :: bracePieces fuel rest
  | fuel + 1, '{' :: rest =>
    match takeField rest with
    | some (f, rest) => .field f :: bracePieces fuel rest
    | none => [.broken]
  | _ + 1, '}' :: _ => [.broken]
  | fuel + 1, c :: rest => .literal c :: bracePieces fuel rest

/-- How the arguments of a template are counted: by the order of its fields, or by their names. -/
inductive Counting where
  | undecided
  | inOrder (next : Nat)
  | named
deriving DecidableEq

/-- The number that a text in a field is, if it is one; numbers must not be too large. -/
def numberName? (s : List Char) : Except Fault (Option Nat) :=
  match leadingNumber s with
  | (some n, []) => if n < Layout.numberLimit then .ok (some n) else .error .wrongValue
  | _ => .ok none

/-- The position of the argument that a field names. Fields without a name take the arguments in
order, and a template cannot mix the two. -/
def position (name : List Char) (counting : Counting) : Except Fault (Nat × Counting) := do
  if name.isEmpty then
    match counting with
    | .named => .error .wrongValue
    | .undecided => return (0, .inOrder 1)
    | .inOrder n => return (n, .inOrder (n + 1))
  else
    match ← numberName? name with
    | some n => if counting matches .inOrder _ then .error .wrongValue else return (n, .named)
    | none => .error .missingKey

/-- Whether a character starts a member or an element in the name of a field. -/
def startsMember (c : Char) : Bool := c = '.' || c = '['

/-- What the members and elements after the name of an argument lead to. Each takes at least one
character of the name, so the first argument may be their number. -/
def followMembers (view : View) : Nat → Value → List Char → Except Fault Value
  | 0, v, _ | _, v, [] => .ok v
  | fuel + 1, v, '.' :: rest => do
    let name := rest.takeWhile fun c => !startsMember c
    if name.isEmpty then .error .wrongValue
    let v ← v.member view (String.ofList name)
    followMembers view fuel v (rest.dropWhile fun c => !startsMember c)
  | fuel + 1, v, '[' :: rest => do
    let key := rest.takeWhile (· ≠ ']')
    match rest.dropWhile (· ≠ ']') with
    | [] => .error .wrongValue
    | _ :: rest =>
      let number ← numberName? key
      if key.isEmpty then .error .wrongValue
      let v ← match number with
        | some n => v.pickAt view n
        | none => v.pickNamed view (String.ofList key)
      followMembers view fuel v rest
  | _ + 1, _, _ => .error .wrongValue

/-- The value that a field shows. -/
def Field.value (view : View) (args : List Value) (f : Field) (counting : Counting) :
    Except Fault (Value × Counting) := do
  let (n, counting) ← position (f.name.takeWhile fun c => !startsMember c) counting
  match args[n]? with
  | none => .error .badIndex
  | some v =>
    let v ← followMembers view f.name.length v (f.name.dropWhile fun c => !startsMember c)
    return (v, counting)

/-- A text in which characters beyond ASCII are written by their numbers. -/
def asciiText (s : String) : String :=
  String.ofList (s.toList.flatMap fun c => if c.toNat < 128 then [c] else Text.escapeCode c.toNat)

/-- A value as the conversion of a field shows it. -/
def convert (view : View) (conversion : Option Char) (v : Value) : Except Fault Value :=
  match conversion with
  | none => .ok v
  | some 's' => .ok (.text (v.display view))
  | some 'r' => .ok (.text (v.description view))
  | some 'a' => .ok (.text (asciiText (v.description view)))
  | some _ => .error .wrongValue

/-- Fills the pieces in order; `expand` fills the fields within the layout of a field. -/
def fillBracePieces (view : View) (args : List Value)
    (expand : Counting → List Char → Except Fault (String × Counting)) (counting : Counting) :
    List BracePiece → Except Fault (String × Counting)
  | [] => .ok ("", counting)
  | .broken :: _ => .error .wrongValue
  | .literal c :: rest => do
    let (s, counting) ← fillBracePieces view args expand counting rest
    return (String.singleton c ++ s, counting)
  | .field f :: rest => do
    let (v, counting) ← f.value view args counting
    let v ← convert view f.conversion v
    let (layout, counting) ←
      if '{' ∈ f.layout then (fun (s, c) => (s.toList, c)) <$> expand counting f.layout
      else pure (f.layout, counting)
    let shown ← laidOut view layout v
    let (s, counting) ← fillBracePieces view args expand counting rest
    return (shown ++ s, counting)

/-- Fills a template whose layouts may hold fields down to a depth. -/
def fillNested (view : View) (args : List Value) :
    Nat → Counting → List Char → Except Fault (String × Counting)
  | 0, _, _ => .error .wrongValue
  | depth + 1, counting, s =>
    fillBracePieces view args (fillNested view args depth) counting (bracePieces s.length s)

/-- A template with fields in braces, filled with its arguments. Doubled braces stand for single
ones, and arguments may be left over. -/
def fillBraces (view : View) (template : String) (args : List Value) : Except Fault String :=
  Prod.fst <$> fillNested view args 2 .undecided template.toList

/-! ## Directives with a percent sign -/

/-- A number in a directive, or the next argument in its place. -/
inductive Size where
  | given (n : Nat)
  | argument

/-- A directive: the key of its argument, if it has one, flags, a width, a precision and the letter
of a kind, which may be missing at the end of a template. -/
structure Directive where
  key : Option (List Char)
  flags : List Char
  width : Size
  precision : Option Size
  kind : Option Char

inductive PercentPiece where
  | literal (c : Char)
  | directive (d : Directive)
  /-- A key without an end. -/
  | unclosed

/-- A key up to the bracket that closes it, and what follows. -/
def takeKey (depth : Nat) (seen : List Char) : List Char → Option (List Char × List Char)
  | [] => none
  | c :: rest =>
    if c = '(' then takeKey (depth + 1) (c :: seen) rest
    else if c = ')' then
      match depth with
      | 0 => some (seen.reverse, rest)
      | depth + 1 => takeKey depth (c :: seen) rest
    else takeKey depth (c :: seen) rest

/-- A number in ASCII digits, or a star. -/
def takeSize : List Char → Size × List Char
  | '*' :: rest => (.argument, rest)
  | s => (.given (Nat.ofDigitChars 10 (s.takeWhile Char.isDigit) 0), s.dropWhile Char.isDigit)

/-- What follows the key of a directive. -/
def takeDirective (key : Option (List Char)) (s : List Char) : Directive × List Char :=
  let isFlag := fun c => c ∈ ['-', '+', ' ', '#', '0']
  let flags := s.takeWhile isFlag
  let (width, s) := takeSize (s.dropWhile isFlag)
  let (precision, s) := match s with
    | '.' :: s =>
      let (p, s) := takeSize s
      (some p, s)
    | s => (none, s)
  let (_, s) := Layout.takeOne ['h', 'l', 'L'] s
  (⟨key, flags, width, precision, s.head?⟩, s.drop 1)

/-- The pieces of a template. Each takes at least one character, so the first argument may be the
number of characters. -/
def percentPieces : Nat → List Char → List PercentPiece
  | 0, _ | _, [] => []
  | fuel + 1, '%' :: '%' :: rest => .literal '%' :: percentPieces fuel rest
  | fuel + 1, '%' :: '(' :: rest =>
    match takeKey 0 [] rest with
    | none => [.unclosed]
    | some (key, rest) =>
      let (d, rest) := takeDirective (some key) rest
      .directive d :: percentPieces fuel rest
  | fuel + 1, '%' :: rest =>
    let (d, rest) := takeDirective none rest
    .directive d :: percentPieces fuel rest
  | fuel + 1, c :: rest => .literal c :: percentPieces fuel rest

/-- The options of a directive whose sizes are known. -/
structure Options where
  flags : List Char
  width : Nat
  precision : Option Nat

namespace Options

def isLeft (o : Options) : Bool := '-' ∈ o.flags

/-- A number as a directive shows it. -/
def number (o : Options) (negative : Bool) (f : Figure) : String :=
  let sign := Layout.signText
    (if '+' ∈ o.flags then some '+' else if ' ' ∈ o.flags then some ' ' else none) negative
  let (place, fill) : Alignment × Char :=
    if o.isLeft then (.left, ' ')
    else if '0' ∈ o.flags then (.afterSign, '0') else (.right, ' ')
  String.ofList (pad place fill o.width (sign ++ f.base) (f.digits ++ f.rest))

/-- A whole number as a directive shows it; the precision is the least number of digits. -/
def whole (o : Options) (base : Nat) (upper : Bool) (n : Int) : String :=
  let f := Figure.ofNat base upper ('#' ∈ o.flags) n.natAbs
  o.number (n < 0) { f with digits := grouped none 3 (o.precision.getD 0) f.digits }

def double (o : Options) (style : DigitStyle) (upper : Bool) (x : Double) : String :=
  let form : DoubleForm :=
    { style, upper, precision := o.precision.getD 6, alternate := '#' ∈ o.flags }
  let (negative, f) := form.figure x
  o.number negative f

/-- A text as a directive shows it. -/
def text (o : Options) (s : String) : String :=
  let s := match o.precision with
    | some p => String.ofList (s.toList.take p)
    | none => s
  padText (if o.isLeft then .left else .right) ' ' o.width s

end Options

/-- The whole number of a value that counts as a number. -/
def wholeOf (v : Value) : Except Fault Int :=
  match v with
  | .text _ | .bytes _ => .error .wrongType
  | v => v.toInt

def doubleOf (v : Value) : Except Fault Double :=
  match v with
  | .text _ | .textItem _ | .bytes _ => .error .wrongType
  | v => v.toDouble

/-- A character, given as itself or by its number. -/
def characterOf (v : Value) : Except Fault String := do
  match v.text? with
  | some s => if s.length = 1 then return s else .error .wrongType
  | none =>
    let n ← v.toIndex
    if n < 0 ∨ 0x10ffff < n then .error .overflow
    return String.singleton (Char.ofNat n.toNat)

/-- An argument as a directive of the given kind shows it. -/
def fillDirective (view : View) (o : Options) (kind : Char) (v : Value) : Except Fault String := do
  match kind with
  | 's' => return o.text (v.display view)
  | 'r' => return o.text (v.description view)
  | 'a' => return o.text (asciiText (v.description view))
  | 'd' | 'i' | 'u' => return o.whole 10 false (← wholeOf v)
  | 'x' => return o.whole 16 false (← v.toIndex)
  | 'X' => return o.whole 16 true (← v.toIndex)
  | 'o' => return o.whole 8 false (← v.toIndex)
  | 'e' => return o.double .exponent false (← doubleOf v)
  | 'E' => return o.double .exponent true (← doubleOf v)
  | 'f' => return o.double .fixed false (← doubleOf v)
  | 'F' => return o.double .fixed true (← doubleOf v)
  | 'g' => return o.double .general false (← doubleOf v)
  | 'G' => return o.double .general true (← doubleOf v)
  | 'c' => return { o with precision := none }.text (← characterOf v)
  | _ => .error .wrongValue

/-- The arguments that are left, and the value in which keys are looked up. -/
structure Supply where
  args : List Value
  keyed : Option Value

/-- The next argument. -/
def Supply.take (s : Supply) : Except Fault (Value × Supply) :=
  match s.args with
  | [] => .error .wrongType
  | v :: args => .ok (v, { s with args })

/-- A size below a limit as a number; an argument in its place must be a whole number. -/
def Supply.size (s : Supply) (limit : Nat) : Size → Except Fault (Int × Supply)
  | .given n => if n < limit then .ok (n, s) else .error .wrongValue
  | .argument => do
    let (v, s) ← s.take
    match v with
    | .int n => if -(limit : Int) ≤ n ∧ n < limit then return (n, s) else .error .overflow
    | .refusal r => return (r.code, s)
    | .bool b => return (truthNumber b, s)
    | _ => .error .wrongType

/-- The options of a directive; a negative width asks for the left. -/
def Supply.options (s : Supply) (d : Directive) : Except Fault (Options × Supply) := do
  let (width, s) ← s.size (power 2 63) d.width
  let flags := if width < 0 then '-' :: d.flags else d.flags
  match d.precision with
  | none => return (⟨flags, width.natAbs, none⟩, s)
  | some p =>
    let (precision, s) ← s.size (power 2 31) p
    return (⟨flags, width.natAbs, some precision.toNat⟩, s)

/-- The argument of a key takes the place of those that are left. -/
def Supply.atKey (view : View) (s : Supply) (key : Option (List Char)) : Except Fault Supply :=
  match key, s.keyed with
  | none, _ => .ok s
  | some _, none => .error .wrongType
  | some key, some v => do
    return { s with args := [← v.pickNamed view (String.ofList key)] }

/-- Fills the pieces in order. No argument may be left over, unless there are keys. -/
def fillPercentPieces (view : View) : Supply → List PercentPiece → Except Fault String
  | s, [] => if s.keyed.isNone && !s.args.isEmpty then .error .wrongType else .ok ""
  | s, .unclosed :: _ => .error (if s.keyed.isNone then .wrongType else .wrongValue)
  | s, .literal c :: rest => return String.singleton c ++ (← fillPercentPieces view s rest)
  | s, .directive d :: rest => do
    let s ← s.atKey view d.key
    let (o, s) ← s.options d
    match d.kind with
    | none => .error .wrongValue
    | some kind =>
      let (v, s) ← s.take
      let shown ← fillDirective view o kind v
      return shown ++ (← fillPercentPieces view s rest)

/-- A template with percent directives, filled with its arguments. A doubled percent sign stands for
a single one. -/
def fillPercent (view : View) (template : String) (supply : Supply) : Except Fault String :=
  fillPercentPieces view supply (percentPieces template.toList.length template.toList)

/-- What a value supplies: the elements of a tuple, or itself. -/
def Supply.ofValue : Value → Supply
  | .tuple xs => ⟨xs, none⟩
  | v => ⟨[v], if v.isSubscripted then some v else none⟩

/-! ## The text of a template without fields -/

/-- Characters without braces are pieces of their own. -/
theorem bracePieces_of_plain {cs : List Char} (h : ∀ c ∈ cs, c ≠ '{' ∧ c ≠ '}') :
    bracePieces cs.length cs = cs.map .literal := by
  induction cs with
  | nil => rfl
  | cons c rest ih =>
    obtain ⟨hopen, hclose⟩ := h c List.mem_cons_self
    have hrest := ih fun d hd => h d (List.mem_cons_of_mem c hd)
    simp [bracePieces, hopen, hclose, hrest]

theorem fillBracePieces_literals (view : View) (args : List Value)
    (expand : Counting → List Char → Except Fault (String × Counting)) (cs : List Char) :
    fillBracePieces view args expand .undecided (cs.map .literal) =
      .ok (String.ofList cs, .undecided) := by
  induction cs with
  | nil => rfl
  | cons c rest ih =>
    rw [List.map_cons, fillBracePieces, ih]
    simp [bind, Except.bind, pure, Except.pure]

/-- A template without braces is its own text, whatever the arguments. -/
theorem fillBraces_of_plain (view : View) (s : String) (args : List Value)
    (h : ∀ c ∈ s.toList, c ≠ '{' ∧ c ≠ '}') : fillBraces view s args = .ok s := by
  rw [fillBraces, fillNested, bracePieces_of_plain h, fillBracePieces_literals]
  simp [Functor.map, Except.map]

end Milp.Template

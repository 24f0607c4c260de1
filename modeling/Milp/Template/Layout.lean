import Milp.Template.Figure
import Milp.Value.Text
set_option autoImplicit false

/-! # Layouts

A field may say how its value is laid out: a fill character and an alignment, a sign, a width, a mark
between groups of digits, a precision and the letter of a kind. Texts and numbers accept layouts, each
with letters of their own; other values accept none. -/

namespace Milp.Template

structure Layout where
  fill : Char := ' '
  place : Option Alignment := none
  /-- Whether a zero stands before the width. -/
  zeros : Bool := false
  sign : Option Char := none
  /-- Whether a zero never has a minus sign. -/
  noNegativeZero : Bool := false
  alternate : Bool := false
  width : Nat := 0
  separator : Option Char := none
  precision : Option Nat := none
  kind : Option Char := none

namespace Layout

def alignment? : Char → Option Alignment
  | '<' => some .left
  | '>' => some .right
  | '^' => some .center
  | '=' => some .afterSign
  | _ => none

/-- The alignment that starts a layout, with its fill character, if there is one. -/
def takePlace : List Char → Option Char × Option Alignment × List Char
  | f :: a :: rest =>
    match alignment? a, alignment? f with
    | some p, _ => (some f, some p, rest)
    | none, some p => (none, some p, a :: rest)
    | none, none => (none, none, f :: a :: rest)
  | [a] =>
    match alignment? a with
    | some p => (none, some p, [])
    | none => (none, none, [a])
  | [] => (none, none, [])

/-- Takes a character that one of some may be. -/
def takeOne (cs : List Char) : List Char → Option Char × List Char
  | c :: rest => if c ∈ cs then (some c, rest) else (none, c :: rest)
  | [] => (none, [])

/-- Numbers in layouts are smaller than this. -/
def numberLimit : Nat := power 2 63

/-- The mark between groups of digits; the two marks exclude each other. -/
def takeSeparator (s : List Char) : Except Fault (Option Char × List Char) :=
  let (comma, s) := takeOne [','] s
  let (bar, s) := takeOne ['_'] s
  match comma, bar, s with
  | some _, some _, _ | _, some _, ',' :: _ => .error .wrongValue
  | _, _, _ => .ok (comma.or bar, s)

/-- The precision after a point. -/
def takePrecision : List Char → Except Fault (Option Nat × List Char)
  | '.' :: s =>
    match leadingNumber s with
    | (some p, rest) => if p < numberLimit then .ok (some p, rest) else .error .wrongValue
    | (none, _) => .error .wrongValue
  | s => .ok (none, s)

/-- Whether digits of a kind can be grouped with a separator. -/
def canGroup (separator : Char) : Option Char → Bool
  | none => true
  | some c => c ∈ ['d', 'e', 'f', 'g', 'E', 'G', '%', 'F'] ||
    (separator = '_' && c ∈ ['b', 'o', 'x', 'X'])

def ofChars (s : List Char) : Except Fault Layout := do
  let (fill, place, s) := takePlace s
  let (sign, s) := takeOne [' ', '+', '-'] s
  let (z, s) := takeOne ['z'] s
  let (mark, s) := takeOne ['#'] s
  let (zero, s) := if fill.isNone then takeOne ['0'] s else (none, s)
  let (width, s) := leadingNumber s
  if numberLimit ≤ width.getD 0 then .error .wrongValue
  let (separator, s) ← takeSeparator s
  let (precision, s) ← takePrecision s
  let kind ← match s with
    | [] => pure none
    | [c] => pure (some c)
    | _ => .error .wrongValue
  if separator.any fun c => !canGroup c kind then .error .wrongValue
  return { fill := fill.getD (if zero.isSome then '0' else ' '), place, zeros := zero.isSome, sign,
           noNegativeZero := z.isSome, alternate := mark.isSome, width := width.getD 0, separator,
           precision, kind }

/-! ## Texts -/

/-- A text under a layout, which can cut it. -/
def text (l : Layout) (s : String) : Except Fault String := do
  if l.kind.getD 's' ≠ 's' ∨ l.sign.isSome ∨ l.noNegativeZero ∨ l.alternate ∨ l.separator.isSome ∨
      l.place = some .afterSign then .error .wrongValue
  let s := match l.precision with
    | some p => String.ofList (s.toList.take p)
    | none => s
  return padText (l.place.getD .left) l.fill l.width s

/-! ## Numbers -/

/-- Where a number stands: zeros before the width go after the sign. -/
def numberPlace (l : Layout) : Alignment :=
  l.place.getD (if l.zeros then .afterSign else .right)

/-- The sign that is shown. -/
def signText (sign : Option Char) (negative : Bool) : List Char :=
  if negative then ['-']
  else
    match sign with
    | some '+' => ['+']
    | some ' ' => [' ']
    | _ => []

/-- The digits of binary, octal and hexadecimal numbers stand in groups of four. -/
def groupSize (l : Layout) : Nat :=
  match l.kind with
  | some 'b' | some 'o' | some 'x' | some 'X' => 4
  | _ => 3

/-- A figure with its sign, filled up to the width of the layout. -/
def number (l : Layout) (negative : Bool) (f : Figure) : String :=
  let negative := negative && !(l.noNegativeZero && f.isZero)
  let head := signText l.sign negative ++ f.base
  let place := l.numberPlace
  let inner := if l.fill = '0' ∧ place = .afterSign then l.width - (head.length + f.rest.length) else 0
  let digits := if f.digits.isEmpty then [] else grouped l.separator l.groupSize inner f.digits
  String.ofList (pad place l.fill l.width head (digits ++ f.rest))

/-- How doubles are written under a layout; `none` is what a double is written like without a kind
and a precision. -/
def doubleForm (l : Layout) : Except Fault DoubleForm :=
  let precision := l.precision.getD 6
  if power 2 31 ≤ precision then .error .wrongValue
  else match l.kind with
  | none =>
    .ok (match l.precision with
      | none => { style := .shortest, precision := 0, alternate := l.alternate, fraction := true }
      | some p => { style := .general, precision := p, alternate := l.alternate, fraction := true })
  | some 'e' => .ok { style := .exponent, precision, alternate := l.alternate }
  | some 'E' => .ok { style := .exponent, precision, upper := true, alternate := l.alternate }
  | some 'f' | some '%' => .ok { style := .fixed, precision, alternate := l.alternate }
  | some 'F' => .ok { style := .fixed, precision, upper := true, alternate := l.alternate }
  | some 'g' | some 'n' => .ok { style := .general, precision, alternate := l.alternate }
  | some 'G' => .ok { style := .general, precision, upper := true, alternate := l.alternate }
  | _ => .error .wrongValue

/-- A double under a layout; one with a percent sign is shown in hundredths. -/
def double (l : Layout) (x : Double) : Except Fault String := do
  let form ← l.doubleForm
  if l.kind = some '%' then
    let (negative, f) := form.figure (x * Double.ofInt 100)
    return l.number negative { f with rest := f.rest ++ ['%'] }
  else
    let (negative, f) := form.figure x
    return l.number negative f

/-- A whole number as the character with that number. -/
def character (l : Layout) (n : Int) : Except Fault String := do
  if l.sign.isSome ∨ l.alternate then .error .wrongValue
  if n < 0 ∨ 0x10ffff < n then .error .overflow
  return l.number false { digits := [], rest := [Char.ofNat n.toNat] }

/-- A whole number under a layout; kinds of doubles take it as one. -/
def whole (l : Layout) (n : Int) : Except Fault String := do
  let integral (base : Nat) (upper : Bool) : Except Fault String := do
    if l.precision.isSome ∨ l.noNegativeZero then .error .wrongValue
    return l.number (n < 0) (Figure.ofNat base upper l.alternate n.natAbs)
  match l.kind with
  | none | some 'd' | some 'n' => integral 10 false
  | some 'b' => integral 2 false
  | some 'o' => integral 8 false
  | some 'x' => integral 16 false
  | some 'X' => integral 16 true
  | some 'c' => if l.precision.isSome ∨ l.noNegativeZero then .error .wrongValue else l.character n
  | some c =>
    if c ∈ ['e', 'E', 'f', 'F', 'g', 'G', '%'] then do l.double (← Number.doubleOf n)
    else .error .wrongValue

/-- The form of the parts of a complex number. -/
def complexForm (l : Layout) : Except Fault DoubleForm := do
  if l.kind = some '%' then .error .wrongValue
  let form ← l.doubleForm
  return { form with fraction := false }

/-- A complex number under a layout. Without a kind, its real part is left out if it is a positive
zero, and both parts stand in brackets if not. -/
def complex (l : Layout) (re im : Double) : Except Fault String := do
  let form ← l.complexForm
  if l.fill = '0' ∨ l.place = some .afterSign then .error .wrongValue
  let alone := l.kind.isNone && re = Double.zero
  let bare : Layout := { l with fill := ' ', width := 0 }
  let part (l : Layout) (x : Double) : String :=
    let (negative, f) := form.figure x
    l.number negative f
  let imaginary := part (if alone then bare else { bare with sign := some '+' }) im ++ "j"
  let s := if alone then imaginary else part bare re ++ imaginary
  let s := if l.kind.isNone && !alone then "(" ++ s ++ ")" else s
  return padText (l.place.getD .right) l.fill l.width s

end Layout

/-- A plain number under a layout. -/
def numberLaidOut (l : Layout) : Number → Except Fault String
  | .truth b => l.whole (truthNumber b)
  | .int n => l.whole n
  | .float x => l.double x
  | .complex re im => l.complex re im
  | .refusal r => l.whole r.code
  | .item _ | .cell _ => .error .wrongType

/-- A value as a field shows it under a layout, which only texts and numbers accept. -/
def laidOut (view : View) (layout : List Char) (v : Value) : Except Fault String :=
  if layout.isEmpty then .ok (v.display view)
  else
    match v with
    | .text s | .textItem s => do (← Layout.ofChars layout).text s
    | .sense _ | .direction _ => do (← Layout.ofChars layout).text (v.display view)
    | .number x => do numberLaidOut (← Layout.ofChars layout) x.plain
    | .cell _ v => laidOut view layout v
    | _ => .error .wrongType

end Milp.Template

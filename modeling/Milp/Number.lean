import Milp.Code
import Milp.Double.Text
import Milp.Fault
set_option autoImplicit false

/-! # Numbers

Truth values, whole numbers of any size, doubles and complex numbers stay apart: a bound given as `0`
is shown as `0` and one given as `0.0` as `0.0`. Plain numbers are compared exactly, on one number
line (`Number.place?`). The status of a refused call (`Number.refusal`) is a whole number in all but
how it is quoted: it keeps the name of its cause.

A number may also come from a numeric array, whose elements are of one kind each (`Element`): it is
an element that was taken out (`Number.item`), or an array without dimensions, which holds one
(`Number.cell`). Elements have their own arithmetic: whole numbers have 64 bits, and a plain number
that meets one is taken as an element first. -/

namespace Milp

/-! ## Elements of arrays -/

/-- An element of a numeric array. Whole numbers have 64 bits, with a sign or without. -/
inductive Element where
  | truth (b : Bool)
  | signed (n : Int)
  | unsigned (n : Int)
  | real (x : Double)
  | complex (re im : Double)
deriving DecidableEq

/-- The kinds of elements. -/
inductive NumberKind where
  | truth
  | signed
  | unsigned
  | real
  | complex
deriving DecidableEq, Repr

namespace NumberKind

/-- The kind that two kinds are brought to before their elements meet. -/
def join : NumberKind → NumberKind → NumberKind
  | complex, _ | _, complex => complex
  | real, _ | _, real => real
  | truth, k | k, truth => k
  | signed, signed => signed
  | unsigned, unsigned => unsigned
  | signed, unsigned | unsigned, signed => real

theorem join_self (k : NumberKind) : k.join k = k := by cases k <;> rfl

theorem join_comm (k l : NumberKind) : k.join l = l.join k := by cases k <;> cases l <;> rfl

end NumberKind

def truthNumber (b : Bool) : Int := if b then 1 else 0

namespace Element

def kind : Element → NumberKind
  | truth _ => .truth
  | signed _ => .signed
  | unsigned _ => .unsigned
  | real _ => .real
  | complex .. => .complex

/-- The whole number that an element is, if it is of a kind of whole numbers. -/
def whole? : Element → Option Int
  | truth b => some (truthNumber b)
  | signed n | unsigned n => some n
  | _ => none

/-- The real part of an element. -/
def realPart : Element → Double
  | truth b => Double.ofInt (truthNumber b)
  | signed n | unsigned n => Double.ofInt n
  | real x => x
  | complex re _ => re

def imaginaryPart : Element → Double
  | complex _ im => im
  | _ => Double.zero

/-- Whether whole numbers fit the elements of a kind. -/
def fits : NumberKind → Int → Bool
  | .unsigned, n => 0 ≤ n && n < power 2 64
  | _, n => -(power 2 63 : Int) ≤ n && n < power 2 63

/-- A whole number cut to the bits of a kind. -/
def ofWhole (k : NumberKind) (n : Int) : Element :=
  match k with
  | .unsigned => unsigned (n % power 2 64)
  | _ => signed (Int.bmod n (power 2 64))

/-- An element as one of a greater kind. -/
def toKind (k : NumberKind) (e : Element) : Element :=
  match k, e.whole? with
  | .truth, some n => truth (n ≠ 0)
  | .signed, some n => ofWhole .signed n
  | .unsigned, some n => ofWhole .unsigned n
  | .complex, _ => complex e.realPart e.imaginaryPart
  | _, _ => real e.realPart

end Element

/-! ## The type -/

inductive Number where
  | truth (b : Bool)
  | int (n : Int)
  | float (x : Double)
  | complex (re im : Double)
  /-- The status of a refused call. -/
  | refusal (r : Refusal)
  /-- An element taken out of an array. -/
  | item (e : Element)
  /-- An array without dimensions, which holds one element. -/
  | cell (e : Element)
deriving DecidableEq

namespace Number

/-- The element of an array that a number is or holds. -/
def element? : Number → Option Element
  | item e | cell e => some e
  | _ => none

/-- The plain number that an element stands for. -/
def ofElement : Element → Number
  | .truth b => truth b
  | .signed n | .unsigned n => int n
  | .real x => float x
  | .complex re im => complex re im

/-- A number without regard to arrays and to the names of refusals. -/
def plain : Number → Number
  | item e | cell e => ofElement e
  | refusal r => int r.code
  | x => x

/-- The whole number that a number is. -/
def whole? : Number → Option Int
  | truth b => some (truthNumber b)
  | int n => some n
  | refusal r => some r.code
  | item e | cell e => e.whole?
  | _ => none

/-- The kind of element that a number becomes in an array of its own; none for a whole number that
fits no element. -/
def kind? : Number → Option NumberKind
  | truth _ => some .truth
  | int n =>
    if Element.fits .signed n then some .signed
    else if Element.fits .unsigned n then some .unsigned
    else none
  | float _ => some .real
  | complex .. => some .complex
  | refusal _ => some .signed
  | item e | cell e => some e.kind

/-- The least kind that can take a number that meets elements of a kind. -/
def meetingKind (k : NumberKind) : Number → NumberKind
  | truth _ => k
  | int _ | refusal _ => if k = .truth then .signed else k
  | float _ => k.join .real
  | complex .. => .complex
  | item e | cell e => k.join e.kind

/-- The kind in which two numbers meet, of which one is from an array. -/
def jointKind (x y : Number) : NumberKind :=
  match x.element?, y.element? with
  | some e, _ => y.meetingKind e.kind
  | none, some e => x.meetingKind e.kind
  | none, none => .real

/-- The nearest double of a whole number, unless it is too large to have one. -/
def doubleOf (n : Int) : Except Fault Double :=
  if (Double.ofInt n).isFinite then .ok (Double.ofInt n) else .error .overflow

/-- A number as an element of a kind. -/
def toElement (k : NumberKind) (x : Number) : Except Fault Element :=
  match x.plain, k with
  | int n, .real => .real <$> doubleOf n
  | int n, .complex => (Element.complex · Double.zero) <$> doubleOf n
  | int n, _ =>
    if x.element?.isSome then .ok ((Element.signed n).toKind k)
    else if Element.fits k n then .ok (Element.ofWhole k n) else .error .overflow
  | truth b, _ => .ok ((Element.truth b).toKind k)
  | float x, _ => .ok ((Element.real x).toKind k)
  | complex re im, _ => .ok ((Element.complex re im).toKind k)
  | refusal r, _ => .ok ((Element.signed r.code).toKind k)
  | item e, _ | cell e, _ => .ok (e.toKind k)

/-! ## Order -/

/-- Where a number stands; none for not-a-number and for complex numbers. -/
def place? : Number → Option Place
  | truth b => some (.point (truthNumber b * stepsPerUnit))
  | int n => some (.point (n * stepsPerUnit))
  | float x => x.place?
  | complex .. => none
  | refusal r => some (.point (r.code * stepsPerUnit))
  | item e | cell e =>
    match e.whole? with
    | some n => some (.point (n * stepsPerUnit))
    | none => if e.kind = .real then e.realPart.place? else none

/-- Complex elements are ordered by their real parts, and by the imaginary ones where those are
equal. -/
def complexOrder (strict : Double → Double → Bool) (last : Double → Double → Bool)
    (a b : Element) : Bool :=
  strict a.realPart b.realPart ||
    (a.realPart.eq b.realPart && last a.imaginaryPart b.imaginaryPart)

/-- The order of two numbers by an order of places and of doubles. Plain complex numbers have none.
Elements meet in one kind first, unless both are whole numbers. -/
def compareBy (places : Place → Place → Bool) (doubles : Double → Double → Bool) (x y : Number) :
    Except Fault Bool := do
  match x.element?, y.element? with
  | none, none =>
    match x, y with
    | complex .., _ | _, complex .. => .error .wrongType
    | _, _ =>
      match x.place?, y.place? with
      | some p, some q => return places p q
      | _, _ => return false
  | _, _ =>
    match x.whole?, y.whole? with
    | some m, some n => return places (.point m) (.point n)
    | _, _ =>
      let a ← x.toElement (jointKind x y)
      let b ← y.toElement (jointKind x y)
      if jointKind x y = .complex then return complexOrder Double.lt doubles a b
      else return doubles a.realPart b.realPart

/-- Strict order; false when one of the two is not-a-number. -/
def lt (x y : Number) : Except Fault Bool := compareBy Place.lt Double.lt x y

/-- Order; false when one of the two is not-a-number. -/
def le (x y : Number) : Except Fault Bool := compareBy Place.le Double.le x y

/-- A plain number as real and imaginary part. -/
def parts : Number → Number × Double
  | complex re im => (float re, im)
  | x => (x, Double.zero)

/-- Numeric equality of plain numbers, also between different kinds. -/
def same (x y : Number) : Bool :=
  let (a, b) := x.plain.parts
  let (c, d) := y.plain.parts
  b.eq d &&
    match a.place?, c.place? with
    | some p, some q => decide (p = q)
    | _, _ => false

/-- Numeric equality. Elements meet in one kind first, unless both are whole numbers. -/
def eq (x y : Number) : Except Fault Bool :=
  match x.element?, y.element? with
  | none, none => .ok (same x y)
  | _, _ =>
    match x.whole?, y.whole? with
    | some m, some n => .ok (m = n)
    | _, _ => do
      let a ← x.toElement (jointKind x y)
      let b ← y.toElement (jointKind x y)
      return a.realPart.eq b.realPart && a.imaginaryPart.eq b.imaginaryPart

/-- Whether a number counts as true: zero does not. -/
def truthy (x : Number) : Bool := !same x (int 0)

/-! ## Conversions -/

/-- The double that a number stands for, unless it is too large to have one. -/
def toDouble : Number → Except Fault Double
  | truth b => .ok (Double.ofInt (truthNumber b))
  | int n => doubleOf n
  | float x => .ok x
  | complex .. => .error .wrongType
  | refusal r => doubleOf r.code
  | item e => .ok e.realPart
  | cell e => if e.kind = .complex then .error .wrongType else .ok e.realPart

/-- The whole number that `round` takes from a finite double; not-a-number has none, and an infinity
is too large for one. -/
private def wholeOf (round : Double → Option Int) (x : Double) : Except Fault Int :=
  match round x with
  | some n => .ok n
  | none => .error (if x.isNaN then .wrongValue else .overflow)

/-- A whole number stays as it is; any other number is rounded as a double. -/
private def toWhole (round : Double → Option Int) (x : Number) : Except Fault Int := do
  match x with
  | truth b => return truthNumber b
  | int n => return n
  | refusal r => return r.code
  | x => wholeOf round (← x.toDouble)

/-- The greatest whole number not above. -/
def floor (x : Number) : Except Fault Int := toWhole Double.floor? x

/-- The least whole number not below. -/
def ceil (x : Number) : Except Fault Int := toWhole Double.ceil? x

/-- The number without its fraction. -/
def truncate (x : Number) : Except Fault Int :=
  match x.whole? with
  | some n => .ok n
  | none => toWhole Double.truncate? x

/-! ## Arithmetic -/

/-- An operation on numbers, for each of the kinds of operands. -/
structure Operation where
  whole : Int → Int → Int
  double : Double → Double → Double
  complex : Double × Double → Double × Double → Double × Double
  /-- On truth values that are elements of arrays; none if they do not have it. -/
  truth : Option (Bool → Bool → Bool)

namespace Operation

/-- The difference of two doubles. -/
def minus (x y : Double) : Double := x + -y

def sum : Operation where
  whole := (· + ·)
  double := (· + ·)
  complex a b := (a.1 + b.1, a.2 + b.2)
  truth := some (· || ·)

def difference : Operation where
  whole := (· - ·)
  double := minus
  complex a b := (minus a.1 b.1, minus a.2 b.2)
  truth := none

def product : Operation where
  whole := (· * ·)
  double := (· * ·)
  complex a b := (minus (a.1 * b.1) (a.2 * b.2), a.1 * b.2 + a.2 * b.1)
  truth := some (· && ·)

/-- The operation on two elements of one kind. -/
def onElements (o : Operation) (a b : Element) : Except Fault Element :=
  match a, b with
  | .truth x, .truth y =>
    match o.truth with
    | some f => .ok (.truth (f x y))
    | none => .error .wrongType
  | .signed m, .signed n => .ok (Element.ofWhole .signed (o.whole m n))
  | .unsigned m, .unsigned n => .ok (Element.ofWhole .unsigned (o.whole m n))
  | .real x, .real y => .ok (.real (o.double x y))
  | a, b =>
    let c := o.complex (a.realPart, a.imaginaryPart) (b.realPart, b.imaginaryPart)
    .ok (.complex c.1 c.2)

/-- The real and imaginary part of a plain number, as doubles. -/
def pairOf (x : Number) : Except Fault (Double × Double) := do
  match x with
  | .complex re im => return (re, im)
  | x => return (← x.toDouble, Double.zero)

/-- The operation on two numbers. Elements of arrays meet in one kind, and so do plain numbers; a
whole number is rounded to a double before it meets one. -/
def apply (o : Operation) (x y : Number) : Except Fault Number := do
  match x.element?, y.element? with
  | none, none =>
    match x.whole?, y.whole? with
    | some m, some n => return int (o.whole m n)
    | _, _ =>
      match x, y with
      | .complex .., _ | _, .complex .. =>
        let c := o.complex (← pairOf x) (← pairOf y)
        return .complex c.1 c.2
      | _, _ => return float (o.double (← x.toDouble) (← y.toDouble))
  | _, _ =>
    let k := jointKind x y
    return item (← o.onElements (← x.toElement k) (← y.toElement k))

end Operation

def add (x y : Number) : Except Fault Number := Operation.sum.apply x y

def sub (x y : Number) : Except Fault Number := Operation.difference.apply x y

def mul (x y : Number) : Except Fault Number := Operation.product.apply x y

/-- The opposite of an element; truth values have none. -/
def negElement : Element → Except Fault Element
  | .truth _ => .error .wrongType
  | .signed n => .ok (Element.ofWhole .signed (-n))
  | .unsigned n => .ok (Element.ofWhole .unsigned (-n))
  | .real x => .ok (.real (-x))
  | .complex re im => .ok (.complex (-re) (-im))

def neg : Number → Except Fault Number
  | truth b => .ok (int (-truthNumber b))
  | int n => .ok (int (-n))
  | float x => .ok (float (-x))
  | complex re im => .ok (complex (-re) (-im))
  | refusal r => .ok (int (-r.code))
  | item e | cell e => item <$> negElement e

/-- The greater of two numbers: the first one unless the second is strictly greater. -/
def max (x y : Number) : Except Fault Number := return if ← x.lt y then y else x

/-- The smaller of two numbers: the first one unless the second is strictly smaller. -/
def min (x y : Number) : Except Fault Number := return if ← y.lt x then y else x

/-! ## Text -/

/-- A double without a fraction of zero. -/
def bareText (x : Double) : String := Double.format ⟨16, false⟩ Decimal.shortest x

/-- A complex number without brackets: the imaginary part alone when the real part is a positive
zero. -/
def complexBody (re im : Double) : String :=
  let imaginary := bareText im ++ "j"
  if re = Double.zero then imaginary
  else bareText re ++ (if imaginary.startsWith "-" then "" else "+") ++ imaginary

def complexText (re im : Double) : String :=
  if re = Double.zero then complexBody re im else "(" ++ complexBody re im ++ ")"

def truthText (b : Bool) : String := if b then "True" else "False"

/-- A plain number in text. -/
def plainText : Number → String
  | truth b => truthText b
  | int n => toString n
  | float x => x.shortestText
  | complex re im => complexText re im
  | _ => ""

/-- A number in text, without regard to arrays and to the names of refusals. -/
def text (x : Number) : String := plainText x.plain

end Number

/-- The magnitude from which on a bound counts as infinite. -/
def infinity : Double := Double.ofInt (power 10 20)

end Milp

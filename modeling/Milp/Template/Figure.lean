import Milp.Double.Fixed
import Milp.Text.Digit
set_option autoImplicit false

/-! # Numbers in fields

A number in text falls into a sign, a mark of its base, the digits that can be grouped and the rest.
A field fills up to its width at one of its ends, on both sides, or between the sign and the digits.
Main statement: a field is never narrower than its width (`le_length_pad`). -/

namespace Milp.Template

/-! ## Widths -/

/-- Where a text stands in a wider field. -/
inductive Alignment where
  | left
  | right
  | center
  /-- On the right, but for the sign, which stays on the left. -/
  | afterSign
deriving DecidableEq, Repr

/-- Fills a text up to a width; `head` stays at the start if the filling goes after the sign. -/
def pad (place : Alignment) (fill : Char) (width : Nat) (head body : List Char) : List Char :=
  let missing := width - (head.length + body.length)
  let blanks := List.replicate missing fill
  match place with
  | .left => head ++ body ++ blanks
  | .right => blanks ++ head ++ body
  | .center =>
    List.replicate (missing / 2) fill ++ head ++ body ++ List.replicate (missing - missing / 2) fill
  | .afterSign => head ++ blanks ++ body

theorem le_length_pad (place : Alignment) (fill : Char) (width : Nat) (head body : List Char) :
    width ≤ (pad place fill width head body).length := by
  cases place <;> simp only [pad, List.length_append, List.length_replicate] <;> omega

/-- Where a text without an alignment stands: the text on the left, what is missing on the right. -/
def padText (place : Alignment) (fill : Char) (width : Nat) (s : String) : String :=
  String.ofList (pad place fill width [] s.toList)

/-- The whole number that starts a text, if there is one, and the rest. Digits of all scripts
count. -/
def leadingNumber (s : List Char) : Option Nat × List Char :=
  match s.takeWhile fun c => (Text.digitValue? c).isSome with
  | [] => (none, s)
  | ds =>
    (some (ds.foldl (fun n c => 10 * n + (Text.digitValue? c).getD 0) 0),
      s.dropWhile fun c => (Text.digitValue? c).isSome)

/-! ## Figures -/

/-- A number that is not negative in text. -/
structure Figure where
  /-- The mark of the base. -/
  base : List Char := []
  /-- The digits that can be grouped. -/
  digits : List Char
  rest : List Char := []
deriving DecidableEq

/-- The parts of a numeral, with a point if there are decimals or `point` asks for one. -/
def Figure.ofNumeral (upper point : Bool) (n : Numeral) : Figure where
  digits := n.whole
  rest := (if n.decimals.isEmpty && !point then [] else '.' :: n.decimals) ++
    match n.exponent with
    | some e => (if upper then 'E' else 'e') :: Numeral.exponentDigits 2 e
    | none => []

/-- How the digits of a double are chosen. -/
inductive DigitStyle where
  /-- A number of decimals. -/
  | fixed
  /-- A number of decimals and an exponent. -/
  | exponent
  /-- A number of significant digits; with an exponent if the number is large or small. -/
  | general
  /-- The fewest digits that read back. -/
  | shortest
deriving DecidableEq, Repr

/-- How a double is written. -/
structure DoubleForm where
  style : DigitStyle
  precision : Nat
  upper : Bool := false
  /-- Whether the point and zeros after it are kept. -/
  alternate : Bool := false
  /-- Whether a number without an exponent has a decimal. -/
  fraction : Bool := false

/-- Significant digits of which the first one counts units of `10 ^ lead`, without an exponent. -/
def Numeral.placed (digits : List Char) (lead : Int) : Numeral :=
  if lead < 0 then { whole := ['0'], decimals := List.replicate (-lead - 1).toNat '0' ++ digits }
  else
    let width := lead.toNat + 1
    { whole := digits.take width ++ List.replicate (width - digits.length) '0'
      decimals := digits.drop width }

namespace DoubleForm

/-- Digits with an exponent where the leading one is below `-4` or not below `limit`. -/
def chosen (f : DoubleForm) (digits : List Char) (lead limit : Int) : Numeral :=
  if lead < -4 ∨ limit ≤ lead then
    { whole := digits.take 1, decimals := digits.drop 1, exponent := some lead }
  else
    let n := Numeral.placed digits lead
    if f.fraction && n.decimals.isEmpty then { n with decimals := ['0'] } else n

/-- A number of grid steps in digits. -/
def numeral (f : DoubleForm) (steps : Nat) : Numeral :=
  match f.style with
  | .fixed => Numeral.rounded f.precision steps
  | .exponent => Numeral.rounding f.precision steps
  | .general =>
    let precision := max 1 f.precision
    let (digits, lead) :=
      if steps = 0 then (['0'], 0)
      else
        let d := Decimal.significant precision steps stepsPerUnit
        let digits := Nat.toDigits 10 d.digits
        (digits, d.exponent + digits.length - 1)
    let digits :=
      if f.alternate then digits ++ List.replicate (precision - digits.length) '0'
      else if steps = 0 then digits else Double.dropTrailingZeros digits
    f.chosen digits lead (if f.fraction then precision - 1 else precision)
  | .shortest =>
    if steps = 0 then f.chosen ['0'] 0 16
    else
      let d := Decimal.shortest steps
      let digits := Nat.toDigits 10 d.digits
      f.chosen (Double.dropTrailingZeros digits) (d.exponent + digits.length - 1) 16

/-- The sign and the figure of a double. -/
def figure (f : DoubleForm) (x : Double) : Bool × Figure :=
  match x with
  | .nan => (false, { digits := [], rest := (if f.upper then "NAN" else "nan").toList })
  | .infinite negative =>
    (negative, { digits := [], rest := (if f.upper then "INF" else "inf").toList })
  | .finite negative n _ => (negative, Figure.ofNumeral f.upper f.alternate (f.numeral n))

end DoubleForm

/-- Whether a figure shows nothing but zeros. -/
def Figure.isZero (f : Figure) : Bool :=
  !f.digits.isEmpty && f.digits.all (· = '0') && (f.rest.takeWhile fun c => c ≠ 'e' && c ≠ 'E').all
    fun c => c = '0' || c = '.' || c = '%'

/-- A whole number in a base, with or without the mark of the base. -/
def Figure.ofNat (base : Nat) (upper alternate : Bool) (n : Nat) : Figure :=
  let digits := Nat.toDigits base n
  let letter := match base with
    | 2 => 'b'
    | 8 => 'o'
    | _ => 'x'
  { base := if alternate && base ≠ 10 then ['0', if upper then letter.toUpper else letter] else []
    digits := if upper then digits.map Char.toUpper else digits }

/-! ## Groups of digits -/

/-- Digits in groups with a separator between them, last digit first; zeros are added up to a
width. The first argument bounds the number of groups. -/
def groupFrom (separator : Char) (size : Nat) : Nat → Nat → List Char → List Char
  | 0, _, _ => []
  | groups + 1, width, digits =>
    let count := min size (max (max digits.length width) 1)
    let group := digits.take count ++ List.replicate (count - digits.length) '0'
    if digits.length ≤ count ∧ width ≤ count then group
    else group ++ separator :: groupFrom separator size groups (width - count - 1) (digits.drop count)

/-- Digits with zeros in front up to a width, in groups if a separator is given. -/
def grouped (separator : Option Char) (size width : Nat) (digits : List Char) : List Char :=
  match separator with
  | none => List.replicate (width - digits.length) '0' ++ digits
  | some c => (groupFrom c size (digits.length + width + 1) width digits.reverse).reverse

end Milp.Template

import Milp.Double.Fixed
import Milp.Text.Quoted
import Milp.Value.Grid
set_option autoImplicit false

/-! # Arrays in text

The elements of an array are written alike: whole numbers in one width, doubles with their points in
one column, all with an exponent or none. Lines are broken before the element that would not fit, and
of an array of more than a thousand elements only the ends are shown. -/

namespace Milp

/-! ## Elements -/

/-- The most decimals that an element of an array is shown with. -/
def elementPlaces : Nat := 8

/-- How the doubles of an array are written. -/
structure DoubleStyle where
  /-- The digits of an exponent, if there are exponents. -/
  exponentWidth : Option Nat
  /-- The decimals in front of an exponent. -/
  places : Nat
  /-- The room for the sign and the digits before the point. -/
  left : Nat
  /-- The room for what follows the point. -/
  right : Nat
  /-- Whether positive numbers have a sign. -/
  plus : Bool

namespace DoubleStyle

/-- The sign of a double and its distance from zero in grid steps, if it is finite. -/
def steps? : Double → Option (Bool × Nat)
  | .finite negative n _ => some (negative, n)
  | _ => none

/-- Whether doubles at some distances from zero are written with exponents. -/
def usesExponents (steps : List Nat) : Bool :=
  let positive := steps.filter (· ≠ 0)
  match positive with
  | [] => false
  | n :: rest =>
    let greatest := rest.foldl max n
    let least := rest.foldl min n
    let ratio := Double.ofQuotient false (greatest * stepsPerUnit) least
    power 10 8 * stepsPerUnit ≤ greatest ||
      (Double.ofQuotient false least 1).lt (Decimal.toDouble false ⟨1, -4⟩) ||
      (Double.ofInt 1000).lt ratio

/-- The sign in front of a number. -/
def signOf (plus negative : Bool) : List Char :=
  if negative then ['-'] else if plus then ['+'] else []

/-- The room that words for numbers that are not finite need beside their decimals. -/
def wordRoom (plus : Bool) (xs : List Double) : Nat :=
  if xs.all Double.isFinite then 0
  else
    let signed := plus || xs.any fun x => match x with
      | .infinite negative => negative
      | _ => false
    if signed then 4 else 3

/-- The style of the doubles of an array. -/
def ofDoubles (plus : Bool) (xs : List Double) : DoubleStyle :=
  let finite := xs.filterMap steps?
  let exponents := usesExponents (finite.map Prod.snd)
  let numerals := finite.map fun (negative, n) =>
    (negative, if exponents then Numeral.scientific elementPlaces n
      else Numeral.positional elementPlaces n)
  let greatest := fun (ns : List Nat) => ns.foldl max 0
  let places := greatest (numerals.map (·.2.decimals.length))
  let left := greatest (numerals.map fun (negative, n) =>
    (signOf plus negative).length + n.whole.length)
  let exponentWidth := greatest (numerals.map fun (_, n) =>
    (Numeral.exponentDigits 2 (n.exponent.getD 0)).length - 1)
  let right := if exponents then exponentWidth + 2 + places else places
  { exponentWidth := if exponents then some exponentWidth else none
    places, plus, right
    left := max left (wordRoom plus xs - (right + 1)) }

/-- A double in the style of its array. -/
def text (style : DoubleStyle) (x : Double) : String :=
  match x with
  | .finite negative n _ =>
    let numeral := match style.exponentWidth with
      | some _ => (Numeral.rounding style.places n)
      | none => Numeral.positional elementPlaces n
    let whole := signOf style.plus negative ++ numeral.whole
    let decimals := match style.exponentWidth, numeral.exponent with
      | some width, some e => numeral.decimals ++ 'e' :: Numeral.exponentDigits width e
      | _, _ => numeral.decimals ++ List.replicate (style.right - numeral.decimals.length) ' '
    String.ofList (List.replicate (style.left - whole.length) ' ' ++ whole ++ '.' :: decimals)
  | .nan => word (if style.plus then "+nan" else "nan")
  | .infinite negative => word (String.ofList (signOf style.plus negative) ++ "inf")
where
  word (s : String) : String := "".pushn ' ' (style.left + style.right + 1 - s.length) ++ s

end DoubleStyle

/-- The texts of the real and imaginary parts of complex elements. -/
def complexElement (re im : DoubleStyle) (x y : Double) : String :=
  let imaginary := (im.text y).toList
  let digits := (imaginary.reverse.dropWhile (· = ' ')).reverse
  re.text x ++ String.ofList (digits ++ 'j' :: imaginary.drop digits.length)

/-- Texts on the right of a common width. -/
def alignRight (xs : List String) : List String :=
  let width := (xs.map String.length).foldl max 0
  xs.map fun s => "".pushn ' ' (width - s.length) ++ s

/-- The numeric elements of an array in text; `line` if the array has a dimension. -/
def elementTexts (line : Bool) (kind : NumberKind) (xs : List Element) : List String :=
  match kind with
  | .truth =>
    xs.map fun x => if x.whole? = some 1 then (if line then " True" else "True") else "False"
  | .signed | .unsigned => alignRight (xs.map fun x => toString (x.whole?.getD 0))
  | .real =>
    let style := DoubleStyle.ofDoubles false (xs.map Element.realPart)
    xs.map fun x => style.text x.realPart
  | .complex =>
    let re := DoubleStyle.ofDoubles false (xs.map Element.realPart)
    let im := DoubleStyle.ofDoubles true (xs.map Element.imaginaryPart)
    xs.map fun x => complexElement re im x.realPart x.imaginaryPart

/-! ## Lines -/

namespace GridText

def lineWidth : Nat := 75

/-- The number of elements up to which all are shown, and how many are at each end beyond it. -/
def showAll : Nat := 1000
def edge : Nat := 3

/-- Without blanks at the end. -/
def trimRight (s : String) : String :=
  String.ofList ((s.toList.reverse.dropWhile (· = ' ')).reverse)

/-- Adds words to the lines that are done and the one that is not, each followed by the separator.
A line with a word on it takes no more than fit into the width. -/
def fillLines (indent separator : String) (width : Nat) (done line : String) :
    List String → String × String
  | [] => (done, line)
  | [word] => fit done line word
  | word :: rest =>
    let (done, line) := fit done line word
    fillLines indent separator width done (line ++ separator) rest
where
  fit (done line word : String) : String × String :=
    if width < line.length + word.length && indent.length < line.length then
      (done ++ trimRight line ++ "\n", indent ++ word)
    else (done, line ++ word)

/-- Words in brackets, on lines that start below the first word. -/
def bracketed (lead : Nat) (separator : String) (width : Nat) (words : List String) : String :=
  let indent := "".pushn ' ' (lead + 1)
  let (done, line) := fillLines indent separator (width - 1) "" indent words
  "[" ++ String.ofList ((done ++ line).toList.drop indent.length) ++ "]"

/-- The elements of an array that are shown. -/
def shownOf {α : Type} (xs : List α) : List α :=
  if xs.length ≤ showAll then xs else xs.take edge ++ xs.drop (xs.length - edge)

/-- The words of the shown elements, with points in place of those that are not shown. -/
def withGap (count : Nat) (words : List String) : List String :=
  if count ≤ showAll then words else words.take edge ++ "..." :: words.drop edge

/-- The name of a kind, if elements do not show it. -/
def kindName? : ElementKind → Option String
  | .numbers .unsigned => some "uint64"
  | .numbers _ => none
  | .texts width => some s!"'<U{width}'"
  | .any => some "object"

def kindName (k : ElementKind) : String :=
  match k with
  | .numbers .truth => "bool"
  | .numbers .signed => "int64"
  | .numbers .real => "float64"
  | .numbers .complex => "complex128"
  | k => (kindName? k).getD ""

/-- What is said of an array besides its elements. -/
def extras (kind : ElementKind) (line : Bool) (count : Nat) : List String :=
  let shape := if line && showAll < count then [s!"shape=({count},)"] else []
  let name := if line && count = 0 then some (kindName kind) else kindName? kind
  shape ++ (name.map ("dtype=" ++ ·)).toList

/-- An array as it is quoted: its elements in text and what else is said of it, on a line of its own
if it does not fit. -/
def describe (kind : ElementKind) (line : Bool) (count : Nat) (words : List String) : String :=
  let opening := "array("
  let elements :=
    if !line then words.headD ""
    else if words.isEmpty then "[]"
    else bracketed opening.length ", " (lineWidth - 1) (withGap count words)
  match extras kind line count with
  | [] => opening ++ elements ++ ")"
  | extras =>
    let start := opening ++ elements ++ ","
    let rest := ", ".intercalate extras ++ ")"
    let last := (start.toList.reverse.takeWhile (· ≠ '\n')).length
    let gap := if lineWidth < last + rest.length + 1 then "\n" ++ "".pushn ' ' opening.length else " "
    start ++ gap ++ rest

/-- An array with a dimension as it is printed for itself. -/
def display (count : Nat) (words : List String) : String :=
  if words.isEmpty then "[]" else bracketed 0 " " lineWidth (withGap count words)

end GridText

end Milp

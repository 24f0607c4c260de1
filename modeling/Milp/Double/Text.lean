import Milp.Double.Decimal
import Milp.Text.Blank
import Milp.Text.Digit
set_option autoImplicit false

/-! # Doubles in text

The two ways in which a double is written, the shortest text that reads back
(`Double.shortestText`) and a fixed number of significant digits (`Double.generalText`), and the
reading of a double from a text (`Double.ofText?`). -/

namespace Milp.Double

/-! ## Writing -/

/-- How a decimal is laid out: positionally for leading exponents from `-4` up to `limit`, else with
an exponent of at least two digits; `fraction` asks for a fraction also on whole numbers. -/
structure Layout where
  limit : Int
  fraction : Bool

/-- Digits without the zeros at their end. -/
def dropTrailingZeros (digits : List Char) : List Char :=
  (digits.reverse.dropWhile (· = '0')).reverse

/-- Puts a point before the fraction, which may be empty. -/
def withFraction (whole fraction : List Char) : List Char :=
  if fraction.isEmpty then whole else whole ++ '.' :: fraction

/-- The exponent mark, the sign and at least two digits. -/
def exponentText (e : Int) : List Char :=
  let digits := Nat.toDigits 10 e.natAbs
  'e' :: (if e < 0 then '-' else '+') :: (if digits.length < 2 then '0' :: digits else digits)

/-- Lays out significant digits whose first one counts units of `10 ^ lead`. -/
def Layout.place (style : Layout) (digits : List Char) (lead : Int) : List Char :=
  let digits := dropTrailingZeros digits
  if -4 ≤ lead ∧ lead < style.limit then
    if lead < 0 then
      '0' :: '.' :: (List.replicate (-lead - 1).toNat '0' ++ digits)
    else
      let width := lead.toNat + 1
      let whole := digits.take width ++ List.replicate (width - digits.length) '0'
      let fraction := digits.drop width
      withFraction whole (if fraction.isEmpty && style.fraction then ['0'] else fraction)
  else withFraction (digits.take 1) (digits.drop 1) ++ exponentText lead

/-- A double in text: the words for the numbers that are not finite, and for the others the digits
that `choose` takes for a positive number of grid steps, laid out. -/
def format (style : Layout) (choose : Nat → Decimal) : Double → String
  | nan => "nan"
  | infinite s => if s then "-inf" else "inf"
  | finite s n _ =>
    let sign := if s then ['-'] else []
    if n = 0 then
      String.ofList (sign ++ withFraction ['0'] (if style.fraction then ['0'] else []))
    else
      let d := choose n
      let digits := Nat.toDigits 10 d.digits
      String.ofList (sign ++ style.place digits (d.exponent + digits.length - 1))

/-- The fewest digits that read back as the same double; positional from `0.0001` to below
`10 ^ 16`, and then always with a fraction. -/
def shortestText (x : Double) : String := format ⟨16, true⟩ Decimal.shortest x

/-- The given number of significant digits without trailing zeros; positional where the exponent is
at least `-4` and below the number of digits. -/
def generalText (precision : Nat) (x : Double) : String :=
  format ⟨precision, false⟩ (Decimal.significant precision · stepsPerUnit) x

/-! ## Reading -/

/-- The digits at the start of a text and the rest. A single underscore may stand between two digits:
`afterDigit` tells whether one may come next. -/
def takeDigits (afterDigit : Bool) : List Char → List Nat × List Char
  | [] => ([], [])
  | c :: rest =>
    match Text.digitValue? c with
    | some d =>
      let (ds, last) := takeDigits true rest
      (d :: ds, last)
    | none =>
      if c = '_' ∧ afterDigit then
        match takeDigits false rest with
        | ([], _) => ([], c :: rest)
        | run => run
      else ([], c :: rest)

def digitsValue (ds : List Nat) : Nat := ds.foldl (fun n d => 10 * n + d) 0

/-- An exponent part, if there is one; `none` where its digits are missing. -/
def exponentPart? : List Char → Option (Int × List Char)
  | c :: rest =>
    if c = 'e' ∨ c = 'E' then
      let (negative, rest) := match rest with
        | '-' :: r => (true, r)
        | '+' :: r => (false, r)
        | r => (false, r)
      match takeDigits false rest with
      | ([], _) => none
      | (ds, rest) => some (if negative then -(digitsValue ds : Int) else digitsValue ds, rest)
    else some (0, c :: rest)
  | [] => some (0, [])

/-- An unsigned decimal number: digits with at most one point, then an exponent or not. -/
def decimalOfChars? (s : List Char) : Option Decimal :=
  let (whole, rest) := takeDigits false s
  let (fraction, rest) := match rest with
    | '.' :: r => takeDigits false r
    | r => ([], r)
  if whole.isEmpty && fraction.isEmpty then none
  else
    match exponentPart? rest with
    | some (e, []) => some ⟨digitsValue (whole ++ fraction), e - fraction.length⟩
    | _ => none

/-- The double that a text stands for: a decimal number or a word for an infinity or for
not-a-number, with a sign or not, between blanks. -/
def ofText? (s : String) : Option Double :=
  let s := Text.trim Text.isNumberBlank s.toList
  let (negative, s) := match s with
    | '-' :: r => (true, r)
    | '+' :: r => (false, r)
    | r => (false, r)
  let word := String.ofList (s.map Char.toLower)
  if word = "inf" ∨ word = "infinity" then some (infinite negative)
  else if word = "nan" then some nan
  else (decimalOfChars? s).map (Decimal.toDouble negative)

end Milp.Double

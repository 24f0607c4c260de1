import Milp.Double.Text
set_option autoImplicit false

/-! # Doubles with a number of decimals

The digits of a double on both sides of the point, either all that are needed or rounded to a number
of decimals (`Numeral.positional`), and the digits in front of an exponent (`Numeral.scientific`).
Main statement: padding the decimals of a numeral gives at least that many
(`Numeral.le_length_padDecimals`). -/

namespace Milp

/-- The parts of a number that is not negative in text: digits before and after the point, and the
exponent, if there is one. -/
structure Numeral where
  whole : List Char
  decimals : List Char
  exponent : Option Int := none
deriving DecidableEq

namespace Numeral

/-- A decimal split at its point. -/
def ofDecimal (d : Decimal) : Numeral :=
  if 0 ≤ d.exponent then
    { whole := Nat.toDigits 10 (d.digits * power 10 d.exponent.toNat), decimals := [] }
  else
    let places := (-d.exponent).toNat
    let digits := Nat.toDigits 10 d.digits
    let digits := List.replicate (places + 1 - digits.length) '0' ++ digits
    { whole := digits.take (digits.length - places), decimals := digits.drop (digits.length - places) }

/-- A number of grid steps rounded to a number of decimals; a tie goes to the even one. -/
def rounded (places steps : Nat) : Numeral :=
  ofDecimal ⟨halfEven (steps * power 10 places) stepsPerUnit, -(places : Int)⟩

/-- Without zeros at the end of the decimals. -/
def trim (n : Numeral) : Numeral := { n with decimals := Double.dropTrailingZeros n.decimals }

/-- With at least a number of decimals. -/
def padDecimals (places : Nat) (n : Numeral) : Numeral :=
  { n with decimals := n.decimals ++ List.replicate (places - n.decimals.length) '0' }

theorem le_length_padDecimals (places : Nat) (n : Numeral) :
    places ≤ (n.padDecimals places).decimals.length := by
  simp only [padDecimals, List.length_append, List.length_replicate]
  omega

/-- The digits of a number of grid steps: those that are needed, or rounded to a number of decimals
if more would be needed. -/
def positional (places steps : Nat) : Numeral :=
  if steps = 0 then { whole := ['0'], decimals := [] }
  else
    let d := Decimal.shortest steps
    trim (if -(places : Int) ≤ d.exponent then ofDecimal d else rounded places steps)

/-- Digits of which the first one counts units of a power of ten. -/
def withExponent (d : Decimal) : Numeral :=
  let digits := Nat.toDigits 10 d.digits
  { whole := digits.take 1, decimals := digits.drop 1
    exponent := some (d.exponent + digits.length - 1) }

/-- One digit, a number of decimals and an exponent. -/
def rounding (places steps : Nat) : Numeral :=
  if steps = 0 then { whole := ['0'], decimals := List.replicate places '0', exponent := some 0 }
  else withExponent (Decimal.significant (places + 1) steps stepsPerUnit)

/-- One digit, the decimals that are needed up to a number of them, and an exponent. -/
def scientific (places steps : Nat) : Numeral :=
  if steps = 0 then { whole := ['0'], decimals := [], exponent := some 0 }
  else
    let d := Decimal.shortest steps
    trim (if Decimal.digitCount d.digits ≤ places + 1 then withExponent d else rounding places steps)

/-- An exponent with its sign and at least a number of digits. -/
def exponentDigits (width : Nat) (e : Int) : List Char :=
  let digits := Nat.toDigits 10 e.natAbs
  (if e < 0 then '-' else '+') :: (List.replicate (width - digits.length) '0' ++ digits)

end Numeral

end Milp

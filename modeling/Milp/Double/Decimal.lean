import Milp.Double.Basic
set_option autoImplicit false

/-! # Decimal numbers and doubles

The double nearest to a decimal number, and the two decimals that stand for a double in text: the
one of a given number of digits nearest to it (`Decimal.significant`), and the one of the fewest
digits that reads back as the same double (`Decimal.shortest`). All comparisons are made on whole
numbers. -/

namespace Milp

/-- The number `digits · 10 ^ exponent`. -/
structure Decimal where
  digits : Nat
  exponent : Int
deriving DecidableEq, Repr

namespace Decimal

/-- A power of ten as a fraction. -/
def tenPow (e : Int) : Nat × Nat :=
  if e < 0 then (1, power 10 (-e).toNat) else (power 10 e.toNat, 1)

/-- The number of decimal digits of a positive number. -/
def digitCount (n : Nat) : Nat := (Nat.toDigits 10 n).length

/-- The decimal in grid steps, rounded to 53 significant bits. -/
def toSteps (d : Decimal) : Nat :=
  let (a, b) := tenPow d.exponent
  roundQuotient (d.digits * a * stepsPerUnit) b

/-- The double nearest to a decimal. Decimals from `10 ^ 310` on are infinite and those below
`10 ^ -330` are zero, which needs no power of ten. -/
def toDouble (negative : Bool) (d : Decimal) : Double :=
  if d.digits = 0 then .ofQuotient negative 0 1
  else
    let size := d.exponent + digitCount d.digits
    if 311 < size then .infinite negative
    else if size < -330 then .ofQuotient negative 0 1
    else
      let (a, b) := tenPow d.exponent
      .ofQuotient negative (d.digits * a * stepsPerUnit) b

/-! ## Digits of a positive fraction -/

/-- Whether `10 ^ e ≤ n / d`. -/
def tenPowLe (e : Int) (n d : Nat) : Bool :=
  let (a, b) := tenPow e
  a * d ≤ n * b

/-- The greatest `e` with `10 ^ e ≤ n / d`: the estimate from the binary length is at most three too
small. -/
def leadingExponent (n d : Nat) : Int :=
  let e := (((n.log2 : Int) - d.log2 - 1) * 30103).fdiv 100000 - 1
  ([e + 3, e + 2, e + 1].find? (tenPowLe · n d)).getD e

/-- The fraction `n / d` in units of `10 ^ e`, again as a fraction. -/
def inUnits (n d : Nat) (e : Int) : Nat × Nat :=
  let (a, b) := tenPow e
  (n * b, d * a)

/-- The decimal of exactly `precision` digits nearest to `n / d`; a tie goes to the even one. -/
def significant (precision n d : Nat) : Decimal :=
  let e := leadingExponent n d - (precision - 1 : Nat)
  let (a, b) := inUnits n d e
  let m := halfEven a b
  if m = power 10 precision then ⟨power 10 (precision - 1), e + 1⟩ else ⟨m, e⟩

/-- Of the two neighbours of the value among the multiples of `10 ^ e`, those that read back as it;
the nearer one if both do, and the even one in a tie. -/
def readsBack? (steps : Nat) (e : Int) : Option Decimal :=
  let (a, b) := inUnits steps stepsPerUnit e
  let low : Decimal := ⟨a / b, e⟩
  let high : Decimal := ⟨a / b + 1, e⟩
  match decide (low.toSteps = steps), decide (high.toSteps = steps) with
  | true, true => some (if halfEven a b = low.digits then low else high)
  | true, false => some low
  | false, true => some high
  | false, false => none

/-- The decimal of the fewest digits that reads back as the given positive number of grid steps. -/
def shortest (steps : Nat) : Decimal :=
  let e := leadingExponent steps stepsPerUnit
  ((List.range 17).findSome? fun (k : Nat) => readsBack? steps (e - k)).getD
    (significant 17 steps stepsPerUnit)

end Decimal

end Milp

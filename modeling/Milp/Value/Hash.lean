import Milp.Value.Grid
set_option autoImplicit false

/-! # Hash keys

Values that can be keys of a table have a hash, and equal values have equal hashes across the kinds
of numbers. The hash of a number is its residue modulo the prime `2^61 - 1`, which also fractions
have, since two has an inverse there. The hash of a text is that of its bytes, and characters may
take several. Which hashes coincide is all that can be observed, so a hash is represented by a
`HashKey`: the hash itself where it is known, and what it is made from where it is not. -/

namespace Milp

/-- What decides whether two values have the same hash. -/
inductive HashKey where
  | nothing
  /-- A hash that is known. -/
  | known (hash : Int)
  | bytes (bs : List Nat)
  | sequence (keys : List HashKey)
  /-- An object, by its kind and its place among the objects of that kind. -/
  | object (kind : String) (index : Nat)
  /-- A hash that is shared with nothing. -/
  | unique

namespace HashKey

/-- The modulus of numeric hashes. -/
def modulus : Int := power 2 61 - 1

/-- The hash `-1` is not used; the numbers that would have it get `-2`. -/
def avoidMinusOne (h : Int) : Int := if h = -1 then -2 else h

/-- The residue of a number of grid steps. One step is `2^-1074`, which is `2^24` modulo
`2^61 - 1`. -/
def residue (steps : Int) : Int :=
  let r := (steps.natAbs : Int) * power 2 24 % modulus
  avoidMinusOne (if steps < 0 then -r else r)

/-- The bytes of a character, the lowest first. -/
def charBytes (width : Nat) (c : Char) : List Nat :=
  (List.range width).map fun i => c.toNat >>> (8 * i) % 256

/-- How many bytes each character of a text takes: as many as the greatest one needs, 1, 2 or 4. -/
def charWidth (s : String) : Nat :=
  if s.toList.all fun c => c.toNat < 0x100 then 1
  else if s.toList.all fun c => c.toNat < 0x10000 then 2
  else 4

/-- The hash of a text; that of the empty one is zero. -/
def ofText (s : String) : HashKey :=
  match s.toList.flatMap (charBytes (charWidth s)) with
  | [] => known 0
  | bs => bytes bs

/-- Adds the hash of an element to that of the elements before it, in words of 64 bits. -/
def mix (hash : UInt64) (element : Int) : UInt64 :=
  let sum := hash + UInt64.ofInt element * 14029467366897019727
  (sum <<< 31 ||| sum >>> 33) * 11400714785074694791

/-- The hash of a sequence whose elements have known hashes. -/
def ofKnown (hashes : List Int) : Int :=
  let start : UInt64 := 2870177450012600261
  let hash := hashes.foldl mix start + (UInt64.ofNat hashes.length ^^^ (start ^^^ 3527539))
  let signed := Int.bmod hash.toNat (power 2 64)
  if signed = -1 then 1546275796 else signed

def known? : HashKey → Option Int
  | known h => some h
  | _ => none

/-- The hash of a sequence. -/
def ofSequence (keys : List HashKey) : HashKey :=
  match keys.mapM known? with
  | some hashes => known (ofKnown hashes)
  | none => sequence keys

/-- The hash of a double; not-a-number has none in common with anything. -/
def ofDouble : Double → HashKey
  | .nan => unique
  | .infinite negative => known (if negative then -314159 else 314159)
  | .finite negative steps _ => known (residue (Double.signed negative steps))

/-- The hash of a complex number with an imaginary part of zero is that of its real part. -/
def ofComplex (re im : Double) : HashKey :=
  match ofDouble re, ofDouble im with
  | known a, known b => known (avoidMinusOne (Int.bmod (a + 1000003 * b) (power 2 64)))
  | _, _ => unique

/-- The hash of a plain number. -/
def ofNumber : Number → HashKey
  | .truth b => known (truthNumber b)
  | .int n => known (residue (n * stepsPerUnit))
  | .float x => ofDouble x
  | .complex re im => ofComplex re im
  | .refusal r => known (residue (r.code * stepsPerUnit))
  | .item _ | .cell _ => unique

mutual

/-- Whether two hashes coincide. -/
def agree : HashKey → HashKey → Bool
  | nothing, nothing => true
  | known m, known n => m = n
  | bytes s, bytes t => s = t
  | sequence ks, sequence ls => agreeAll ks ls
  | object k i, object l j => k = l && i = j
  | _, _ => false

def agreeAll : List HashKey → List HashKey → Bool
  | [], [] => true
  | k :: ks, l :: ls => agree k l && agreeAll ks ls
  | _, _ => false

end

end HashKey

namespace Value

mutual

/-- The hash of a value, for the values that can be keys of a table. -/
def hashKey (v : Value) : Except Fault HashKey :=
  match v with
  | nothing => .ok .nothing
  | number (.cell _) => .error .wrongType
  | number x => .ok (HashKey.ofNumber x.plain)
  | text s | textItem s | bytes s => .ok (.ofText s)
  | tuple xs => .ofSequence <$> hashKeys xs
  | domain k _ => .ok (.ofText k.code)
  | sense s => .ok (.ofText s.name)
  | direction d => .ok (.ofText d.name)
  | var v => .ok (.object "variable" v.id)
  | constraint c => .ok (.object "constraint" c.id)
  | list _ | table _ | cell .. | array .. | ref (.settings _) | part .. => .error .wrongType
  | expr .. | ref _ => .ok .unique

def hashKeys : List Value → Except Fault (List HashKey)
  | [] => .ok []
  | x :: xs => return (← hashKey x) :: (← hashKeys xs)

end

/-- Whether two values can be compared: arrays must have elements that meet, and sequences elements
that are equal or not. -/
def checkComparable (v w : Value) : Except Fault Unit := do
  match v, w with
  | array .., _ | _, array .. =>
    let _ ← (← Grid.ofValue v).pairs (← Grid.ofValue w)
  | _, _ =>
    let _ ← v.equals w

/-- Whether two values are equal, whether they differ, and whether their hashes coincide. -/
def comparison (v w : Value) : Except Fault (Bool × Bool × Bool) := do
  checkComparable v w
  let a ← v.hashKey
  let b ← w.hashKey
  return (same v w, !same v w, a.agree b)

end Value

end Milp

import Milp.Engine.Basic
set_option autoImplicit false

/-! # Checks of engine arguments

Batches come as sequences of any kind and are checked from left to right: the first part that is not
of the right kind is a fault, the first that does not fit is refused. -/

namespace Milp.Engine

/-- A sequence as a list. A missing one stays missing, and an array without dimensions gives its
element, which may be no sequence. -/
def listed (view : View) : Value → Except Fault Value
  | .nothing => .ok .nothing
  | .number (.cell e) => .ok (.number (Number.ofElement e))
  | .cell _ v => .ok v
  | .array _ xs => .ok (.list (xs.map Value.native))
  | v => .list <$> v.allElements view

/-- A sequence as a list, in a call. -/
def list (v : Value) : Acting Value := do
  let (_, w) ← get
  Action.ofFault (listed w.view v)

/-- How many parts a value has that was listed. -/
def length : Value → Except Fault Nat
  | .list xs | .tuple xs => .ok xs.length
  | .text s | .textItem s | .bytes s => .ok s.length
  | .table es => .ok es.length
  | .expr _ e => .ok e.size
  | _ => .error .wrongType

/-- The elements of a sequence that has been listed. An expression has the coefficient zero at every
position. -/
def items (v : Value) : List Value :=
  match v with
  | .expr _ e => List.replicate e.size (.float Double.zero)
  | v =>
    match v.allElements .blank with
    | .ok xs => xs
    | .error _ => []

/-- Whether a sequence has as many parts as it should. -/
def hasLength (v count : Value) : Except Fault Bool := do
  Value.equals (.int (← length v)) count

/-- Whether sequences all have the same length `n`, and that is the announced one. -/
def haveLength (n : Nat) (count : Value) : List Value → Except Fault Bool
  | [] => Value.equals (.int n) count
  | v :: rest => do if n = (← length v) then haveLength n count rest else return false

/-- Whether the count is not negative and all sequences have it as their length. -/
def isCountOf (count : Value) : List Value → Except Failure Bool
  | [] => .ok true
  | v :: rest => do
    if ← Value.holds .below count (.int 0) then return false
    Failure.lift do haveLength (← length v) count rest

/-- Names may be missing altogether; if they are not, there is one for each entity. -/
def namesFit (names count : Value) : Except Fault Bool :=
  match names with
  | .nothing => .ok true
  | _ => hasLength names count

/-- The names of a batch, one for each entity. -/
def namesFor (names count : Value) : Except Failure (List Value) :=
  match names with
  | .nothing => items <$> Value.combine 0 .times (.list [.nothing]) count
  | _ => .ok (items names)

/-- The entry of a table of codes for a value; only keys of tables can be looked up. -/
def decode {α : Type} (ofCode? : String → Option α) (v : Value) : Except Fault (Option α) :=
  if v.isKey then .ok (v.text?.bind ofCode?) else .error .wrongType

/-- The entries for all values, or none if one of them has none. -/
def decodeAll {α : Type} (ofCode? : String → Option α) :
    List Value → Except Fault (Option (List α))
  | [] => .ok (some [])
  | v :: rest => do
    match ← decode ofCode? v with
    | none => return none
    | some a => return (← decodeAll ofCode? rest).map (a :: ·)

/-- Whether a value is a position among a number of columns. -/
def isPosition (v : Value) (count : Nat) : Except Failure Bool := do
  if ← Value.holds .atMost (.int 0) v then Value.holds .below v (.int count) else return false

/-- Whether values are the positions of columns. -/
def arePositions (count : Nat) : List Value → Except Failure Bool
  | [] => .ok true
  | v :: rest => do if ← isPosition v count then arePositions count rest else return false

/-- Whether the parts of a row-wise batch start and end in order. -/
def areParts : List (Value × Value) → Except Failure Bool
  | [] => .ok true
  | (start, stop) :: rest => do
    if ← Value.holds .below start (.int 0) then return false
    if ← Value.holds .below stop start then return false
    areParts rest

/-- Where each row of a batch starts and ends: the next row's start, or the number of terms. -/
def parts (begins : List Value) (size : Value) : List (Value × Value) :=
  begins.zip (begins.drop 1 ++ [size])

/-- The elements between two positions. -/
def between {α : Type} (xs : List α) (start stop : Value) : Except Fault (List α) := do
  let a ← start.toIndex
  let b ← stop.toIndex
  return (xs.drop a.toNat).take (b - a).toNat

end Milp.Engine

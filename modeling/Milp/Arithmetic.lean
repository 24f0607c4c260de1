import Milp.Construction
import Milp.Value.Grid
set_option autoImplicit false

/-! # Operators on values

Variables and expressions can be combined with each other and with numbers by the usual operators. A
number that stands on the left leaves the work to the expression on its right. Sums start from the
number zero, which an expression on its right takes as nothing to add. Arrays are combined element by
element, and texts and sequences joined, repeated and compared like any others.

Main statement: multiplying by a double multiplies every coefficient
(`LinearExpr.timesNumber_float`). -/

namespace Milp

/-- The expression of a value that has operators. -/
def Value.operand? : Value → Option LinearExpr
  | .expr _ e => some e
  | .var v => some (LinearExpr.ofVar v)
  | _ => none

namespace LinearExpr

/-- The product with a number of any kind, of which coefficients keep the real part. -/
def timesNumber (e : LinearExpr) (x : Number) : Except Fault LinearExpr := do
  let terms ← e.terms.mapM fun t => do return (t.1, ← (← (Number.float t.2).mul x).toDouble)
  return ofTerms terms

theorem timesNumber_float (e : LinearExpr) (k : Double) :
    e.timesNumber (.float k) = .ok (e.times k) := by
  suffices h : ∀ ts : List Term,
      ts.mapM (fun t => do
        return (t.1, ← (← (Number.float t.2).mul (.float k)).toDouble)) =
        (Except.ok (ts.map fun t => (t.1, t.2 * k)) : Except Fault (List Term)) by
    rw [timesNumber, h]
    rfl
  intro ts
  induction ts with
  | nil => rfl
  | cons t rest ih =>
    rw [List.mapM_cons, ih]
    rfl

/-- The product with a value, which must be a number. -/
def timesValue (e : LinearExpr) (k : Value) : Except Failure LinearExpr :=
  match k, k.isNumber with
  | .number x, true => Failure.lift (e.timesNumber x)
  | _, _ => .error (.badFactor k)

def plusValue (e : LinearExpr) (v : Value) : Except Failure LinearExpr :=
  return e.plus (← ofValue "plus" v)

def minusValue (e : LinearExpr) (v : Value) : Except Failure LinearExpr :=
  return e.minus (← ofValue "minus" v)

/-- The constraint that compares the expression with a number. -/
def compareValue (id : Nat) (e : LinearExpr) (s : Sense) (bound name : Value) :
    Except Failure Value :=
  .constraint <$> Constraint.ofValues id (.expr 0 e) (.sense s) bound name

end LinearExpr

/-! ## Operators -/

inductive Operator where
  | plus
  | minus
  | times
  | atMost
  | atLeast
  | below
deriving DecidableEq, Repr

namespace Operator

/-- Whether the operator compares its operands. -/
def compares : Operator → Bool
  | plus | minus | times => false
  | atMost | atLeast | below => true

/-- The operator with an expression on its left. A constraint gets the given identity. -/
def onExpr (op : Operator) (id : Nat) (e : LinearExpr) (w : Value) : Except Failure Value :=
  match op with
  | plus => .expr 0 <$> e.plusValue w
  | minus => .expr 0 <$> e.minusValue w
  | times => .expr 0 <$> e.timesValue w
  | atMost => e.compareValue id .atMost w .nothing
  | atLeast => e.compareValue id .atLeast w .nothing
  | below => .error (.fault .wrongType)

/-- The operator with an expression on its right, given as a value and as an expression, and none on
its left. Zero adds nothing. -/
def onExprRight (op : Operator) (id : Nat) (v w : Value) (e : LinearExpr) : Except Failure Value :=
  match op with
  | plus =>
    if v.isNumber && v.same (.int 0) then
      .ok (if w matches .expr .. then w else .expr 0 e)
    else .expr 0 <$> e.plusValue v
  | minus => .expr 0 <$> e.negate.plusValue v
  | times => .expr 0 <$> e.timesValue v
  | atMost => e.compareValue id .atLeast v .nothing
  | atLeast => e.compareValue id .atMost v .nothing
  | below => .error (.fault .wrongType)

/-- The condition as what a comparison of two numbers gives. -/
def condition (x y : Number) (b : Bool) : Value :=
  match x.element?, y.element? with
  | none, none => .bool b
  | _, _ => .number (.item (.truth b))

def onNumbers (op : Operator) (x y : Number) : Except Fault Value :=
  match op with
  | plus => .number <$> x.add y
  | minus => .number <$> x.sub y
  | times => .number <$> x.mul y
  | atMost => condition x y <$> x.le y
  | atLeast => condition x y <$> y.le x
  | below => condition x y <$> x.lt y

/-- The operator on two texts, or the given fault if texts do not have it. -/
def onTexts (op : Operator) (fault : Fault) (s t : String) : Except Fault (String ⊕ Bool) :=
  match op with
  | plus => .ok (.inl (s ++ t))
  | atMost => .ok (.inr (s ≤ t))
  | atLeast => .ok (.inr (t ≤ s))
  | below => .ok (.inr (s < t))
  | minus | times => .error fault

/-- The operator on two lengths, of which only comparisons are asked. -/
def onLengths (op : Operator) (m n : Nat) : Bool :=
  match op with
  | atLeast => n ≤ m
  | below => m < n
  | _ => m ≤ n

end Operator

namespace Value

/-- A sequence repeated a number of times. -/
def repeated {α : Type} (xs : List α) (n : Int) : List α := (List.replicate n.toNat xs).flatten

/-- The repetition of a sequence, if the value is one. -/
def repeat? (v : Value) (n : Int) : Option Value :=
  match v with
  | text s | textItem s => some (text (String.ofList (repeated s.toList n)))
  | bytes s => some (bytes (String.ofList (repeated s.toList n)))
  | list xs => some (list (repeated xs n))
  | tuple xs => some (tuple (repeated xs n))
  | _ => none

/-- Whether a value is an array, or a number that was taken out of one. -/
def isGrid : Value → Bool
  | number (.item _) | number (.cell _) | cell .. | array .. => true
  | _ => false

/-- A value as an operand of an array. A plain number becomes an element only once it meets one. -/
def operandGrid : Value → Except Fault Grid
  | v@(number x) => .ok { kind := .numbers (x.kind?.getD .signed), line := false, items := [v] }
  | expr .. => .error .exhausted
  | v => Grid.ofValue v

/-- The kind of the elements that an operator gives. -/
def resultKind (op : Operator) (a b : ElementKind) (items : List Value) : ElementKind :=
  if op.compares then .numbers .truth
  else
    match a, b with
    | .any, _ | _, .any => .any
    | _, _ =>
      match items with
      | [] => a.join b
      | x :: rest => rest.foldl (fun k y => k.join y.elementKind) x.elementKind

/-- The first pair of different values of two sequences, if there is one. -/
def firstDifference? : List (Value × Value) → Except Fault (Option (Value × Value))
  | [] => .ok none
  | (x, y) :: rest => do
    if x.same y then firstDifference? rest
    else if ← x.equals y then firstDifference? rest
    else return some (x, y)

/-- An operator on two elements of arrays, given what it does on two values within them; elements of
any kind meet as what they are. -/
def elementwise (within : Value → Value → Except Failure Value) (op : Operator) (anyKind : Bool)
    (x y : Value) : Except Failure Value := do
  if anyKind then
    let z ← within x.native y.native
    if op.compares then return number (.item (.truth (← Failure.lift (z.truthy .blank))))
    else return z
  else
    match x, y with
    | number a, number b => Failure.lift (op.onNumbers a b)
    | x, y =>
      match x.text?, y.text? with
      | some s, some t =>
        match ← Failure.lift (op.onTexts .noOperation s t) with
        | .inl s => return textItem (withoutZeros s)
        | .inr b => return number (.item (.truth b))
      | _, _ => .error (.fault .noOperation)

/-- An operator on two values that are neither expressions nor arrays, given what it does on two
values within them. -/
def plainly (within : Value → Value → Except Failure Value) (op : Operator) (v w : Value) :
    Except Failure Value :=
  let sequences (make : List Value → Value) (xs ys : List Value) : Except Failure Value := do
    match op with
    | .plus => return make (xs ++ ys)
    | .atMost | .atLeast | .below =>
      match ← Failure.lift (firstDifference? (xs.zip ys)) with
      | some (x, y) => within x y
      | none => return bool (op.onLengths xs.length ys.length)
    | .minus | .times => .error (.fault .wrongType)
  let texts (make : String → Value) (s t : String) : Except Failure Value := do
    match ← Failure.lift (op.onTexts .wrongType s t) with
    | .inl s => return make s
    | .inr b => return bool b
  match v, w with
  | number x, number y => Failure.lift (op.onNumbers x y)
  | list xs, list ys => sequences list xs ys
  | tuple xs, tuple ys => sequences tuple xs ys
  | bytes s, bytes t => texts bytes s t
  | v, w =>
    match v.text?, w.text? with
    | some s, some t => texts text s t
    | _, _ =>
      let repetition := match op, v.toIndex, w.toIndex with
        | .times, .ok k, _ => w.repeat? k
        | .times, _, .ok k => v.repeat? k
        | _, _, _ => none
      match repetition with
      | some z => .ok z
      | none => .error (.fault .wrongType)

/-- An operator on two values, down to a number of values within values. A number taken out of an
array takes one level more, on which it is an operand of its own. -/
def combineUpTo (id : Nat) : Nat → Operator → Value → Value → Except Failure Value
  | 0, _, _, _ => .error (.fault .tooDeep)
  | n + 1, op, v, w =>
    match v.operand?, w.operand? with
    | some e, _ => op.onExpr id e w
    | none, other =>
      if v.isGrid || w.isGrid then
        match op, v, w with
        | .times, number (.item (.signed k)), .list _ | .times, number (.item (.signed k)), .tuple _ =>
          .ok ((w.repeat? k).getD w)
        | .times, .list _, number (.item (.signed k)) | .times, .tuple _, number (.item (.signed k)) =>
          .ok ((v.repeat? k).getD v)
        | _, _, _ => do
          let a ← Failure.lift v.operandGrid
          let b ← Failure.lift w.operandGrid
          let (line, ps) ← Failure.lift (a.pairs b)
          let anyKind := a.kind = .any || b.kind = .any
          let items ← ps.mapM fun (x, y) => elementwise (combineUpTo id n op) op anyKind x y
          return Grid.toValue { kind := resultKind op a.kind b.kind items, line, items }
      else
        match other with
        | some e => op.onExprRight id v w e
        | none => plainly (combineUpTo id n op) op v w

/-- An operator on two values. A constraint that it makes gets the given identity. -/
@[irreducible]
def combine (id : Nat) (op : Operator) (v w : Value) : Except Failure Value :=
  combineUpTo id (v.depth + w.depth + 2) op v w

/-- Whether a comparison of two values counts as true, for which no object has to be looked at. -/
def holds (op : Operator) (v w : Value) : Except Failure Bool := do
  Failure.lift ((← combine 0 op v w).truthy .blank)

/-- The opposite of an element of an array, or of a value that is none, down to a number of values
within values. -/
def negateUpTo : Nat → Value → Except Failure Value
  | 0, _ => .error (.fault .tooDeep)
  | n + 1, v =>
    match v with
    | number x => Failure.lift (number <$> x.neg)
    | cell .any x => negateUpTo n x
    | cell .. => .error (.fault .noOperation)
    | array .any xs => do return array .any (← xs.mapM (negateUpTo n))
    | array (.numbers k) xs => do return array (.numbers k) (← xs.mapM (negateUpTo n))
    | array (.texts _) _ => .error (.fault .noOperation)
    | v =>
      match v.operand? with
      | some e => .ok (expr 0 e.negate)
      | none => .error (.fault .wrongType)

def negate (v : Value) : Except Failure Value := negateUpTo (v.depth + 1) v

/-- A domain of a kind with its own infinity, if one is given. It must have an opposite if the domain
is continuous, and a binary domain takes none. -/
def newDomain (kind : VarKind) (infinity : Option Value) : Except Failure Value :=
  match kind, infinity with
  | _, none => .ok (ofDomain (.default kind))
  | .continuous, some v => do
    let _ ← v.negate
    return domain kind v
  | .integer, some v => .ok (domain kind v)
  | .binary, some _ => .error (.fault .wrongType)

/-! ## Sums -/

/-- The sum of a sequence from left to right, from a start on that is no text. -/
def sum (xs : List Value) (start : Value) : Except Failure Value :=
  match start with
  | text _ | textItem _ | bytes _ => .error (.fault .wrongType)
  | start => xs.foldlM (combine 0 .plus) start

/-- The sum of a sequence of variables and expressions, by merging all their terms at once. -/
def sumExpressions (view : View) (v : Value) : Except Failure Value := do
  match ← Failure.lift (v.elements view) with
  | .finite xs => return expr 0 (LinearExpr.sum (← xs.mapM (LinearExpr.ofValue "sum_expr")))
  | .endless x => .expr 0 <$> LinearExpr.ofValue "sum_expr" x

/-- The pairs of elements of two sequences, as long as there are both. -/
def zipElements : Elements → Elements → Except Fault (List Value)
  | .finite xs, .finite ys => .ok (List.zipWith (fun x y => tuple [x, y]) xs ys)
  | .finite xs, .endless y => .ok (xs.map fun x => tuple [x, y])
  | .endless x, .finite ys => .ok (ys.map fun y => tuple [x, y])
  | .endless _, .endless _ => .error .exhausted

/-- The expression with the given variables and coefficients. -/
def scalarProduct (view : View) (factors coefficients : Value) : Except Failure Value := do
  let factors ← Failure.lift (factors.elements view)
  let coefficients ← Failure.lift (coefficients.elements view)
  .expr 0 <$> LinearExpr.ofPairs view (← Failure.lift (zipElements factors coefficients))

end Value

end Milp

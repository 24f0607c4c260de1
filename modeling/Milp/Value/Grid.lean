import Milp.Value.Basic
set_option autoImplicit false

/-! # Arrays

An array has no dimension and one element, or one dimension and any number of elements. Its elements
are all of one kind, the least that takes what the array is built from (`ElementKind.join`). Arrays
meet element by element: one without dimensions, or with a single element, meets every element of
the other (`Grid.pairs`, `Grid.length_pairs`). -/

namespace Milp

/-! ## Kinds of elements -/

namespace ElementKind

/-- How wide the texts of numbers can be. -/
def textWidth : NumberKind → Nat
  | .truth => 5
  | .signed => 21
  | .unsigned => 20
  | .real => 32
  | .complex => 64

/-- The least kind that takes the elements of two kinds. -/
def join : ElementKind → ElementKind → ElementKind
  | any, _ | _, any => any
  | numbers k, numbers l => numbers (k.join l)
  | texts m, texts n => texts (max m n)
  | numbers k, texts n | texts n, numbers k => texts (max (textWidth k) n)

theorem join_any (k : ElementKind) : k.join any = any := by cases k <;> rfl

theorem join_comm (k l : ElementKind) : k.join l = l.join k := by
  cases k <;> cases l <;> simp [join, NumberKind.join_comm, Nat.max_comm]

end ElementKind

namespace Value

/-- A text as an array keeps it: without zero characters at its end. -/
def withoutZeros (s : String) : String :=
  String.ofList ((s.toList.reverse.dropWhile (· = '\x00')).reverse)

/-- The kind of array that a single value makes. -/
def elementKind : Value → ElementKind
  | number x => (x.kind?.map ElementKind.numbers).getD .any
  | text s | textItem s => .texts (max 1 s.length)
  | cell k _ => k
  | _ => .any

/-- A value as an element of a kind that takes it. -/
def toItem (k : ElementKind) (v : Value) : Except Fault Value :=
  match k, v with
  | .numbers k, number x => (fun e => number (.item e)) <$> x.toElement k
  | .texts _, text s | .texts _, textItem s | .texts _, cell _ (text s) =>
    .ok (textItem (withoutZeros s))
  | .texts _, number x => .ok (textItem x.text)
  | .any, number (.cell e) => .ok (number (Number.ofElement e))
  | .any, cell _ x => .ok x
  | _, v => .ok v

/-- An element as a value of its own. -/
def native : Value → Value
  | number (.item e) | number (.cell e) => number (Number.ofElement e)
  | textItem s => text s
  | v => v

/-- Whether a value has a dimension that an array takes over. -/
def isLine : Value → Bool
  | list _ | tuple _ | array .. => true
  | _ => false

end Value

/-! ## Grids -/

/-- The elements of an array with their kind; `line` if the array has a dimension. -/
structure Grid where
  kind : ElementKind
  line : Bool
  items : List Value

namespace Grid

/-- A sequence as an array. Sequences within sequences must all be such, and of one length. -/
def ofList (xs : List Value) : Except Fault Grid := do
  if xs.any Value.isLine then
    let lengths := xs.map fun x => match x with
      | .list ys | .tuple ys | .array _ ys => some ys.length
      | _ => none
    if lengths.any (· ≠ lengths.headD none) then .error .wrongValue
    return { kind := .any, line := true, items := xs }
  else
    let kind := match xs with
      | [] => .numbers .real
      | x :: rest => rest.foldl (fun k y => k.join y.elementKind) x.elementKind
    return { kind, line := true, items := ← xs.mapM (Value.toItem kind) }

/-- A value as an array. -/
def ofValue : Value → Except Fault Grid
  | .list xs | .tuple xs => ofList xs
  | .array kind xs => .ok { kind, line := true, items := xs }
  | v => do return { kind := v.elementKind, line := false, items := [← v.toItem v.elementKind] }

/-- What an operation on arrays gives: an element, or an array with a dimension. -/
def toValue (g : Grid) : Value :=
  match g.line, g.items with
  | false, [x] => x
  | _, xs => .array g.kind xs

/-- The pairs of elements that meet, and whether they lie along a dimension. -/
def pairs (a b : Grid) : Except Fault (Bool × List (Value × Value)) :=
  let line := a.line || b.line
  match a.items, b.items with
  | [x], ys => .ok (line, ys.map (x, ·))
  | xs, [y] => .ok (line, xs.map (·, y))
  | xs, ys => if xs.length = ys.length then .ok (line, xs.zip ys) else .error .wrongValue

theorem length_pairs {a b : Grid} {line : Bool} {ps : List (Value × Value)}
    (h : a.pairs b = .ok (line, ps)) (ha : a.items ≠ []) (hb : b.items ≠ []) :
    ps.length = max a.items.length b.items.length := by
  unfold pairs at h
  rcases hx : a.items with _ | ⟨x, _ | ⟨x', xs⟩⟩
  · exact absurd hx ha
  · rcases hy : b.items with _ | ⟨y, ys⟩
    · exact absurd hy hb
    · simp only [hx, hy, Except.ok.injEq, Prod.mk.injEq] at h
      rw [← h.2]
      simp only [List.length_map, List.length_cons, List.length_nil]
      omega
  · rcases hy : b.items with _ | ⟨y, _ | ⟨y', ys⟩⟩
    · exact absurd hy hb
    · simp only [hx, hy, Except.ok.injEq, Prod.mk.injEq] at h
      rw [← h.2]
      simp only [List.length_map, List.length_cons, List.length_nil]
      omega
    · simp only [hx, hy] at h
      split at h
      · rename_i he
        simp only [Except.ok.injEq, Prod.mk.injEq] at h
        rw [← h.2, List.length_zip]
        omega
      · contradiction

end Grid

namespace Value

/-- A value as the array that holds it. -/
def arrayOf (v : Value) : Except Fault Value := do
  let g ← Grid.ofValue v
  match g.line, g.items with
  | true, xs => return array g.kind xs
  | false, [number (.item e)] => return number (.cell e)
  | false, [textItem s] => return cell g.kind (text s)
  | false, xs => return cell g.kind (xs.headD nothing)

/-- Whether a value is an array or was taken out of one. -/
def isFromArray : Value → Bool
  | number (.item _) | number (.cell _) | textItem _ | cell .. | array .. => true
  | _ => false

/-! ## Equality -/

/-- Whether all of no more than one condition hold. -/
def onlyCondition : List Bool → Except Fault Bool
  | [b] => .ok b
  | _ => .error .wrongValue

/-- Whether both of each pair are equal, up to the first that are not. -/
def allEqual (eq : Value → Value → Except Fault Bool) : List (Value × Value) → Except Fault Bool
  | [] => .ok true
  | (x, y) :: rest => do if ← eq x y then allEqual eq rest else return false

/-- Whether two values are equal, as a condition, up to a depth of nested values. A number taken out of
an array takes one level more, on which it is an operand of its own. -/
def equalsUpTo : Nat → Value → Value → Except Fault Bool
  | 0, _, _ => .error .tooDeep
  | n + 1, v, w =>
    match v, w with
    | number x, number y => x.eq y
    | list xs, list ys | tuple xs, tuple ys =>
      if xs.length = ys.length then allEqual (equalsUpTo n) (xs.zip ys) else .ok false
    | table xs, table ys =>
      if xs.length = ys.length then
        xs.foldlM (fun (b : Bool) (k, x) => match lookup ys k with
          | some y => if b then equalsUpTo n x y else .ok false
          | none => .ok false) true
      else .ok false
    | _, _ =>
      if (v.isFromArray || w.isFromArray) && !(v.isText && w.isText) then do
        let a ← Grid.ofValue v
        let b ← Grid.ofValue w
        let (_, ps) ← a.pairs b
        onlyCondition (← ps.mapM fun (x, y) => match a.kind, b.kind with
          | .any, _ | _, .any => equalsUpTo n x.native y.native
          | _, _ => match x, y with
            | number s, number t => s.eq t
            | x, y => .ok (x.same y))
      else .ok (v.same w)

/-- Whether two values are equal, as a condition: arrays are compared element by element, and the
result is a condition only if there is just one element. -/
@[irreducible]
def equals (v w : Value) : Except Fault Bool := equalsUpTo (v.depth + w.depth + 2) v w

end Value

end Milp

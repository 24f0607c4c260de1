import Milp.Value.Basic
set_option autoImplicit false

/-! # Arguments of calls by name

A call passes some arguments in order and others by name. An operation has parameters, of which some
may be left out; every argument must belong to exactly one of them. Main statement: binding gives
one value for each parameter (`Arguments.length_bind`). -/

namespace Milp

structure Parameter where
  name : String
  /-- What the parameter is when it is left out; one without a default must be given. -/
  default : Option Value := none

structure Arguments where
  positional : List Value := []
  named : List (String × Value) := []

namespace Arguments

/-- The values of parameters, in their order. -/
def bindFrom (named : List (String × Value)) : List Parameter → List Value → Except Fault (List Value)
  | [], [] => .ok []
  | [], _ :: _ => .error .wrongType
  | p :: rest, v :: vs =>
    if (named.lookup p.name).isSome then .error .wrongType
    else (v :: ·) <$> bindFrom named rest vs
  | p :: rest, [] =>
    match (named.lookup p.name).or p.default with
    | some v => (v :: ·) <$> bindFrom named rest []
    | none => .error .wrongType

/-- The values of all parameters; an argument that belongs to none is a fault. -/
def bind (a : Arguments) (ps : List Parameter) : Except Fault (List Value) :=
  if a.named.all fun n => ps.any (·.name = n.1) then bindFrom a.named ps a.positional
  else .error .wrongType

theorem length_bindFrom {named : List (String × Value)} {ps : List Parameter}
    {args values : List Value} (h : bindFrom named ps args = .ok values) :
    values.length = ps.length := by
  induction ps generalizing args values with
  | nil =>
    cases args with
    | nil => simp only [bindFrom, Except.ok.injEq] at h; simp [← h]
    | cons v vs => simp [bindFrom] at h
  | cons p rest ih =>
    have step : ∀ (v : Value) (vs : List Value),
        (v :: ·) <$> bindFrom named rest vs = .ok values → values.length = rest.length + 1 := by
      intro v vs hv
      cases hr : bindFrom named rest vs with
      | error f => simp [hr, Functor.map, Except.map] at hv
      | ok ws =>
        simp only [hr, Functor.map, Except.map, Except.ok.injEq] at hv
        simp [← hv, ih hr]
    cases args with
    | nil =>
      simp only [bindFrom] at h
      split at h
      · exact step _ _ h
      · contradiction
    | cons v vs =>
      simp only [bindFrom] at h
      split at h
      · contradiction
      · exact step _ _ h

theorem length_bind {a : Arguments} {ps : List Parameter} {values : List Value}
    (h : a.bind ps = .ok values) : values.length = ps.length := by
  unfold bind at h
  split at h
  · exact length_bindFrom h
  · contradiction

/-- Parameters that must all be given. -/
def required (names : List String) : List Parameter := names.map fun name => { name }

def bind0 (a : Arguments) : Except Fault Unit := (fun _ => ()) <$> a.bind []

def bind1 (a : Arguments) (p : Parameter) : Except Fault Value := do
  match ← a.bind [p] with
  | [x] => return x
  | _ => .error .wrongType

def bind2 (a : Arguments) (p q : Parameter) : Except Fault (Value × Value) := do
  match ← a.bind [p, q] with
  | [x, y] => return (x, y)
  | _ => .error .wrongType

def bind3 (a : Arguments) (p q r : Parameter) : Except Fault (Value × Value × Value) := do
  match ← a.bind [p, q, r] with
  | [x, y, z] => return (x, y, z)
  | _ => .error .wrongType

/-- The first argument and all that follow it. -/
def bindMessage (a : Arguments) : Except Fault (Value × List Value) := do
  match a.positional, a.named with
  | msg :: rest, [] => return (msg, rest)
  | [], [("msg", msg)] => return (msg, [])
  | _, _ => .error .wrongType

end Arguments

end Milp

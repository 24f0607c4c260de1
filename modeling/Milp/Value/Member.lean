import Milp.Value.Grid
set_option autoImplicit false

/-! # Members and elements of values

What can be read off a value by the name of a member, or picked out of it by a position or a key. -/

namespace Milp

/-- What can be read off a variable. -/
def Var.property? (v : Var) : String → Option Value
  | "name" => some (.ofName v.name)
  | "lb" => some (.number v.lower)
  | "ub" => some (.number v.upper)
  | "vartype" => some (.ofDomain v.domain)
  | "typecode" => some (.text v.kind.code)
  | "obj" => some (.float v.objective)
  | _ => none

/-- What can be read off a constraint. -/
def Constraint.property? (c : Constraint) : String → Option Value
  | "name" => some (.ofName c.name)
  | "expr" => some (.expr 0 c.expr)
  | "type" | "sense" => some (.sense c.sense)
  | "sense_code" => some (.text c.sense.code)
  | "rhs" => some (.float c.bound)
  | _ => none

/-- The upper bound of a domain for variables that ask for none. -/
def VarKind.defaultUpper (infinity : Value) : VarKind → Value
  | .binary => .int 1
  | _ => infinity

/-- What can be read off a domain. -/
def VarKind.property? (k : VarKind) (infinity : Value) : String → Option Value
  | "engine_typecode" => some (.text k.code)
  | "short_name" => some (.text k.shortName)
  | "default_lb" => some (.int 0)
  | "default_ub" => some (k.defaultUpper infinity)
  | _ => none

/-- What can be read off a number. -/
def Number.property? (x : Number) : String → Option Value
  | "real" =>
    some (match x.plain with
      | .truth b => .int (truthNumber b)
      | .complex re _ => .float re
      | y => .number y)
  | "imag" =>
    some (match x.plain with
      | .complex _ im => .float im
      | .float _ => .float Double.zero
      | _ => .int 0)
  | "numerator" => x.whole?.map Value.int
  | "denominator" => x.whole?.map fun _ => Value.int 1
  | _ => none

namespace Value

/-- What a value has under the name of a member. -/
def member (view : View) (v : Value) (name : String) : Except Fault Value :=
  let found := match v with
    | refusal r =>
      match name with
      | "name" => some (text r.name)
      | "value" => some (int r.code)
      | _ => (Number.refusal r).property? name
    | number x => x.property? name
    | var x => x.property? name
    | constraint c => c.property? name
    | domain k infinity => k.property? infinity name
    | sense s =>
      match name with
      | "name" => some (text s.name)
      | "value" => some (int s.number)
      | "engine_code" => some (text s.code)
      | "operator_symbol" => some (text s.symbol)
      | _ => none
    | direction d =>
      match name with
      | "name" => some (text d.name)
      | "value" => some (int d.number)
      | _ => none
    | _ => none
  match v, found with
  | _, some x => .ok x
  | ref r, none => view.member r name
  | _, none => .error .missingMember

/-- The element at a position. -/
def elementOf (xs : List Value) (i : Nat) : Except Fault Value :=
  match xs[i]? with
  | some x => .ok x
  | none => .error .badIndex

/-- The value of a key in a table, which must be there. -/
def entryOf (entries : List (Value × Value)) (key : Value) : Except Fault Value :=
  match lookup entries key with
  | some x => .ok x
  | none => .error .missingKey

/-- What is picked out of a value by a position. -/
def pickAt (view : View) (v : Value) (i : Nat) : Except Fault Value :=
  match v with
  | list xs | tuple xs | array _ xs => elementOf xs i
  | text s | textItem s => elementOf (s.toList.map fun c => text (String.singleton c)) i
  | bytes s => elementOf (s.toList.map fun c => int c.toNat) i
  | table es => entryOf es (int i)
  | expr .. => .ok (float Double.zero)
  | number (.item _) | number (.cell _) | cell .. => .error .badIndex
  | ref r =>
    match view.entries r with
    | some es => entryOf es (int i)
    | none => .error .wrongType
  | _ => .error .wrongType

/-- What is picked out of a value by a word. -/
def pickNamed (view : View) (v : Value) (key : String) : Except Fault Value :=
  match v with
  | table es => entryOf es (text key)
  | expr .. => .ok (float Double.zero)
  | number (.item _) | number (.cell _) | cell .. | array .. => .error .badIndex
  | ref r =>
    match view.entries r with
    | some es => entryOf es (text key)
    | none => .error .wrongType
  | _ => .error .wrongType

end Value

end Milp

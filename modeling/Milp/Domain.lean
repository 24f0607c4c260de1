import Milp.Number
set_option autoImplicit false

/-! # Domains of variables

A variable is continuous, integer or binary. Its domain fixes the default bounds and turns requested
bounds into usable ones: bounds of a binary variable become 0 or 1, those of an integer variable are
rounded towards the inside, and bounds beyond the domain's infinity are cut to it. -/

namespace Milp

/-- The kinds of variables. -/
inductive VarKind where
  | continuous
  | integer
  | binary
deriving DecidableEq, Repr

namespace VarKind

/-- The letter by which engines know a kind. -/
def code : VarKind → String
  | continuous => "C"
  | integer => "I"
  | binary => "B"

def shortName : VarKind → String
  | continuous => "float"
  | integer => "int"
  | binary => "binary"

def ofCode? : String → Option VarKind
  | "C" => some continuous
  | "I" => some integer
  | "B" => some binary
  | _ => none

/-- A kind from its code or one of its names. -/
def ofName? : String → Option VarKind
  | "C" | "float" | "continuous" => some continuous
  | "I" | "int" | "integer" => some integer
  | "B" | "binary" => some binary
  | _ => none

def isDiscrete : VarKind → Bool
  | continuous => false
  | _ => true

theorem ofCode?_code (k : VarKind) : ofCode? k.code = some k := by cases k <;> rfl

end VarKind

/-- A kind with the number that stands for infinity in its bounds; binary domains do not use it. -/
structure Domain where
  kind : VarKind
  infinity : Number := .float Milp.infinity
deriving DecidableEq

namespace Domain

def default (kind : VarKind) : Domain := { kind }

/-- The lower bound that is used for a requested one. -/
def lowerFor (d : Domain) (x : Number) : Except Fault Number := do
  match d.kind with
  | .binary => return .int (if ← x.le (.int 0) then 0 else 1)
  | .continuous =>
    let lowest ← d.infinity.neg
    if ← x.lt lowest then return lowest else .float <$> x.toDouble
  | .integer =>
    let lowest ← d.infinity.neg
    if ← x.le lowest then return lowest else .int <$> x.ceil

/-- The upper bound that is used for a requested one. -/
def upperFor (d : Domain) (x : Number) : Except Fault Number := do
  match d.kind with
  | .binary => return .int (if ← Number.le (.int 1) x then 1 else 0)
  | .continuous => if ← d.infinity.lt x then return d.infinity else .float <$> x.toDouble
  | .integer => if ← d.infinity.le x then return d.infinity else .int <$> x.floor

end Domain

end Milp

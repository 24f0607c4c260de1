import Milp.Failure
import Milp.Text.Case
set_option autoImplicit false

/-! # Keywords

Senses, directions, domains and output levels may be given by name, by code, by number or as what
they are. The readers here accept all of these, without regard to case where a name is meant. -/

namespace Milp

/-! ## Senses -/

namespace Sense

/-- A sense from its symbol, its name or its code. -/
def ofText? (s : String) : Option Sense :=
  let named := all.find? fun c => s = c.symbol ∨ Text.lower s = Text.lower c.name ∨ s = c.code
  named <|> if s = "=" then some equal else none

/-- A sense from its number. An array of one element counts as its element. -/
def ofNumber? (v : Value) : List Sense → Except Fault (Option Sense)
  | [] => do if ← v.equals (.text "=") then return some equal else return none
  | s :: rest => do if ← v.equals (.int s.number) then return some s else ofNumber? v rest

/-- The sense that a value stands for. -/
def ofValue (v : Value) : Except Failure Sense :=
  match v with
  | .sense s => .ok s
  | .text s =>
    match ofText? s with
    | some c => .ok c
    | none => .error (.notASense v)
  | _ =>
    match ofNumber? v all with
    | .ok (some c) => .ok c
    | .ok none => .error (.notASense v)
    | .error f => .error (.fault f)

theorem ofText?_code (s : Sense) : ofText? s.code = some s := by cases s <;> decide

theorem ofValue_code (s : Sense) : ofValue (.text s.code) = .ok s := by
  simp [ofValue, ofText?_code]

end Sense

/-! ## Directions -/

namespace Direction

/-- The direction that a value stands for. -/
def ofValue (v : Value) : Except Failure Direction :=
  match v with
  | .direction d => .ok d
  | .text s =>
    let word := Text.lower s
    if word = "minimize" ∨ word = "min" then .ok minimize
    else if word = "maximize" ∨ word = "max" then .ok maximize
    else .error (.directionText v)
  | _ =>
    match v.equals (.int minimize.number), v.equals (.int maximize.number) with
    | .ok true, _ => .ok minimize
    | .ok false, .ok true => .ok maximize
    | .ok false, .ok false => .error (.directionValue v)
    | .error f, _ | _, .error f => .error (.fault f)

end Direction

/-! ## Domains -/

namespace Domain

/-- The kind of domain that a value stands for, and its infinity: those of a domain, or of a kind by
its code or one of its names. -/
def partsOfValue (v : Value) : Except Failure (VarKind × Value) :=
  match v with
  | .domain kind infinity => .ok (kind, infinity)
  | .text s =>
    let named := [s, Text.lower s, Text.upper s].findSome? VarKind.ofName?
    match named with
    | some kind => .ok (kind, .number (default kind).infinity)
    | none => .error (.notADomain v)
  | _ => .error (.notADomain v)

end Domain

/-! ## Output levels -/

/-- How serious a message must be to be printed: from 0 for everything to 4 for fatal messages
only. A level that was given as a truth value is shown as one. -/
structure OutputLevel where
  rank : Nat
  asTruth : Bool := false
deriving DecidableEq, Repr

namespace OutputLevel

def informative : OutputLevel := { rank := 1 }

def toValue (l : OutputLevel) : Value :=
  if l.asTruth then .bool (l.rank = 1) else .int l.rank

/-- The level of a name in lower case. -/
def rankOfName? : String → Option Nat
  | "trace" | "debug" => some 0
  | "info" => some 1
  | "warning" | "warn" => some 2
  | "error" => some 3
  | "fatal" | "quiet" => some 4
  | _ => none

def ofText? (s : String) : Option OutputLevel :=
  (rankOfName? (Text.lower s)).map fun rank => { rank }

/-- The level that a value stands for, if it stands for one. What is neither a number nor a truth
value counts by its text. -/
def ofValue? : Value → Option OutputLevel
  | .nothing => none
  | .int n => if 0 ≤ n ∧ n ≤ 4 then some { rank := n.toNat } else none
  | .bool b => some { rank := if b then 1 else 0, asTruth := true }
  | v => ofText? (v.display .blank)

end OutputLevel

end Milp

import Milp.Engine.Checks
set_option autoImplicit false

/-! # Passing changes on to the native solver

An addition is several calls: the columns or rows, which columns are integer, and the names. If one
of them fails, what the first one added is deleted again. Warnings do not count as failures. Each
function answers whether the addition succeeded, and engines without a solver have nothing to do. -/

namespace Milp.Engine

/-- Values as numbers that stand one after the other. Sequences cannot stand for numbers, and they
must not be mixed with anything of another length. -/
def inArray {α : Type} (number : Value → Except Fault α) (vs : List Value) :
    Except Fault (List α) := do
  let _ ← Grid.ofList (vs.filter Value.isLine)
  if vs.any Value.isLine && !vs.all Value.isLine then .error .wrongValue
  vs.mapM number

/-- A double as an element of an array; a missing one becomes not-a-number. -/
def arrayElement : Value → Except Fault Double
  | .nothing => .ok .nan
  | v => v.toDouble

/-- A position as an element of an array, without its fraction. -/
def arrayPosition (v : Value) : Except Fault Int := v.toInt

def infinite : Double := .infinite false

/-- The two sides of a row. -/
def rowSides (s : Sense) (bound : Value) : Value × Value :=
  match s with
  | .atMost => (.float (-infinite), bound)
  | .atLeast => (bound, .float infinite)
  | .equal => (bound, bound)

/-- The bounds of a column; those of a binary one are cut to 0 and 1. -/
def columnSides (kind : VarKind) (lower upper : Value) : Except Failure (Value × Value) := do
  match kind with
  | .binary =>
    let zero := Value.float Double.zero
    let one := Value.float Double.one
    let lower := if ← Value.holds .below lower zero then zero else lower
    let upper := if ← Value.holds .below one upper then one else upper
    return (lower, upper)
  | _ => return (lower, upper)

/-- Whether a call of the native solver succeeds. -/
def succeeds (c : SolverCall) : Acting Bool := do return (← callSolver c) ≠ .error

/-- Names entities from a position on, until a call fails. -/
def passNames (call : Int → String → SolverCall) (position : Int) : List Value → Acting Bool
  | [] => return true
  | .nothing :: rest => passNames call (position + 1) rest
  | name :: rest => do
    let (_, w) ← get
    if ← succeeds (call position (name.display w.view)) then passNames call (position + 1) rest
    else return false

/-- Says of columns from a position on which ones are integer, if any are, and names them. -/
def describeColumns (marking : Option SolverCall) (first : Int) (names : List Value) :
    Acting Bool := do
  let marked ← match marking with
    | none => pure true
    | some c => succeeds c
  if marked then passNames .nameColumn first names else return false

/-- An addition with what has to be said about it. If that fails, what was added is deleted. -/
def addAndDescribe (addition undo : SolverCall) (description : Acting Bool) : Acting Bool := do
  if ← succeeds addition then
    if ← description then return true
    let _ ← callSolver undo
    return false
  else return false

/-- The positions of some entities from a first one on. -/
def positionsFrom (first : Nat) (count : Nat) : List Int :=
  (List.range count).map fun i => ((first + i : Nat) : Int)

/-- The call that marks a column as integer, if it is. -/
def markColumn (position : Int) (kind : VarKind) : Option SolverCall :=
  if kind = .continuous then none else some (.setInteger position)

/-- The call that marks columns from a position on as integer, if some are. -/
def markColumns (first : Nat) (kinds : List VarKind) : Option SolverCall :=
  let discrete := ((positionsFrom first kinds.length).zip kinds).filterMap fun (i, k) =>
    if k = .continuous then none else some i
  if discrete.isEmpty then none else some (.setIntegers discrete)

/-- Adds a column to the native solver. -/
def addNativeColumn (objective lower upper : Value) (kind : VarKind) (name : Value) :
    Acting Bool := do
  let position := (← solverInstance).columns
  let (lower, upper) ← Action.ofExcept (columnSides kind lower upper)
  let call ← Action.ofFault do
    return SolverCall.addColumn (← objective.toDouble) (← lower.toDouble) (← upper.toDouble)
  addAndDescribe call (.deleteColumns [(position : Int)])
    (describeColumns (markColumn position kind) position [name])

/-- Adds columns to the native solver. -/
def addNativeColumns (objectives lowers uppers : List Value) (kinds : List VarKind)
    (names : List Value) : Acting Bool := do
  let first := (← solverInstance).columns
  let sides ← Action.ofExcept
    ((kinds.zip (lowers.zip uppers)).mapM fun (k, l, u) => columnSides k l u)
  let call ← Action.ofFault do
    let objectives ← inArray arrayElement objectives
    let lowers ← inArray arrayElement (sides.map Prod.fst)
    let uppers ← inArray arrayElement (sides.map Prod.snd)
    return SolverCall.addColumns objectives lowers uppers
  addAndDescribe call (.deleteColumns (positionsFrom first objectives.length))
    (describeColumns (markColumns first kinds) first names)

/-- Adds a row to the native solver. -/
def addNativeRow (indices values : List Value) (sense : Sense) (bound name : Value) :
    Acting Bool := do
  let position := (← solverInstance).rows
  let (lower, upper) := rowSides sense bound
  let call ← Action.ofFault do
    let indices ← inArray arrayPosition indices
    let values ← inArray arrayElement values
    return SolverCall.addRow (← lower.toDouble) (← upper.toDouble) indices values
  addAndDescribe call (.deleteRows [(position : Int)]) (passNames .nameRow position [name])

/-- Adds rows to the native solver. -/
def addNativeRows (begins indices values : List Value) (senses : List Sense)
    (bounds names : List Value) : Acting Bool := do
  let first := (← solverInstance).rows
  let sides := (senses.zip bounds).map fun (s, b) => rowSides s b
  let call ← Action.ofFault do
    let lowers ← inArray arrayElement (sides.map Prod.fst)
    let uppers ← inArray arrayElement (sides.map Prod.snd)
    let begins ← inArray arrayPosition begins
    let indices ← inArray arrayPosition indices
    let values ← inArray arrayElement values
    return SolverCall.addRows lowers uppers begins indices values
  addAndDescribe call (.deleteRows (positionsFrom first bounds.length))
    (passNames .nameRow first names)

/-- Does something with the native solver, if the engine has one. -/
def ifNative (x : Acting Bool) : Acting Bool := do
  if (← engine).isNative then x else return true

end Milp.Engine

import Milp.Lp.Name
import Milp.Lp.Line
set_option autoImplicit false

/-! # Models in the LP format

A model is printed as an objective, rows, bounds and the lists of binary and general variables.
Bounds that a reader would assume anyway are left out. Columns and rows are not checked before they
are printed: a part that cannot be printed makes the line fail that needs it. -/

namespace Milp.Lp

/-- A column as it is printed; `extra` is what it should not hold. -/
structure Column where
  objective : Value
  lower : Value
  upper : Value
  kind : Value
  name : Value
  extra : List Value := []

/-- A row as it is printed: positions of columns with their coefficients, its sense by its code, and
its bound; `extra` is what it should not hold. -/
structure Row where
  indices : Value
  values : Value
  sense : Value
  bound : Value
  name : Value
  extra : List Value := []

structure Model where
  name : Value
  sense : Value
  columns : List Column
  rows : List Row

/-- The name of a model without one. -/
def unnamed : String := "model"

/-- The element at a position; a negative one counts from the end. -/
def elementAt {α : Type} (xs : List α) (index : Value) : Except Failure α := do
  let i ← Failure.lift index.toIndex
  let i := if i < 0 then i + xs.length else i
  match if i < 0 then none else xs[i.toNat]? with
  | some x => return x
  | none => .error (.fault .badIndex)

/-- The sign between a row and its right-hand side. -/
def senseSign : Sense → String
  | .atMost => " <= "
  | .equal => " = "
  | .atLeast => " >= "

/-- The sense of a code, which must be one of the three. -/
def senseOf (v : Value) : Except Failure Sense :=
  match v.text?.bind Sense.ofCode? with
  | some s => .ok s
  | none => .error (.fault (if v.isKey then .missingKey else .wrongType))

/-! ## Lines -/

/-- The line with the name of the model, which may fill in several parts. -/
def nameLine (view : View) (name : Value) : Except Failure String :=
  Failure.lift do
    let name := if ← name.truthy view then name else .text unnamed
    Template.fillPercent view "\\Problem name: %s" (.ofValue name)

def directionLine (sense : Value) : Except Failure String := do
  return if ← Failure.lift (sense.equals (.int 1)) then "Minimize" else "Maximize"

/-- The columns with an objective coefficient other than zero. -/
def objectiveTerms : List (Column × String) →
    Except Failure (List (Value × Except Failure String))
  | [] => .ok []
  | (c, name) :: rest => do
    let isZero ← Failure.lift (c.objective.equals (.int 0))
    let terms ← objectiveTerms rest
    return if isZero then terms else (c.objective, .ok name) :: terms

def objectiveLines (columns : List (Column × String)) : List (Except Failure String) :=
  match objectiveTerms columns with
  | .ok terms => expressionLines " obj:" terms (.ok "")
  | .error f => [.error f]

/-- The terms of a row, as long as there are both positions and values. -/
def Row.terms (view : View) (r : Row) (names : List String) :
    Except Failure (List (Value × Except Failure String)) := do
  let indices ← Failure.lift (r.indices.allElements view)
  let values ← Failure.lift (r.values.allElements view)
  return (indices.zip values).map fun (i, k) => (k, elementAt names i)

def Row.lines (view : View) (r : Row) (names : List String) (name : String) :
    List (Except Failure String) :=
  if !r.extra.isEmpty then [.error (.fault .wrongValue)]
  else
    match r.terms view names with
    | .error f => [.error f]
    | .ok terms =>
      expressionLines s!" {name}:" terms do
        let sign := senseSign (← senseOf r.sense)
        return sign ++ (← numberText r.bound)

def hasKind (c : Column) (kind : VarKind) : Except Failure Bool :=
  Failure.lift (c.kind.equals (.text kind.code))

/-- The line for the bounds of a column; none for a column that is only bounded below by zero. -/
def Column.boundsLine? (c : Column) (name : String) : Except Failure (Option String) := do
  if !c.extra.isEmpty then .error (.fault .wrongValue)
  else if ← hasKind c .binary then return some s!" 0 <= {name} <= 1"
  else
    let free ← if ← unboundedBelow c.lower then unboundedAbove c.upper else pure false
    if free then return some s!" {name} free"
    else if ← unboundedAbove c.upper then
      if ← Failure.lift (Value.equals (.int 0) c.lower) then return none
      else return some s!" {name} >= {← numberText c.lower}"
    else
      let lower ← numberText c.lower
      return some s!" {lower} <= {name} <= {← numberText c.upper}"

/-- The lines for the bounds of columns, up to the first that cannot be printed. -/
def boundsLines (columns : List (Column × String)) : List (Except Failure String) :=
  columns.flatMap fun (c, name) =>
    match c.boundsLine? name with
    | .ok line => (line.map .ok).toList
    | .error f => [.error f]

/-- The names of the columns of one kind. -/
def namesOfKind (kind : VarKind) : List (Column × String) → Except Failure (List String)
  | [] => .ok []
  | (c, name) :: rest => do
    let isOfKind ← hasKind c kind
    let names ← namesOfKind kind rest
    return if isOfKind then name :: names else names

/-- The list of the columns of one kind, under a title. -/
def kindLines (title : String) (kind : VarKind) (columns : List (Column × String)) :
    List (Except Failure String) :=
  match namesOfKind kind columns with
  | .error f => [.error f]
  | .ok [] => []
  | .ok names => [.ok "", .ok title, .ok (" " ++ " ".intercalate names)]

/-- The lines of a model whose columns and rows are printed with the given names. -/
def Model.lines (view : View) (m : Model) (columnNames rowNames : List String) :
    List (Except Failure String) :=
  let columns := m.columns.zip columnNames
  [nameLine view m.name, .ok "", directionLine m.sense] ++ objectiveLines columns
    ++ [.ok "Subject To"]
    ++ (m.rows.zip rowNames).flatMap (fun (r, name) => r.lines view columnNames name)
    ++ [.ok "", .ok "Bounds"] ++ boundsLines columns
    ++ kindLines "Binaries" .binary columns
    ++ kindLines "Generals" .integer columns
    ++ [.ok "End"]

/-- The text of a model as far as it can be printed, and the failure that ended it. Names are
numbered from `offset` on. -/
def Model.text (view : View) (m : Model) (offset : Value) : String × Option Failure :=
  match printedNames "x" offset (m.columns.map (·.name)),
      printedNames "c" offset (m.rows.map (·.name)) with
  | .ok columnNames, .ok rowNames => written (m.lines view columnNames rowNames)
  | .error f, _ | _, .error f => ("", some f)

end Milp.Lp

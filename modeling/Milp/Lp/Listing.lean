import Milp.Lp.Printer
import Milp.Value.Member
set_option autoImplicit false

/-! # Columns and rows from lists

A column may be listed as its objective, bounds, kind and name, and a row as its positions, values,
sense, bound and name. A list that is too short has no such entry. Columns must have usable names
before rows are looked at. -/

namespace Milp.Lp

/-- The parts of a column or a row, which must reach to its name. -/
def partsOf (view : View) (v : Value) : Except Failure (List Value) :=
  Failure.lift do
    let _ ← v.pickAt view 4
    v.allElements view

def Column.ofValue (view : View) (v : Value) : Except Failure Column := do
  match ← partsOf view v with
  | objective :: lower :: upper :: kind :: name :: extra =>
    return { objective, lower, upper, kind, name, extra }
  | _ => .error (.fault .badIndex)

def Row.ofValue (view : View) (v : Value) : Except Failure Row := do
  match ← partsOf view v with
  | indices :: values :: sense :: bound :: name :: extra =>
    return { indices, values, sense, bound, name, extra }
  | _ => .error (.fault .badIndex)

/-- The text of a model whose columns and rows are listed, as far as it can be printed. -/
def listingText (view : View) (name sense columns rows offset : Value) :
    String × Option Failure :=
  let model : Except Failure Model := do
    let columns ← (← Failure.lift (columns.allElements view)).mapM (Column.ofValue view)
    let _ ← printedNames "x" offset (columns.map (·.name))
    let rows ← (← Failure.lift (rows.allElements view)).mapM (Row.ofValue view)
    return { name, sense, columns, rows }
  match model with
  | .ok m => m.text view offset
  | .error f => ("", some f)

end Milp.Lp

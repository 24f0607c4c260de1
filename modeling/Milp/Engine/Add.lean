import Milp.Engine.Native
set_option autoImplicit false

/-! # Adding columns and rows

Columns and rows are added one at a time or in batches, in which rows are given one after the other
with the position where each one starts. Arguments are checked first, then passed on to the native
solver, and stored last. -/

namespace Milp.Engine

/-- The column that is stored for the arguments of an addition. -/
def columnOf (objective lower upper : Value) (kind : VarKind) (name : Value) :
    Except Fault Column :=
  return { objective := ← objective.toDouble, lower := ← lower.toDouble, upper := ← upper.toDouble,
           kind, name }

/-- The row that is stored for the arguments of an addition. -/
def rowOf (indices values : List Value) (sense : Sense) (bound name : Value) : Except Fault Row :=
  return { indices, values := ← values.mapM Value.toDouble, sense, bound := ← bound.toDouble, name }

/-- Ends an addition: what is known about a solution does not hold any more. -/
def finishAddition : Acting Value := do
  change clearSolution
  return accepted

/-! ## Columns -/

/-- Adds a column. -/
def addVar (objective lower upper kind name : Value) : Acting Value :=
  recorded (.addVar objective lower upper kind name) do
    match ← Action.ofFault (decode VarKind.ofCode? kind) with
    | none => return refused .invalidArgument
    | some kind =>
      if !(← ifNative (addNativeColumn objective lower upper kind name)) then
        return refused .engineFailure
      let column ← Action.ofFault (columnOf objective lower upper kind name)
      change (·.pushColumn column)
      finishAddition

/-- A column of a batch, before its numbers are read. -/
structure ColumnData where
  objective : Value
  lower : Value
  upper : Value
  kind : VarKind
  name : Value

/-- Stores the columns of a batch, up to the first one whose numbers cannot be read. -/
def storeColumns : List ColumnData → Acting Unit
  | [] => return ()
  | d :: rest => do
    let column ← Action.ofFault (columnOf d.objective d.lower d.upper d.kind d.name)
    change (·.pushColumn column)
    storeColumns rest

/-- The checked arguments of a batch of columns, if they fit together. -/
def checkColumns (count objectives lowers uppers kinds names : Value) :
    Except Failure (Option (List VarKind)) := do
  if !(← isCountOf count [objectives, lowers, uppers, kinds]) then return none
  Failure.lift do
    if !(← namesFit names count) then return none
    decodeAll VarKind.ofCode? (items kinds)

/-- Puts the parts of a batch of columns together. -/
def columnData (objectives lowers uppers : List Value) (kinds : List VarKind)
    (names : List Value) : List ColumnData :=
  (objectives.zip (lowers.zip (uppers.zip (kinds.zip names)))).map fun (o, l, u, k, n) =>
    ⟨o, l, u, k, n⟩

/-- Adds the columns of a batch. -/
def addVars (count objectives lowers uppers kinds names : Value) : Acting Value := do
  let objectives ← list objectives
  let lowers ← list lowers
  let uppers ← list uppers
  let kinds ← list kinds
  let names ← list names
  recorded (.addVars count objectives lowers uppers kinds names) do
    match ← Action.ofExcept (checkColumns count objectives lowers uppers kinds names) with
    | none => return refused .invalidArgument
    | some kinds =>
      let names ← Action.ofExcept (namesFor names count)
      let added ← ifNative
        (addNativeColumns (items objectives) (items lowers) (items uppers) kinds names)
      if !added then return refused .engineFailure
      let _ ← Action.ofFault count.toIndex
      storeColumns (columnData (items objectives) (items lowers) (items uppers) kinds names)
      finishAddition

/-! ## Rows -/

/-- Adds a row. -/
def addConstraint (size indices values sense bound name : Value) : Acting Value := do
  let indices ← list indices
  let values ← list values
  recorded (.addConstraint size indices values sense bound name) do
    let sense ← Action.ofFault do
      if !(← hasLength indices size) then return none
      if !(← hasLength values size) then return none
      decode Sense.ofCode? sense
    match sense with
    | none => return refused .invalidArgument
    | some sense =>
      let count := (← engine).columns.length
      if !(← Action.ofExcept (arePositions count (items indices))) then
        return refused .indexOutOfRange
      if !(← ifNative (addNativeRow (items indices) (items values) sense bound name)) then
        return refused .engineFailure
      let row ← Action.ofFault (rowOf (items indices) (items values) sense bound name)
      change (·.pushRow row)
      finishAddition

/-- A row of a batch, before its numbers are read. -/
structure RowData where
  start : Value
  stop : Value
  sense : Sense
  bound : Value
  name : Value

/-- The row of a batch whose terms are those between its start and its end. -/
def RowData.row (d : RowData) (indices values : List Value) : Except Fault Row := do
  let indices ← between indices d.start d.stop
  let values ← between values d.start d.stop
  rowOf indices values d.sense d.bound d.name

/-- Stores the rows of a batch, up to the first one whose numbers cannot be read. -/
def storeRows (indices values : List Value) : List RowData → Acting Unit
  | [] => return ()
  | d :: rest => do
    let row ← Action.ofFault (d.row indices values)
    change (·.pushRow row)
    storeRows indices values rest

/-- The checked senses of a batch of rows, if its arguments fit together. -/
def checkRows (count size begins indices values senses bounds names : Value) :
    Except Failure (Option (List Sense)) := do
  if !(← isCountOf count [begins, senses, bounds]) then return none
  let fitting ← Failure.lift do
    if !(← hasLength indices size) then return none
    if !(← hasLength values size) then return none
    if !(← namesFit names count) then return none
    decodeAll Sense.ofCode? (items senses)
  match fitting with
  | none => return none
  | some senses =>
    if !(begins matches .list _) then .error (.fault .wrongType)
    return if ← areParts (parts (items begins) size) then some senses else none

/-- Puts the parts of a batch of rows together. -/
def rowData (places : List (Value × Value)) (senses : List Sense) (bounds names : List Value) :
    List RowData :=
  (places.zip (senses.zip (bounds.zip names))).map fun ((a, b), s, r, n) => ⟨a, b, s, r, n⟩

/-- Adds the rows of a batch. -/
def addConstraints (count size begins indices values senses bounds names : Value) :
    Acting Value := do
  let begins ← list begins
  let indices ← list indices
  let values ← list values
  let senses ← list senses
  let bounds ← list bounds
  let names ← list names
  recorded (.addConstraints count size begins indices values senses bounds names) do
    match ← Action.ofExcept (checkRows count size begins indices values senses bounds names) with
    | none => return refused .invalidArgument
    | some senses =>
      let columns := (← engine).columns.length
      if !(← Action.ofExcept (arePositions columns (items indices))) then
        return refused .indexOutOfRange
      let names ← Action.ofExcept (namesFor names count)
      let added ← ifNative (addNativeRows (items begins) (items indices) (items values) senses
        (items bounds) names)
      if !added then return refused .engineFailure
      let _ ← Action.ofFault count.toIndex
      storeRows (items indices) (items values)
        (rowData (parts (items begins) size) senses (items bounds) names)
      finishAddition

end Milp.Engine

import Milp.Constraint
import Milp.Value.Basic
set_option autoImplicit false

/-! # The native solver

The library that solves models, as an engine sees it: numbered instances, each with its columns and
rows. What an instance makes of them is not modelled; runs give the outcomes that were set, and calls
can be told to fail. Every call is recorded.

Main statement: every call is recorded, whatever its answer (`Solver.trace_call`). -/

namespace Milp

/-- A call of an instance. -/
inductive SolverCall where
  | setOption (option value : Value)
  | addColumn (objective lower upper : Double)
  | addColumns (objectives lowers uppers : List Double)
  | addRow (lower upper : Double) (indices : List Int) (values : List Double)
  | addRows (lowers uppers : List Double) (begins indices : List Int) (values : List Double)
  | deleteColumns (indices : List Int)
  | deleteRows (indices : List Int)
  | setInteger (column : Int)
  | setIntegers (columns : List Int)
  | nameColumn (column : Int) (name : String)
  | nameRow (row : Int) (name : String)
  | setDirection (d : Direction)
  | write (file : String)
  | run

namespace SolverCall

def method : SolverCall → String
  | setOption .. => "setOptionValue"
  | addColumn .. => "addCol"
  | addColumns .. => "addCols"
  | addRow .. => "addRow"
  | addRows .. => "addRows"
  | deleteColumns .. => "deleteCols"
  | deleteRows .. => "deleteRows"
  | setInteger .. => "changeColIntegrality"
  | setIntegers .. => "changeColsIntegrality"
  | nameColumn .. => "passColName"
  | nameRow .. => "passRowName"
  | setDirection .. => "changeObjectiveSense"
  | write .. => "writeModel"
  | run => "run"

def isRun : SolverCall → Bool
  | run => true
  | _ => false

private def floats (xs : List Double) : Value := .list (xs.map .float)

private def ints (xs : List Int) : Value := .list (xs.map .int)

/-- What a call is recorded with. -/
def arguments : SolverCall → List Value
  | setOption option value => [option, value]
  | addColumn objective lower upper => [.float objective, .float lower, .float upper]
  | addColumns objectives lowers uppers =>
    [.int objectives.length, floats objectives, floats lowers, floats uppers]
  | addRow lower upper indices values =>
    [.float lower, .float upper, ints indices, floats values]
  | addRows lowers uppers begins indices values =>
    [.int lowers.length, floats lowers, floats uppers, .int indices.length, ints begins,
      ints indices, floats values]
  | deleteColumns indices => [.int indices.length, ints indices]
  | deleteRows indices => [.int indices.length, ints indices]
  | setInteger column => [.int column, .int 1]
  | setIntegers columns => [.int columns.length, ints columns, ints (columns.map fun _ => 1)]
  | nameColumn column name => [.int column, .text name]
  | nameRow row name => [.int row, .text name]
  | setDirection d => [.int d.number]
  | write file => [.text file]
  | run => []

end SolverCall

/-- The answer to a call. -/
inductive Reply where
  | ok
  | warning
  | error
deriving DecidableEq, Repr

/-- What a run ends with. -/
structure Outcome where
  status : Int := 0
  /-- Whether the values are a solution. -/
  valid : Bool := false
  values : List Double := []
  objective : Double := Double.zero

/-- Which calls of a method fail: `times` of them, or all, after some that do not. -/
structure FailureScript where
  after : Nat := 0
  times : Option Nat := none
  warning : Bool := false
deriving DecidableEq, Repr

/-- A script from the numbers that a caller gives: at least one call fails, and no less than none is
let through. -/
def FailureScript.ofNumbers (after : Int) (times : Option Int) (warning : Bool) : FailureScript :=
  { after := after.toNat, times := times.map fun n => max 1 n.toNat, warning }

/-- The answers to the next calls of a method. -/
abbrev Answers := Nat → Reply

/-- The answers that a script gives. -/
def FailureScript.answers (s : FailureScript) : Answers := fun n =>
  let failing := if s.warning then Reply.warning else Reply.error
  if n < s.after then .ok
  else
    match s.times with
    | some times => if n < s.after + times then failing else .ok
    | none => failing

structure SolverInstance where
  columns : Nat := 0
  rows : Nat := 0
  /-- What the last run ended with. -/
  outcome : Outcome := {}

/-- What a call does to an instance. -/
def SolverInstance.apply (i : SolverInstance) : SolverCall → SolverInstance
  | .addColumn .. => { i with columns := i.columns + 1 }
  | .addColumns objectives .. => { i with columns := i.columns + objectives.length }
  | .addRow .. => { i with rows := i.rows + 1 }
  | .addRows lowers .. => { i with rows := i.rows + lowers.length }
  | .deleteColumns indices => { i with columns := i.columns - indices.length }
  | .deleteRows indices => { i with rows := i.rows - indices.length }
  | _ => i

/-- A call that was made: of which instance, and how it was answered. -/
structure AnsweredCall where
  number : Nat
  call : SolverCall
  reply : Reply

structure Solver where
  instances : List SolverInstance := []
  /-- The answers to the next calls of methods; those of other methods succeed. -/
  scripts : List (String × Answers) := []
  /-- The outcomes of the next runs. -/
  outcomes : List Outcome := []
  history : List AnsweredCall := []

namespace Solver

def instance? (s : Solver) (i : Nat) : SolverInstance := s.instances.getD i {}

/-- The calls that were made, each with its instance. -/
def trace (s : Solver) : List (Nat × SolverCall) := s.history.map fun c => (c.number, c.call)

/-- Answers the calls of a method as given from now on; earlier answers for it are replaced. -/
def setScript (s : Solver) (method : String) (answers : Answers) : Solver :=
  { s with scripts := (method, answers) :: s.scripts.filter (·.1 ≠ method) }

def addOutcomes (s : Solver) (outcomes : List Outcome) : Solver :=
  { s with outcomes := s.outcomes ++ outcomes }

/-- The answer to the next call of a method. -/
def answer (s : Solver) (method : String) : Reply × Solver :=
  match s.scripts.lookup method with
  | none => (.ok, s)
  | some answers => (answers 0, s.setScript method fun n => answers (n + 1))

def updateInstance (s : Solver) (i : Nat) (f : SolverInstance → SolverInstance) : Solver :=
  { s with instances := s.instances.modify i f }

/-- A run takes the next outcome, whether it succeeds or not. -/
def takeOutcome (s : Solver) (i : Nat) : Solver :=
  let outcome := s.outcomes.headD {}
  { s.updateInstance i ({ · with outcome }) with outcomes := s.outcomes.tail }

def record (s : Solver) (c : AnsweredCall) : Solver := { s with history := s.history ++ [c] }

/-- What a call does once it has been answered. -/
def carryOut (s : Solver) (i : Nat) (c : SolverCall) (reply : Reply) : Solver :=
  let s := if reply = .error then s else s.updateInstance i (·.apply c)
  if c.isRun then s.takeOutcome i else s

/-- Calls an instance. -/
def call (i : Nat) (c : SolverCall) (s : Solver) : Reply × Solver :=
  let (reply, answered) := s.answer c.method
  (reply, (answered.record ⟨i, c, reply⟩).carryOut i c reply)

/-- A new instance, with its number. -/
def create (s : Solver) : Nat × Solver :=
  (s.instances.length, { s with instances := s.instances ++ [{}] })

theorem history_answer (s : Solver) (method : String) :
    (s.answer method).2.history = s.history := by
  unfold answer
  split <;> rfl

theorem history_carryOut (s : Solver) (i : Nat) (c : SolverCall) (reply : Reply) :
    (s.carryOut i c reply).history = s.history := by
  unfold carryOut
  by_cases h : reply = .error <;> by_cases hr : c.isRun <;>
    simp [h, hr, updateInstance, takeOutcome]

theorem history_call (i : Nat) (c : SolverCall) (s : Solver) :
    (s.call i c).2.history = s.history ++ [⟨i, c, (s.call i c).1⟩] := by
  rw [call, history_carryOut, record, history_answer]

theorem trace_call (i : Nat) (c : SolverCall) (s : Solver) :
    (s.call i c).2.trace = s.trace ++ [(i, c)] := by
  simp [trace, history_call]

end Solver

end Milp

set_option autoImplicit false

/-! # Codes

The numbers and names by which engines tell what happened and what can be asked of them: refusals of
a call, states of a model, and the attributes of models, variables and constraints. -/

namespace Milp

/-! ## Refusals -/

/-- Why an engine refuses a call. -/
inductive Refusal where
  | invalidArgument
  | dataNotAvailable
  | indexOutOfRange
  | fileWriteError
  | notInfeasible
  | notSupported
  | engineFailure
deriving DecidableEq, Repr

namespace Refusal

def all : List Refusal :=
  [invalidArgument, dataNotAvailable, indexOutOfRange, fileWriteError, notInfeasible, notSupported,
    engineFailure]

def name : Refusal → String
  | invalidArgument => "InvalidArgument"
  | dataNotAvailable => "DataNotAvailable"
  | indexOutOfRange => "IndexOutOfRange"
  | fileWriteError => "FileWriteError"
  | notInfeasible => "IISNotInfeasible"
  | notSupported => "NotSupported"
  | engineFailure => "EngineFailure"

/-- The status of a refused call; that of an accepted one is zero. -/
def code : Refusal → Int
  | invalidArgument => 10003
  | dataNotAvailable => 10005
  | indexOutOfRange => 10006
  | fileWriteError => 10013
  | notInfeasible => 10015
  | notSupported => 10017
  | engineFailure => 10020

theorem code_ne_zero (r : Refusal) : r.code ≠ 0 := by cases r <;> decide

end Refusal

/-! ## States of a model -/

namespace ModelState

def notSet : Int := 0
def optimal : Int := 7
def infeasible : Int := 8
def unboundedOrInfeasible : Int := 9
def unbounded : Int := 10

/-- The states in the order of their numbers. -/
def names : List String :=
  ["NotSet", "LoadError", "ModelError", "PresolveError", "SolveError", "PostsolveError",
    "ModelEmpty", "Optimal", "Infeasible", "UnboundedOrInfeasible", "Unbounded", "ObjectiveBound",
    "ObjectiveTarget", "TimeLimit", "IterationLimit", "Unknown", "SolutionLimit", "Interrupt",
    "MemoryLimit"]

/-- States that say that no assignment satisfies all constraints. -/
def isInfeasible (s : Int) : Bool := s = infeasible || s = unboundedOrInfeasible

/-- States in which reported values are no solution. -/
def hasNoSolution (s : Int) : Bool := isInfeasible s || s = unbounded

end ModelState

/-! ## Attributes -/

/-- Whole numbers that can be asked of a model. -/
inductive ModelAttribute where
  | sense
  | status
  | columnCount
  | rowCount
  | isMixedInteger
deriving DecidableEq, Repr

namespace ModelAttribute

def all : List ModelAttribute := [isMixedInteger, sense, rowCount, columnCount, status]

def name : ModelAttribute → String
  | sense => "ModelSense"
  | status => "Status"
  | columnCount => "NumVars"
  | rowCount => "NumConstrs"
  | isMixedInteger => "IsMIP"

def ofName? (s : String) : Option ModelAttribute := all.find? (·.name = s)

end ModelAttribute

/-- The only number with a fraction that can be asked of a model. -/
def objectiveAttribute : String := "ObjVal"

inductive VarAttribute where
  | lower
  | upper
  | objective
  | kind
  | name
  /-- The value in the solution. -/
  | value
deriving DecidableEq, Repr

namespace VarAttribute

def all : List VarAttribute := [lower, objective, upper, kind, name, value]

def label : VarAttribute → String
  | lower => "LB"
  | upper => "UB"
  | objective => "Obj"
  | kind => "VType"
  | name => "VarName"
  | value => "X"

def ofLabel? (s : String) : Option VarAttribute := all.find? (·.label = s)

end VarAttribute

inductive ConstraintAttribute where
  | name
  /-- Whether the constraint is in the irreducible infeasible subsystem. -/
  | inIis
  | bound
  | sense
deriving DecidableEq, Repr

namespace ConstraintAttribute

def all : List ConstraintAttribute := [name, inIis, bound, sense]

def label : ConstraintAttribute → String
  | name => "ConstrName"
  | inIis => "IISConstr"
  | bound => "RHS"
  | sense => "Sense"

def ofLabel? (s : String) : Option ConstraintAttribute := all.find? (·.label = s)

end ConstraintAttribute

/-- The version of the modelling layer. -/
def version : String := "1.0.0"

end Milp

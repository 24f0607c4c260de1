import Milp.Engine.Native
set_option autoImplicit false

/-! # Solving

Running an engine on the model that it holds, and finding an irreducible infeasible subsystem: rows
that cannot be satisfied together, while without any one of them they can. -/

namespace Milp.Engine

/-- Tells that all changes have been made. Nothing is left to do, but the call can be made to
fail. -/
def updateModel : Acting Value := do
  if (← engine).isNative then return accepted
  change (·.record .updateModel)
  injectedCode Call.updateModel.operation

/-! ## The value nearest to zero -/

/-- The number between two bounds that is nearest to zero. -/
def nearestToZero (lower upper : Double) : Double :=
  let x := if Double.zero.lt lower then lower else Double.zero
  if upper.lt x then upper else x

/-- The sum of products, from left to right. A sum without terms is the whole number zero. -/
def weightedSum (weights values : List Double) : Number :=
  match List.zipWith (· * ·) weights values with
  | [] => .int 0
  | products => .float (products.foldl (· + ·) Double.zero)

/-- The solution that gives every column the value of its domain nearest to zero. -/
def zeroSolution (columns : List Column) (iis : Option (List Nat)) : Solution :=
  let values := columns.map fun c => nearestToZero c.lower c.upper
  { status := ModelState.optimal
    objective := some (weightedSum (columns.map (·.objective)) values)
    values := some values
    iis }

def solveNearestToZero : Acting Value := do
  change fun e => { e with solution := zeroSolution e.columns e.solution.iis }
  return accepted

/-! ## The native solver -/

/-- What an outcome says about a solution: values count only if they are marked as valid and the
state does not rule them out. -/
def solutionOf (o : Outcome) : Solution :=
  if o.valid && !ModelState.hasNoSolution o.status then
    { status := o.status, objective := some (.float o.objective), values := some o.values }
  else { status := o.status }

/-- Runs the native solver. A failing run leaves the state that it ended in. -/
def solveNative : Acting Value := do
  change clearSolution
  let reply ← callSolver .run
  let outcome := (← solverInstance).outcome
  if reply = .error then
    change fun e => { e with solution := { status := outcome.status } }
    return refused .engineFailure
  change fun e => { e with solution := solutionOf outcome }
  return accepted

/-- Solves the model. -/
def optimize : Acting Value :=
  recorded .optimize do
    match (← engine).backend with
    | .store => return refused .notSupported
    | .nearestToZero | .faulty _ => solveNearestToZero
    | .native _ => solveNative

/-! ## Irreducible infeasible subsystems -/

/-- Calls an instance that was made for a single test. -/
def callScratch (i : Nat) (c : SolverCall) : Acting Reply := do
  let (e, w) ← get
  let (reply, solver) := w.solver.call i c
  set (e, { w with solver })
  return reply

/-- A new instance of the native solver that prints nothing. -/
def silentSolver : Acting Nat := do
  let (e, w) ← get
  let (i, solver) := w.solver.create
  set (e, { w with solver })
  let _ ← callScratch i (.setOption (.text "output_flag") (.bool false))
  return i

/-- The call that gives an instance all columns, with an objective of zero. -/
def addColumnsCall (columns : List Column) : SolverCall :=
  .addColumns (columns.map fun _ => Double.zero) (columns.map (·.lower)) (columns.map (·.upper))

/-- The call that gives an instance a row. -/
def addRowCall (r : Row) : Except Fault SolverCall := do
  let indices ← r.indices.mapM arrayPosition
  let inf := infinite
  return match r.sense with
  | .atMost => .addRow (-inf) r.bound indices r.values
  | .atLeast => .addRow r.bound inf indices r.values
  | .equal => .addRow r.bound r.bound indices r.values

/-- The positions of the columns that are not continuous. -/
def discretePositions (columns : List Column) : List Int :=
  ((positionsFrom 0 columns.length).zip columns).filterMap fun (i, c) =>
    if c.kind = .continuous then none else some i

/-- Gives rows to an instance. -/
def addScratchRows (i : Nat) (rows : List Row) : List Nat → Acting Unit
  | [] => return ()
  | r :: rest => do
    match rows[r]? with
    | none => addScratchRows i rows rest
    | some row =>
      let call ← Action.ofFault (addRowCall row)
      let _ ← callScratch i call
      addScratchRows i rows rest

/-- Whether the columns can satisfy the given rows, as a new instance of the native solver sees
it. -/
def isFeasible (rows : List Nat) : Acting Bool := do
  let e ← engine
  let i ← silentSolver
  if !e.columns.isEmpty then
    let _ ← callScratch i (addColumnsCall e.columns)
    let discrete := discretePositions e.columns
    if !discrete.isEmpty then
      let _ ← callScratch i (.setIntegers discrete)
  addScratchRows i e.rows rows
  let _ ← callScratch i .run
  let (_, w) ← get
  return !ModelState.isInfeasible (w.solver.instance? i).outcome.status

/-- Drops each row in turn, unless the rest becomes feasible without it. -/
def deletionFilter (kept : List Nat) : List Nat → Acting (List Nat)
  | [] => return kept
  | r :: rest => do
    if ← isFeasible (kept ++ rest) then deletionFilter (kept ++ [r]) rest
    else deletionFilter kept rest

def setIis (iis : Option (List Nat)) : Acting Unit :=
  change fun e => { e with solution := { e.solution with iis } }

def computeNativeIis : Acting Value := do
  let all := List.range (← engine).rows.length
  if ← isFeasible all then
    setIis none
    return refused .notInfeasible
  let iis ← deletionFilter [] all
  setIis (some iis)
  return accepted

/-- Finds an irreducible infeasible subsystem, which only the native solver can. -/
def computeIis : Acting Value :=
  recorded .computeIis do
    if (← engine).isNative then computeNativeIis else return refused .notSupported

end Milp.Engine

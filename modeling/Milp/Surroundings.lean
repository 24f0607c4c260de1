import Milp.Action
import Milp.Files
import Milp.Handler
import Milp.Solver
set_option autoImplicit false

/-! # Surroundings

What all models and engines share: the native solver, the files, the log and the warnings, and how
references are written in messages. -/

namespace Milp

structure Surroundings where
  solver : Solver := {}
  files : Files := .empty
  log : List LogRecord := []
  warnings : List String := []
  /-- What is seen of objects, as of the start of a call. -/
  view : View

namespace Surroundings

def addLog (w : Surroundings) (records : List LogRecord) : Surroundings :=
  { w with log := w.log ++ records }

def addWarning (w : Surroundings) (text : String) : Surroundings :=
  { w with warnings := w.warnings ++ [text] }

end Surroundings

/-! ## Messages of a handler -/

namespace Handler

/-- An action of a handler. -/
abbrev Acting (α : Type) := Action (Handler × Surroundings) α

/-- Counts a message, and logs it if its level is printed. -/
def report (s : Severity) (text : View → Except Failure String) : Acting Unit := do
  modify fun (h, w) => (h.count s, w)
  let (h, w) ← get
  let records ← Action.ofExcept (h.records s (text w.view))
  modify fun (h, w) => (h, w.addLog records)

/-- Counts and logs a fatal message, and raises the failure that it makes. -/
def raise {α : Type} (message : View → Except Failure Value) : Acting α := do
  modify fun (h, w) => (h.count .fatal, w)
  let (_, w) ← get
  let message ← Action.ofExcept (message w.view)
  modify fun (h, w) => (h, w.addLog [{ severity := .fatal, text := message.display w.view }])
  throw (← Action.ofFault (failureOf w.view message))

/-- Counts, logs and raises a failure with its own message. -/
def raiseFailure {α : Type} (f : Failure) : Acting α := do
  modify fun (h, w) => (h.count .fatal, w)
  let (_, w) ← get
  let text := (f.message? w.view).getD ""
  modify fun (h, w) => (h, w.addLog [{ severity := .fatal, text }])
  throw f

/-- Reports a message with its arguments; a fatal one is raised. -/
def tell (s : Severity) (message args : Value) : Acting Value := do
  match s with
  | .fatal => raise fun view => fill view message args
  | s =>
    report s fun view => do return (← fill view message args).display view
    return .nothing

/-- Changes the level to the one that a value stands for. -/
def changeLevel (level : Value) : Acting Value := do
  modify fun (h, w) => (h.setLevel level, w)
  return .nothing

end Handler

end Milp

import Milp.Keyword
set_option autoImplicit false

/-! # Message handlers

A handler passes messages on to the log, unless they are less serious than its output level. It
counts errors and warnings whether they are printed or not. A message that is not printed is not
filled in either, so a fault in its template goes unnoticed; a fatal message is always printed and
then raised. Main statement: counting does not depend on the level (`Handler.counters_count`). -/

namespace Milp

/-- How serious a message is. -/
inductive Severity where
  | trace
  | info
  | warning
  | error
  | fatal
deriving DecidableEq, Repr

namespace Severity

def rank : Severity → Nat
  | trace => 0
  | info => 1
  | warning => 2
  | error => 3
  | fatal => 4

/-- The word in the log. -/
def label : Severity → String
  | trace => "DEBUG"
  | info => "INFO"
  | warning => "WARNING"
  | error => "ERROR"
  | fatal => "CRITICAL"

end Severity

structure LogRecord where
  severity : Severity
  text : String
deriving DecidableEq, Repr

structure Handler where
  level : OutputLevel
  errors : Nat := 0
  warnings : Nat := 0
deriving DecidableEq, Repr

namespace Handler

/-- A handler with the level that a value stands for, informative by default. -/
def ofValue (level : Value) : Handler :=
  { level := (OutputLevel.ofValue? level).getD .informative }

/-- A value that stands for no level leaves the level as it is. -/
def setLevel (h : Handler) (level : Value) : Handler :=
  { h with level := (OutputLevel.ofValue? level).getD h.level }

def prints (h : Handler) (s : Severity) : Bool := h.level.rank ≤ s.rank

/-- Counts a message. -/
def count (h : Handler) : Severity → Handler
  | .warning => { h with warnings := h.warnings + 1 }
  | .error | .fatal => { h with errors := h.errors + 1 }
  | _ => h

/-- The records of a message that is not fatal. -/
def records (h : Handler) (s : Severity) (text : Except Failure String) :
    Except Failure (List LogRecord) :=
  if h.prints s then (fun t => [{ severity := s, text := t }]) <$> text else .ok []

/-- The message that a template and its arguments make. Without arguments a template stands for
itself, whatever it is; a brace anywhere makes its fields count, and else its percent directives. -/
def fill (view : View) (template args : Value) : Except Failure Value := do
  if !(← Failure.lift (args.truthy view)) then return template
  match template.text? with
  | some s =>
    Failure.lift do
      if s.contains '{' then return .text (← Template.fillBraces view s (← args.allElements view))
      else return .text (← Template.fillPercent view s (.ofValue args))
  | none => .error (.fault (Failure.noMember view template "find"))

/-- The failure that a fatal message raises: one that counts as false stands for the default
message. -/
def failureOf (view : View) (message : Value) : Except Fault Failure := do
  return .raised (if ← message.truthy view then message.display view else "")

/-- The level of a handler changes neither its counters nor how a message changes them. -/
theorem counters_count (h : Handler) (s : Severity) (l : OutputLevel) :
    { h with level := l }.count s = { h.count s with level := l } := by
  cases s <;> rfl

end Handler

end Milp

import Milp.Settings.Basic
import Milp.Settings.Script.Statement
set_option autoImplicit false

/-! # Running a script

A script is carried out statement by statement, and what was done before a statement fails stays
done. The settings are known to it as `context`; it may give values names of its own. Main statement:
a script of two parts is one part after the other (`Script.run_append`). -/

namespace Milp.Settings.Script

/-! ## Values of terms -/

/-- The settings and the names that a script works with. -/
structure State where
  store : SettingsStore
  names : List (String × Value)

/-- What a name stands for. -/
def State.resolve (st : State) (name : String) : Except Failure Value :=
  match st.names.lookup name with
  | some v => .ok v
  | none => .error (.fault .unknownName)

/-- The number with a sign in front of it, which is no truth value and no refusal any more. -/
def positive : Value → Except Failure Value
  | .number (.truth b) => .ok (.int (truthNumber b))
  | .refusal r => .ok (.int r.code)
  | v@(.number _) => .ok v
  | _ => .error (.fault .wrongType)

def negative : Value → Except Failure Value
  | .number x => .number <$> Failure.lift x.neg
  | _ => .error (.fault .wrongType)

/-- The whole number with all its bits turned over. -/
def complement : Value → Except Failure Value
  | .number (.truth b) => .ok (.int (-truthNumber b - 1))
  | .number (.int n) => .ok (.int (-n - 1))
  | .refusal r => .ok (.int (-r.code - 1))
  | _ => .error (.fault .wrongType)

mutual

def Term.value (view : View) (st : State) : Term → Except Failure Value
  | .constant v => .ok v
  | .name s => st.resolve s
  | .member t name => do Failure.lift (st.store.child view (← t.value view st) name)
  | .plus t => do positive (← t.value view st)
  | .minus t => do negative (← t.value view st)
  | .complement t => do Script.complement (← t.value view st)
  | .not t => do return .bool !(← Failure.lift ((← t.value view st).truthy view))
  | .list ts => .list <$> values view st ts
  | .tuple ts => .tuple <$> values view st ts
  | .table es => do
    let es ← entryValues view st es
    if es.all fun e => e.1.isKey then return Value.tableOf es else .error (.fault .wrongType)

def values (view : View) (st : State) : List Term → Except Failure (List Value)
  | [] => .ok []
  | t :: ts => do return (← t.value view st) :: (← values view st ts)

def entryValues (view : View) (st : State) :
    List (Term × Term) → Except Failure (List (Value × Value))
  | [] => .ok []
  | (k, v) :: rest => do
    return (← k.value view st, ← v.value view st) :: (← entryValues view st rest)

end

/-! ## Statements -/

/-- Gives a value a name, or sets a member to it. -/
def Target.assign (view : View) (t : Target) (v : Value) (st : State) : Except Failure State := do
  match t with
  | .name s => return { st with names := (s, v) :: st.names }
  | .member owner m =>
    return { st with store := ← Failure.lift (st.store.assign view (← owner.value view st) m v) }

/-- Assigns a value to targets from left to right. -/
def assignAll (view : View) (v : Value) : List Target → Action State Unit
  | [] => return ()
  | t :: ts => do
    set (← Action.ofExcept (t.assign view v (← get)))
    assignAll view v ts

/-- Computes a term and assigns it to targets. -/
def compute (view : View) (ts : List Target) (t : Term) : Action State Unit := do
  let v ← Action.ofExcept (t.value view (← get))
  let (v, store) := (← get).store.intern v
  modify ({ · with store })
  assignAll view v ts

/-- Computes what a target without a value belongs to. -/
def Target.visit (view : View) (t : Target) (st : State) : Except Failure Unit :=
  match t with
  | .name _ => .ok ()
  | .member owner _ => discard (owner.value view st)

def Statement.run (view : View) : Statement → Action State Unit
  | .assign ts t => compute view ts t
  | .declare target remark t => do
    match t with
    | some t => compute view [target] t
    | none => Action.ofExcept (target.visit view (← get))
    discard (Action.ofExcept (remark.value view (← get)))
  | .evaluate t => do discard (Action.ofExcept (t.value view (← get)))
  | .nothing => return ()

def run (view : View) : List Statement → Action State Unit
  | [] => return ()
  | s :: ss => do
    s.run view
    run view ss

theorem run_append (view : View) (ss ts : List Statement) :
    run view (ss ++ ts) = (run view ss >>= fun _ => run view ts) := by
  induction ss with
  | nil => simp [run]
  | cons s ss ih => simp [run, ih]

/-- What the settings are called in a script. -/
def contextName : String := "context"

end Milp.Settings.Script

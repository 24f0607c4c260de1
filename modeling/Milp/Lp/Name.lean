import Milp.Arithmetic
set_option autoImplicit false

/-! # Names in the LP format

The LP format allows only some names. An entity keeps its own name if the format allows it and no
earlier entity was printed with it; otherwise it is printed with a letter and its position. Main
statement: there is one printed name for each entity (`length_printedNamesFrom`). -/

namespace Milp.Lp

/-- The marks that a name may hold anywhere. -/
def isMark (c : Char) : Bool := "!#$%&()/,;?@_`'\x7b\x7d|\"".contains c

/-- The characters that a name may start with: letters other than `e` and `E`, which could be read
as exponents, and marks. -/
def startsName (c : Char) : Bool := (c.isAlpha && c ≠ 'e' && c ≠ 'E') || isMark c

/-- The characters that a name may go on with: letters, digits, the point and marks. -/
def continuesName (c : Char) : Bool := c.isAlphanum || c = '.' || isMark c

/-- Whether the format allows a name. -/
def isCompliant (s : String) : Bool :=
  match s.toList with
  | [] => false
  | c :: rest => startsName c && rest.all continuesName

/-- The name that an entity may keep, if the format allows it; what is neither a name nor missing is
an error. -/
def compliantName? : Value → Except Failure (Option String)
  | .nothing => .ok none
  | .text s | .textItem s => .ok (if isCompliant s then some s else none)
  | _ => .error (.fault .wrongType)

/-- Whether the format allows an optional name. -/
def isCompliantName (v : Value) : Except Failure Bool := Option.isSome <$> compliantName? v

/-- A position counted from an offset on, without its fraction. -/
def positionText (offset : Value) (i : Nat) : Except Failure String := do
  match ← Value.combine 0 .plus (.int i) offset with
  | .number x => return toString (← Failure.lift x.truncate)
  | _ => .error (.fault .wrongType)

/-- The printed name of the entity at a position: its own name, if it is usable and not printed
yet. -/
def printedName (letter : String) (offset : Value) (i : Nat) (used : List String) (name : Value) :
    Except Failure String := do
  let usable := (← compliantName? name).filter fun s => !used.contains s
  match usable with
  | some s => return s
  | none => return letter ++ (← positionText offset i)

/-- The printed names of entities from a position on. -/
def printedNamesFrom (letter : String) (offset : Value) (i : Nat) (used : List String) :
    List Value → Except Failure (List String)
  | [] => .ok []
  | name :: rest => do
    let s ← printedName letter offset i used name
    return s :: (← printedNamesFrom letter offset (i + 1) (s :: used) rest)

/-- The printed names of entities, numbered from `offset` on. -/
def printedNames (letter : String) (offset : Value) (names : List Value) :
    Except Failure (List String) :=
  printedNamesFrom letter offset 0 [] names

theorem length_printedNamesFrom {letter : String} {offset : Value} {names : List Value} {i : Nat}
    {used printed : List String} (h : printedNamesFrom letter offset i used names = .ok printed) :
    printed.length = names.length := by
  induction names generalizing i used printed with
  | nil =>
    simp only [printedNamesFrom, Except.ok.injEq] at h
    simp [← h]
  | cons name rest ih =>
    simp only [printedNamesFrom, bind, Except.bind, pure, Except.pure] at h
    split at h
    · contradiction
    · split at h
      · contradiction
      · rename_i hr
        simp only [Except.ok.injEq] at h
        simp [← h, ih hr]

end Milp.Lp

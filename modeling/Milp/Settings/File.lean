import Milp.Text.Blank
set_option autoImplicit false

/-! # Plain files of settings

Each logical line holds a name and a text, with an equals sign or a colon between them; a backslash
at the end of a line joins it with the next one, and a number sign starts a comment. A line that says
something else makes the whole file unreadable (`settingsOfText`). -/

namespace Milp.Settings

/-! ## Lines -/

/-- The lines of a text, of which the first one has begun with `begun`, last character first. An end
of line at the end of the text starts no further line. -/
def linesFrom (begun : List Char) : List Char → List (List Char)
  | [] => if begun.isEmpty then [] else [begun.reverse]
  | c :: rest =>
    if c = '\n' then begun.reverse :: linesFrom [] rest else linesFrom (c :: begun) rest

def physicalLines (text : List Char) : List (List Char) := linesFrom [] text

/-- The logical lines, each with the number of the last physical line that it is made of. `joined`
is what has been continued so far, and `number` counts the physical lines. -/
def logicalLines (joined : List Char) (number : Nat) : List (List Char) → List (Nat × List Char)
  | [] => if joined.isEmpty then [] else [(number, joined)]
  | raw :: rest =>
    let line := Text.trimBlanks raw
    if line.getLast? = some '\\' then logicalLines (joined ++ line.dropLast) (number + 1) rest
    else (number + 1, joined ++ line) :: logicalLines [] (number + 1) rest

/-! ## Plain files -/

/-- The text before the first occurrence of a character and the text after it. -/
def splitAt? (mark : Char) (s : List Char) : Option (List Char × List Char) :=
  match s.dropWhile (· ≠ mark) with
  | [] => none
  | _ :: rest => some (s.takeWhile (· ≠ mark), rest)

/-- What a line says without its comment. -/
def withoutComment (line : List Char) : List Char :=
  Text.trimBlanks (line.takeWhile (· ≠ '#'))

/-- The name and the text that a line sets. The first equals sign separates them, or the first colon
if there is no equals sign. -/
def settingOf? (line : List Char) : Option (String × String) :=
  let trimmed := fun (s : List Char) => String.ofList (Text.trimBlanks s)
  ((splitAt? '=' line).or (splitAt? ':' line)).map fun (name, value) => (trimmed name, trimmed value)

/-- The settings of logical lines, or the number of the first line that is neither empty nor a
setting. -/
def settingsOfLines : List (Nat × List Char) → Except Nat (List (String × String))
  | [] => .ok []
  | (number, line) :: rest =>
    let line := withoutComment line
    if line.isEmpty then settingsOfLines rest
    else
      match settingOf? line with
      | none => .error number
      | some setting => (setting :: ·) <$> settingsOfLines rest

/-- The settings of a plain file, or the number of the first line that is not one. -/
def settingsOfText (text : String) : Except Nat (List (String × String)) :=
  settingsOfLines (logicalLines [] 0 (physicalLines text.toList))

end Milp.Settings

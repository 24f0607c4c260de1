import Milp.Fault
set_option autoImplicit false

/-! # Files

A tree of text files. A file is known by the names on the way to it from the root; a directory exists
if something was put below it, or because the working directory is. Paths are resolved name by name,
so that a way through a missing directory leads nowhere, even if it comes back. Main statement: a
text that was written is read back as it is (`Files.readAt_write`); only a reader of lines makes line
feeds of all line ends (`Files.readLines`). -/

namespace Milp

structure Files where
  /-- Texts of files, the latest version of a file first. -/
  texts : List (List String × String)

namespace Files

def empty : Files := { texts := [] }

instance : Inhabited Files := ⟨empty⟩

/-- The working directory, from which paths start that do not start from the root. -/
def here : List String := ["tmp", "work"]

/-- The directory of the user. -/
def home : List String := here ++ ["home"]

/-! ## Paths -/

/-- The parts of a path between slashes. -/
def parts (path : String) : List String := path.splitOn "/"

/-- Where a path starts from. -/
def startOf (path : String) : List String := if path.startsWith "/" then [] else here

/-- The names that a path comes to if every name on the way is a directory. -/
def normalize (path : String) : List String :=
  (parts path).foldl (fun names part =>
    if part = "" ∨ part = "." then names
    else if part = ".." then names.dropLast
    else names ++ [part]) (startOf path)

/-- A place as a path, from the working directory if it lies below that. -/
def pathOf (names : List String) : String :=
  if here.isPrefixOf names then "/".intercalate (names.drop here.length)
  else "/" ++ "/".intercalate names

/-- The most bytes of a name, and of a path. -/
def nameLimit : Nat := 255
def pathLimit : Nat := 4096

/-! ## Looking files up -/

def text? (f : Files) (names : List String) : Option String := f.texts.lookup names

def isDirectory (f : Files) (names : List String) : Bool :=
  names.isPrefixOf here || f.texts.any fun t => names.isPrefixOf t.1 && names ≠ t.1

/-- Follows the parts of a path; the part before each step must be a directory. -/
def follow (f : Files) (names : List String) : List String → Except Fault (List String)
  | [] => .ok names
  | part :: rest =>
    if (f.text? names).isSome then .error .notDirectory
    else if !f.isDirectory names then .error .missingFile
    else if part = "" ∨ part = "." then f.follow names rest
    else if part = ".." then f.follow names.dropLast rest
    else if nameLimit < part.utf8ByteSize then .error .unopenable
    else f.follow (names ++ [part]) rest

/-- The place that a path leads to. -/
def resolve (f : Files) (path : String) : Except Fault (List String) :=
  if path.contains '\x00' then .error .badPath
  else if path.isEmpty then .error .missingFile
  else if pathLimit ≤ path.utf8ByteSize then .error .unopenable
  else f.follow (startOf path) (parts path)

def isFile (f : Files) (path : String) : Bool :=
  match f.resolve path with
  | .ok names => (f.text? names).isSome
  | .error _ => false

/-! ## Reading -/

/-- The text of a file at a place. -/
def readAt (f : Files) (names : List String) : Except Fault String :=
  match f.text? names with
  | some text => .ok text
  | none => .error (if f.isDirectory names then .isDirectory else .missingFile)

/-- The text of a file. -/
def read (f : Files) (path : String) : Except Fault String := do f.readAt (← f.resolve path)

/-- Every kind of line end becomes a line feed. -/
def unifyLines : List Char → List Char
  | '\r' :: '\n' :: rest => '\n' :: unifyLines rest
  | '\r' :: rest => '\n' :: unifyLines rest
  | c :: rest => c :: unifyLines rest
  | [] => []

/-- The text of a file for a reader of lines, with line feeds for all line ends. -/
def readLines (f : Files) (path : String) : Except Fault String := do
  return String.ofList (unifyLines (← f.read path).toList)

/-! ## Writing -/

/-- The place of a file that can be created or overwritten. -/
def writablePlace (f : Files) (path : String) : Except Fault (List String) := do
  let names ← f.resolve path
  if f.isDirectory names then .error .isDirectory
  else if !f.isDirectory names.dropLast then .error .missingFile
  else return names

/-- Replaces the text of a file, which is created if it does not exist. -/
def write (f : Files) (names : List String) (text : String) : Files :=
  { f with texts := (names, text) :: f.texts }

/-- Files with the given paths and texts, and the directories on the way. -/
def ofList (texts : List (String × String)) : Files :=
  { texts := texts.reverse.map fun t => (normalize t.1, t.2) }

theorem readAt_write (f : Files) (names : List String) (text : String) :
    (f.write names text).readAt names = .ok text := by
  simp [write, readAt, text?]

end Files

end Milp

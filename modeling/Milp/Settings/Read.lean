import Milp.Settings.Basic
import Milp.Settings.File
import Milp.Settings.Script.Run
set_option autoImplicit false

/-! # Changing settings and reading them from files

Settings are changed one by one by name, by quick names for the common ones, and by files. Whoever
reads a file may have a handler that is told about it. -/

namespace Milp

/-- Who is told about the reading of settings. -/
inductive Listener where
  | nobody
  /-- A handler, which may be told through its model. -/
  | handler (h : Handler) (inModel : Bool)
  /-- Something that cannot be told anything: whether it counts as true, and how it refuses. -/
  | deaf (truth : Except Fault Bool) (refusal : String → Fault)

/-- Settings that are being read. -/
structure SettingsReader where
  store : SettingsStore
  listener : Listener := .nobody

namespace SettingsReader

/-- An action on settings. -/
abbrev Acting (α : Type) := Action (SettingsReader × Surroundings) α

def change (f : SettingsStore → SettingsStore) : Acting Unit :=
  modify fun (r, w) => ({ r with store := f r.store }, w)

def current : Acting SettingsStore := return (← get).1.store

/-- Has the handler that listens report a message. -/
def reportTo (h : Handler) (inModel : Bool) (s : Severity) (text : View → String) : Acting Unit := do
  let (r, w) ← get
  let (outcome, h, w) := (Handler.report s fun view => .ok (text view)).perform (h, w)
  set ({ r with listener := .handler h inModel }, w)
  Action.ofExcept outcome

/-- Tells the listener about a file that is read, unless it counts as false. A model takes what it is
told about as a list of one. -/
def tellReading (path : Value) : Acting Unit := do
  match (← get).1.listener with
  | .nobody => return ()
  | .deaf truth refusal => if ← Action.ofFault truth then throw (.fault (refusal "info"))
  | .handler h inModel =>
    let shown := if inModel then .tuple [path] else path
    reportTo h inModel .info fun view => "Reading settings from " ++ shown.display view

/-- Tells the listener about a setting that is passed over. -/
def tellIgnored (name : Value) : Acting Unit := do
  match (← get).1.listener with
  | .nobody => return ()
  | .deaf _ refusal => throw (.fault (refusal "warning"))
  | .handler h inModel =>
    reportTo h inModel .warning fun view => "Ignoring undefined attribute : " ++ name.display view

/-- The value of a setting on the way from a node. -/
def child (v : Value) (name : String) : Acting Value := do
  Action.ofFault ((← current).child (← get).2.view v name)

/-! ## By name -/

/-- Sets a setting whose name is any value that can be a key. -/
def assign (node : Nat) (name value : Value) : Acting Unit := do
  if !name.isKey then throw (.fault .wrongType)
  change (·.modify node (·.set name value))

/-- Sets settings by their dotted names. A name that leads nowhere is passed over, and the listener
is told. -/
def assignPair (root : Nat) (name value : Value) : Acting Unit := do
  let s ← current
  let (_, w) ← get
  let assigned := match name with
    | .text path | .textItem path => s.assignDotted w.view root path value
    | .bytes _ => .error .wrongType
    | _ => .error .missingMember
  match assigned with
  | .ok s => change fun _ => s
  | .error f => if f.kind = .missingMember then tellIgnored name else throw (.fault f)

/-- Sets settings from pairs of a name and a value. -/
def assignPairs (root : Nat) : List Value → Acting Unit
  | [] => return ()
  | pair :: rest => do
    match ← Action.ofFault (pair.elements (← get).2.view) with
    | .finite [name, value] => assignPair root name value
    | _ => throw (.fault .wrongValue)
    assignPairs root rest

/-- Sets settings from a sequence of pairs. -/
def assignListed (root : Nat) (pairs : Value) : Acting Unit := do
  match ← Action.ofFault (pairs.elements (← get).2.view) with
  | .finite xs => assignPairs root xs
  | .endless x => assignPairs root [x]

/-! ## By quick names -/

/-- The names of settings for engines that can be set directly. -/
def quickNames : List String := ["agent", "log_output", "time_limit", "mip_gap"]

/-- Sets one of the settings for engines. What stands in their place must be a table. -/
def assignQuick (root : Nat) (name value : Value) : Acting Unit := do
  match ← child (.ref (.settings root)) "solver" with
  | .ref (.settings i) => assign i name value
  | .number (.cell _) | .cell .. | .array .. => throw (.fault .badIndex)
  | _ => throw (.fault .wrongType)

/-- The entries of a table. -/
def entriesOf : Value → Acting (List (Value × Value))
  | .table entries => return entries
  | .ref (.settings i) => do return (((← current).node? i).map (·.entries)).getD []
  | _ => throw (.fault .missingMember)

/-- Sets settings from the entries of a table. Nobody is told about those that lead nowhere. -/
def override (root : Nat) (table : Value) : Acting Unit := do
  let entries ← entriesOf table
  let (r, w) ← get
  let (outcome, r', w) := (assignPairs root (Value.partOf .items entries)).perform
    ({ r with listener := .nobody }, w)
  set ({ r' with listener := r.listener }, w)
  Action.ofExcept outcome

/-- Warns about a name that is not known. -/
def warnOfUnknown (name value : Value) : Acting Unit := do
  let (_, w) ← get
  let text ← Action.ofFault (Template.fillBraces w.view
    "Unknown quick-setting in Context: \x7b0:s\x7d, value: \x7b1!s\x7d" [name, value])
  modify fun (r, w) => (r, w.addWarning text)

/-- Whether a value is one of some words. -/
def isOneOf (v : Value) : List String → Except Fault Bool
  | [] => .ok false
  | s :: rest => do if ← v.equals (.text s) then return true else isOneOf v rest

/-- Sets what a quick name stands for. Other names become settings of their own if `create` asks for
it, and are warned about if not. -/
def assignNamed (root : Nat) (create : Bool) (name value : Value) : Acting Unit := do
  if ← Action.ofFault (isOneOf name quickNames) then assignQuick root name value
  else if ← Action.ofFault (isOneOf name ["output_level"]) then
    assign root (.text "output_level") value
  else if ← Action.ofFault (isOneOf name ["override"]) then override root value
  else if create then assign root name value
  else warnOfUnknown name value

/-- Sets what quick names stand for, in order; names without a value are passed over. -/
def assignAll (root : Nat) (create : Bool) : List (Value × Value) → Acting Unit
  | [] => return ()
  | (name, value) :: rest => do
    if !(value matches .nothing) then assignNamed root create name value
    assignAll root create rest

/-! ## From files -/

/-- The greatest number of an open file. -/
def handleLimit : Int := power 2 31 - 1

/-- Whether a path leads to a file. A number means an open file, of which there are none. -/
def isFile (files : Files) (path : Value) : Except Fault Bool :=
  match path with
  | .text p | .textItem p | .bytes p => .ok (files.isFile p)
  | _ =>
    match path.toIndex with
    | .ok n => if -handleLimit ≤ n + 1 ∧ n ≤ handleLimit then .ok false else .error .overflow
    | .error _ => .error .wrongType

/-- The text of a file whose path is any value. -/
def readFile (files : Files) (path : Value) : Except Fault String :=
  match path with
  | .text p | .textItem p | .bytes p => files.readLines p
  | _ =>
    match path.toIndex with
    | .ok n =>
      if -handleLimit ≤ n + 1 ∧ n ≤ handleLimit then
        .error (if n < 0 then .wrongValue else .unopenable)
      else .error .wrongType
    | .error _ => .error .wrongType

/-- Reads a plain file. If one of its lines is not a setting, nothing is set. -/
def readPlain (root : Nat) (path : Value) : Acting Unit := do
  let (_, w) ← get
  let text ← Action.ofFault (readFile w.files path)
  match Settings.settingsOfText text with
  | .error line => throw (.badSetting line (path.display w.view))
  | .ok settings => assignPairs root (settings.map fun s => .tuple [.text s.1, .text s.2])

/-- The statements of a script. -/
def statementsOf (text : String) : Except Fault (List Settings.Script.Statement) :=
  if text.contains '\x00' then .error .wrongValue
  else
    match Settings.Script.statements text with
    | .ok sts => .ok sts
    | .error .form => .error .badSyntax
    | .error .indentation => .error .badIndentation

/-- Carries out statements that know the settings at a place, as long as they succeed. -/
def carryOut (root : Nat) (sts : List Settings.Script.Statement) : Acting Unit := do
  let (r, w) ← get
  let state : Settings.Script.State :=
    { store := r.store, names := [(Settings.Script.contextName, .ref (.settings root))] }
  let (outcome, state) := (Settings.Script.run w.view sts).perform state
  change fun _ => state.store
  Action.ofExcept outcome

/-- Reads a script, if its file exists. -/
def readScript (root : Nat) (path : Value) : Acting Unit := do
  let (_, w) ← get
  if ← Action.ofFault (isFile w.files path) then
    let text ← Action.ofFault (readFile w.files path)
    carryOut root (← Action.ofFault (statementsOf text))

/-- Whether the file at a path holds a script, as the end of its name says. -/
def isScript : Value → Except Fault Bool
  | .text p | .textItem p => .ok (p.endsWith ".py")
  | .bytes _ => .error .wrongType
  | _ => .error .missingMember

/-- Reads files one after the other; those that do not exist are passed over. -/
def readFiles (root : Nat) : List Value → Acting Unit
  | [] => return ()
  | path :: rest => do
    if ← Action.ofFault (isFile (← get).2.files path) then
      tellReading path
      if ← Action.ofFault (isScript path) then readScript root path else readPlain root path
    readFiles root rest

/-- The path of the file with settings in a directory. -/
def scriptIn (directory : String) : String :=
  if directory.isEmpty || directory.endsWith "/" then directory ++ "mipbuilder_config.py"
  else directory ++ "/mipbuilder_config.py"

/-- The files that are read when none are named: one in each directory of the search path, and one
in the home directory. A file that is found twice is read once. -/
def defaultFiles (files : Files) (searchPath : List String) : List String :=
  let candidates := searchPath.map (fun d => Files.normalize (scriptIn d))
    ++ [Files.home ++ [".mipbuilderrc"]]
  let paths := candidates.map Files.pathOf
  (paths.filter files.isFile).eraseDups

/-- Reads the named files, or the default ones if none are named. -/
def readSettings (root : Nat) (searchPath : List String) (files : Value) : Acting Unit := do
  let (_, w) ← get
  match files with
  | .nothing => readFiles root ((defaultFiles w.files searchPath).map .text)
  | .text _ | .textItem _ => readFiles root [files]
  | _ =>
    match ← Action.ofFault (files.elements w.view) with
    | .finite paths => readFiles root paths
    | .endless path => readFiles root [path]

/-! ## New settings -/

/-- New settings, with further ones by quick names. -/
def create (settings : List (Value × Value)) : Acting Nat := do
  let (root, s) := (← current).addDefault
  change fun _ => s
  assignAll root true settings
  return root

/-- New settings as the files say, with further ones by quick names. -/
def createFromFiles (searchPath : List String) (files : Value)
    (settings : List (Value × Value)) : Acting Nat := do
  let root ← create []
  readSettings root searchPath files
  assignAll root false settings
  return root

end SettingsReader

end Milp

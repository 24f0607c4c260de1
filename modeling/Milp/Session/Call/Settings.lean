import Milp.Session.Call.Basic
set_option autoImplicit false

/-! # Calls of settings and environments

Settings are tables, with the operations that all tables have, besides those of their own. -/

namespace Milp.Session

/-! ## Tables -/

/-- The arguments of an operation that takes one argument and perhaps a second, by position alone. -/
def oneOrTwo (args : Arguments) : Except Fault (Value × Option Value) :=
  match args.positional, args.named with
  | [k], [] => .ok (k, none)
  | [k, v], [] => .ok (k, some v)
  | _, _ => .error .wrongType

/-- The value of a key that may be no key of any table. -/
def lookupKey (entries : List (Value × Value)) (key : Value) : Except Fault (Option Value) :=
  if key.isKey then .ok (Value.lookup entries key) else .error .wrongType

/-- Replaces the entries of the node at a place. -/
def setEntries (i : Nat) (entries : List (Value × Value)) : Acting Unit :=
  modify fun s => { s with settings := s.settings.modify i ({ · with entries }) }

/-- Sets the key of a node to a value. -/
def setKey (i : Nat) (key value : Value) : Acting Unit :=
  onSettings .nothing (SettingsReader.assign i key value)

/-- Sets keys from pairs of a key and a value. -/
def setPairs (i : Nat) : List Value → Acting Unit
  | [] => return ()
  | pair :: rest => do
    match ← fromFault (pair.elements (← get).view) with
    | .finite [k, v] => setKey i k v
    | _ => throw (.fault .wrongValue)
    setPairs i rest

/-- The entries of a table, or the pairs of a sequence. -/
def pairsOf (v : Value) : Acting (List Value) := do
  let s ← get
  match v with
  | .table es => return Value.partOf .items es
  | .ref r =>
    match s.entriesAt? r with
    | some es => return Value.partOf .items es
    | none => throw (.fault .wrongType)
  | v => fromFault (v.allElements s.view)

/-- Sets what the arguments of an update say: those of a table or of a sequence of pairs, and those
given by name. -/
def updateTable (i : Nat) (args : Arguments) : Acting Unit := do
  match args.positional with
  | [] => pure ()
  | [v] => do setPairs i (← pairsOf v)
  | _ => throw (.fault .wrongType)
  args.named.forM fun n => setKey i (.text n.1) n.2

/-- A new node of a kind with the defaults of that kind. -/
def newNode (kind : SettingsKind) : Acting Nat := do
  let s ← get
  let (i, settings) := match kind with
    | .general => s.settings.addDefault
    | .solver => s.settings.add .newSolver
    | .plain => s.settings.add { kind := .plain, entries := [] }
  set { s with settings }
  return i

/-- Takes the last entry away. -/
def popLast (i : Nat) (entries : List (Value × Value)) : Acting Value := do
  match entries.getLast? with
  | none => throw (.fault .missingKey)
  | some (k, v) =>
    setEntries i entries.dropLast
    return .tuple [k, v]

/-- Takes the entry of a key away. -/
def popKey (i : Nat) (entries : List (Value × Value)) (args : Arguments) : Acting Value := do
  let (key, default) ← fromFault (oneOrTwo args)
  match ← fromFault (lookupKey entries key), default with
  | some v, _ =>
    setEntries i (Value.erase entries key)
    return v
  | none, some v => return v
  | none, none => throw (.fault .missingKey)

/-- The operations that all tables have. -/
def callTable (i : Nat) (n : SettingsNode) (name : String) (args : Arguments) : Acting Value := do
  match name with
  | "keys" => plain args (.part .keys (.settings i))
  | "items" => plain args (.part .items (.settings i))
  | "values" => plain args (.part .values (.settings i))
  | "copy" => plain args (.table n.entries)
  | "get" =>
    let (key, default) ← fromFault (oneOrTwo args)
    return (← fromFault (lookupKey n.entries key)).getD (default.getD .nothing)
  | "setdefault" =>
    let (key, default) ← fromFault (oneOrTwo args)
    match ← fromFault (lookupKey n.entries key) with
    | some v => return v
    | none =>
      let v := default.getD .nothing
      setKey i key v
      return v
  | "pop" => popKey i n.entries args
  | "popitem" =>
    fromFault args.bind0
    popLast i n.entries
  | "clear" =>
    fromFault args.bind0
    void (setEntries i [])
  | "update" => void (updateTable i args)
  | "fromkeys" =>
    let (keys, v) ← fromFault (oneOrTwo args)
    let keys ← fromFault (keys.allElements (← get).view)
    let j ← newNode n.kind
    keys.forM fun k => setKey j k (v.getD .nothing)
    return .ref (.settings j)
  | _ => unknownName

/-! ## Settings -/

/-- The parameters for engines as a table. -/
def parameterTable (ps : List (String × Value)) : Value :=
  .table (ps.map fun p => (.text p.1, p.2))

/-- A setting of a node by a name that may be no text. -/
def readSetting (n : SettingsNode) (name : Value) : Acting Value := do
  match name, name.text? with
  | _, some s =>
    if s.startsWith "__" then throw (.fault .reservedSetting)
    match n.get? name with
    | some v => return v
    | none => throw (.fault (.missingSetting n.kind.label s))
  | .bytes _, none => throw (.fault .wrongType)
  | _, none => throw (.fault (Failure.noMember (← get).view name "startswith"))

/-- The entries of a table, to be set one after the other. -/
def updateEntries (v : Value) : Acting (List (Value × Value)) := do
  match v with
  | .table es => return es
  | .ref (.settings _) => onSettings .nothing (SettingsReader.entriesOf v)
  | v =>
    match ← fromFault (v.elements (← get).view) with
    | .finite [] => return []
    | _ => unknownName

/-- New settings as files say, which may be given by position. -/
def callFromFiles (args : Arguments) : Acting Value := do
  let ordered ← match args.positional with
    | [] => pure []
    | [f] => pure [("file_list", f)]
    | [f, l] => pure [("file_list", f), ("logger", l)]
    | _ => throw (.fault .wrongType)
  if ordered.any fun n => (args.named.lookup n.1).isSome then throw (.fault .wrongType)
  return .ref (.settings (← newSettingsFromFiles (ordered ++ args.named)))

/-- The operations of general settings. -/
def callGeneral (i : Nat) (n : SettingsNode) (name : String) (args : Arguments) : Acting Value := do
  match name with
  | "copy" =>
    fromFault args.bind0
    return .ref (.settings (← copySettings i))
  | "make_default_context" => callFromFiles args
  | "update_from_list" =>
    let (values, listener) ← fromFault (args.bind2 (given "values") (optional "logger"))
    void (onSettings listener (SettingsReader.assignListed i values))
  | "update" =>
    let (values, create) ← fromFault
      (args.bind2 (given "kwargs") (optional "create_missing_nodes" (.bool false)))
    let entries ← updateEntries values
    let create ← isTrue create
    void (onSettings .nothing (SettingsReader.assignAll i create entries))
  | "update_key_value" =>
    let (key, value, create) ← fromFault (args.bind3 (given "k") (given "value")
      (optional "create_missing_nodes" (.bool false)))
    let create ← isTrue create
    void (onSettings .nothing (SettingsReader.assignNamed i create key value))
  | "read_settings" =>
    let (files, listener) ← fromFault (args.bind2 (optional "file_list") (optional "logger"))
    let path := (← get).searchPath
    void (onSettings listener (SettingsReader.readSettings i path files))
  | "read_from_python_file" =>
    let file ← fromFault (args.bind1 (given "filename"))
    let _ ← onSettings .nothing (SettingsReader.readScript i file)
    return .ref (.settings i)
  | "read_from_rcfile" =>
    let (file, listener) ← fromFault (args.bind2 (given "filename") (optional "logger"))
    void (onSettings listener (SettingsReader.readPlain i file))
  | _ =>
    if name ∈ SettingsKind.commonOperations then callTable i n name args
    else child (.ref (.settings i)) name

/-- The operations of settings for engines. -/
def callSolver (i : Nat) (n : SettingsNode) (name : String) (args : Arguments) : Acting Value := do
  match name with
  | "get_engine_parameters" =>
    fromFault args.bind0
    let s ← get
    parameterTable <$> Action.ofExcept
      (Environment.parametersOf s.view s.settings (.ref (.settings i)))
  | _ =>
    if name ∈ SettingsKind.commonOperations then callTable i n name args
    else child (.ref (.settings i)) name

def callSettings (i : Nat) (name : String) (args : Arguments) : Acting Value := do
  match (← get).settings.node? i with
  | none => unknownName
  | some n =>
    match n.kind, name with
    | .plain, _ => callTable i n name args
    | _, "set_attribute" =>
      let (name, value) ← fromFault (args.bind2 (given "name") (given "value"))
      void (setKey i name value)
    | _, "get_attribute" =>
      let (name, _) ← fromFault (args.bind2 (given "name") (optional "default"))
      readSetting n name
    | .general, _ => callGeneral i n name args
    | .solver, _ => callSolver i n name args

/-! ## Environments -/

def callEnvironment (i : Nat) (name : String) (args : Arguments) : Acting Value := do
  let s ← get
  match s.environments[i]? with
  | none => unknownName
  | some env =>
    match name with
    | "context" => return .ref (.settings env.settings)
    | "solver_agent" => Action.ofFault (env.solverAgent s.view s.settings)
    | "output_level" => Action.ofFault (env.outputLevel s.view s.settings)
    | "new_engine" =>
      let modelName ← fromFault (args.bind1 (optional "model_name"))
      return .ref (.engine (.free (← onEngines (env.newEngine s.settings modelName))))
    | _ => unknownName

end Milp.Session

import Milp.Surroundings
set_option autoImplicit false

/-! # Settings

Settings are kept in nodes: a general one with the output level, and below it one with what is meant
for engines. Plain tables are nodes as well. Nodes are shared by reference, so a change through one
handle is seen through all of them. A setting is found by a dotted name, which leads through nodes and
through the members of other objects, to which values can be added as notes.

Main statements: a setting that was set can be read (`SettingsNode.get?_set`), and setting one leaves
the others as they are (`SettingsNode.get?_set_of_ne`). -/

namespace Milp

inductive SettingsKind where
  | general
  | solver
  /-- A table that a caller made. Its entries are no members of it. -/
  | plain
deriving DecidableEq, Repr

namespace SettingsKind

/-- The word for a kind in messages. -/
def label : SettingsKind → String
  | general => "Context"
  | solver => "SolverContext"
  | plain => "dict"

/-- Names that stand for operations of all settings, and so for no setting on the way to another. -/
def commonOperations : List String :=
  ["set_attribute", "get_attribute", "clear", "copy", "fromkeys", "get", "items", "keys", "pop",
    "popitem", "setdefault", "update", "values"]

/-- Names that stand for operations. -/
def operations : SettingsKind → List String
  | general => ["make_default_context", "update_from_list", "update_key_value", "read_settings",
      "read_from_python_file", "read_from_rcfile", "_set_value", "_default_settings_files",
      "_iter_logical_lines"] ++ commonOperations
  | solver => "get_engine_parameters" :: commonOperations
  | plain => commonOperations

end SettingsKind

/-- A node, with its settings in the order in which they were first set. -/
structure SettingsNode where
  kind : SettingsKind
  entries : List (Value × Value)

namespace SettingsNode

def get? (n : SettingsNode) (key : Value) : Option Value := Value.lookup n.entries key

def set (n : SettingsNode) (key value : Value) : SettingsNode :=
  { n with entries := Value.insert n.entries key value }

/-- A value that is the same as one text is no other text. -/
theorem same_text_of_same {k : Value} {key : String} (h : k.same (.text key) = true)
    (other : String) : k.same (.text other) = decide (key = other) := by
  cases k <;> simp only [Value.same, Bool.false_eq_true, decide_eq_true_eq] at h ⊢ <;> subst h <;> rfl

private theorem lookup_insert_text (entries : List (Value × Value)) (key other : String)
    (value : Value) :
    Value.lookup (Value.insert entries (.text key) value) (.text other) =
      if key = other then some value else Value.lookup entries (.text other) := by
  induction entries with
  | nil => by_cases h : key = other <;> simp [Value.insert, Value.lookup, Value.same, h]
  | cons e rest ih =>
    obtain ⟨k, v⟩ := e
    by_cases hk : k.same (.text key) = true
    · have hs := same_text_of_same hk other
      by_cases h : key = other <;> simp [Value.insert, Value.lookup, hk, hs, h]
    · have hi : Value.insert ((k, v) :: rest) (.text key) value =
          (k, v) :: Value.insert rest (.text key) value := by
        simp [Value.insert, hk]
      rw [hi]
      simp only [Value.lookup, List.find?_cons] at ih ⊢
      cases hko : k.same (.text other) with
      | false => simpa using ih
      | true =>
        have hne : key ≠ other := by
          rintro rfl
          exact hk hko
        simp [hne]

theorem get?_set (n : SettingsNode) (key : String) (value : Value) :
    (n.set (.text key) value).get? (.text key) = some value := by
  simp [get?, set, lookup_insert_text]

theorem get?_set_of_ne (n : SettingsNode) {key other : String} (value : Value)
    (h : key ≠ other) : (n.set (.text key) value).get? (.text other) = n.get? (.text other) := by
  simp [get?, set, lookup_insert_text, h]

/-- New settings for engines. -/
def newSolver : SettingsNode where
  kind := .solver
  entries := [(.text "agent", .nothing), (.text "log_output", .bool false),
    (.text "time_limit", .nothing), (.text "mip_gap", .nothing)]

/-- New general settings, above the settings for engines at the given place. -/
def newGeneral (solver : Nat) : SettingsNode where
  kind := .general
  entries := [(.text "solver", .ref (.settings solver)), (.text "output_level", .text "info")]

end SettingsNode

/-! ## Members of other objects -/

/-- The members of an object that cannot be replaced. -/
def Ref.fixedMembers : Ref → List String
  | model _ => ["name", "environment", "error_handler", "number_of_variables",
      "number_of_constraints", "number_of_pending_variables", "number_of_pending_constraints"]
  | environment _ => ["context", "solver_agent", "output_level"]
  | engine _ => ["call_log", "parameters", "number_of_columns", "number_of_rows"]
  | handler _ => ["number_of_errors", "number_of_warnings"]
  | settings _ | solver _ => []

/-- A value that was added to an object under a name of its own. -/
structure Note where
  owner : Ref
  name : String
  value : Value

/-! ## The store of all nodes -/

structure SettingsStore where
  nodes : List SettingsNode := []
  notes : List Note := []

namespace SettingsStore

def node? (s : SettingsStore) (i : Nat) : Option SettingsNode := s.nodes[i]?

def add (s : SettingsStore) (n : SettingsNode) : Nat × SettingsStore :=
  (s.nodes.length, { s with nodes := s.nodes ++ [n] })

/-- New settings with their defaults. -/
def addDefault (s : SettingsStore) : Nat × SettingsStore :=
  let (solver, s) := s.add .newSolver
  s.add (.newGeneral solver)

def modify (s : SettingsStore) (i : Nat) (f : SettingsNode → SettingsNode) : SettingsStore :=
  { s with nodes := s.nodes.modify i f }

/-! ## Tables as nodes -/

mutual

/-- A value with its tables kept as nodes, so that they can be shared. -/
def intern (s : SettingsStore) : Value → Value × SettingsStore
  | .table es =>
    let (es, s) := s.internEntries es
    let (i, s) := s.add { kind := .plain, entries := es }
    (.ref (.settings i), s)
  | .list xs =>
    let (xs, s) := s.internAll xs
    (.list xs, s)
  | .tuple xs =>
    let (xs, s) := s.internAll xs
    (.tuple xs, s)
  | .array kind xs =>
    let (xs, s) := s.internAll xs
    (.array kind xs, s)
  | .cell kind x =>
    let (x, s) := s.intern x
    (.cell kind x, s)
  | v => (v, s)

def internAll (s : SettingsStore) : List Value → List Value × SettingsStore
  | [] => ([], s)
  | x :: xs =>
    let (x, s) := s.intern x
    let (xs, s) := s.internAll xs
    (x :: xs, s)

def internEntries (s : SettingsStore) : List (Value × Value) → List (Value × Value) × SettingsStore
  | [] => ([], s)
  | (k, v) :: rest =>
    let (v, s) := s.intern v
    let (rest, s) := s.internEntries rest
    ((k, v) :: rest, s)

end

/-! ## Members -/

/-- What was noted on an object under a name. -/
def note? (s : SettingsStore) (r : Ref) (name : String) : Option Value :=
  (s.notes.find? fun n => n.owner = r && n.name = name).map (·.value)

/-- Notes a value on an object, in place of what was noted under the name before. -/
def addNote (s : SettingsStore) (r : Ref) (name : String) (value : Value) : SettingsStore :=
  { s with notes := ⟨r, name, value⟩ :: s.notes.filter fun n => n.owner ≠ r || n.name ≠ name }

/-- The setting of a node under a name. -/
def setting (n : SettingsNode) (name : String) : Except Fault Value :=
  if n.kind = .plain || name ∈ n.kind.operations then .error .missingMember
  else if name.startsWith "__" then .error .reservedSetting
  else
    match n.get? (.text name) with
    | some value => .ok value
    | none => .error (.missingSetting n.kind.label name)

/-- What a name means for a value: a setting of a node, or a member or a note of another object. -/
def child (view : View) (s : SettingsStore) (v : Value) (name : String) : Except Fault Value :=
  match v with
  | .ref (.settings i) =>
    match s.node? i with
    | some n => setting n name
    | none => .error .missingMember
  | .ref r =>
    match s.note? r name with
    | some value => .ok value
    | none => v.member view name
  | v => v.member view name

/-- Sets a setting of a node, or notes a value on another object. Domains, senses and directions take
notes as well, but nobody shares them, so that their notes are not kept. -/
def assign (view : View) (s : SettingsStore) (v : Value) (name : String) (value : Value) :
    Except Fault SettingsStore :=
  match v with
  | .ref (.settings i) =>
    match s.node? i with
    | some { kind := .plain, .. } | none => .error .missingMember
    | some _ => .ok (s.modify i (·.set (.text name) value))
  | .ref r =>
    if name ∈ r.fixedMembers then .error .missingMember else .ok (s.addNote r name value)
  | .domain .. | .sense _ | .direction _ =>
    match v.member view name with
    | .ok _ => .error .missingMember
    | .error _ => .ok s
  | _ => .error .missingMember

/-- Sets a setting at the end of a way through members. -/
def assignAlong (view : View) (s : SettingsStore) (v : Value) (value : Value) : List String →
    Except Fault SettingsStore
  | [] => .ok s
  | [name] => s.assign view v name value
  | name :: rest => do assignAlong view s (← s.child view v name) value rest

/-- The names between the dots of a dotted name. -/
def components (name : String) : List String := (name.toList.splitOn '.').map String.ofList

/-- Sets a setting by its dotted name. -/
def assignDotted (view : View) (s : SettingsStore) (root : Nat) (name : String) (value : Value) :
    Except Fault SettingsStore :=
  s.assignAlong view (.ref (.settings root)) value (components name)

end SettingsStore

/-! ## What engines are told -/

/-- The words for truth values. -/
def boolOfWord? : String → Option Bool
  | "1" | "yes" | "true" | "on" => some true
  | "0" | "no" | "false" | "off" => some false
  | _ => none

/-- A truth value; a text must be one of the words for truth values or say that there is none. -/
def truthOfSetting (view : View) (v : Value) : Except Failure Bool :=
  match v.text? with
  | some s =>
    let word := Text.lower s
    if word = "none" then .ok false
    else
      match boolOfWord? word with
      | some b => .ok b
      | none => .error (.notABoolean s)
  | none => Failure.lift (v.truthy view)

/-- An optional number; what reads as the word for nothing says that there is none. -/
def numberOfSetting (view : View) (v : Value) : Except Failure (Option Double) :=
  if Text.lower (v.display view) = "none" then .ok none else some <$> Failure.lift v.toDouble

/-- The parameters that engines are given, of settings that are looked up one by one. -/
def engineParameters (view : View) (setting : String → Except Fault Value) :
    Except Failure (List (String × Value)) := do
  let logOutput ← truthOfSetting view (← Failure.lift (setting "log_output"))
  let timeLimit ← numberOfSetting view (← Failure.lift (setting "time_limit"))
  let mipGap ← numberOfSetting view (← Failure.lift (setting "mip_gap"))
  return ("log_output", .bool logOutput) ::
    ((timeLimit.map fun x => ("time_limit", Value.float x)).toList ++
      (mipGap.map fun x => ("mip_gap", Value.float x)).toList)

end Milp

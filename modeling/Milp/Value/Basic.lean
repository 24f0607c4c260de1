import Milp.Constraint
set_option autoImplicit false

/-! # Values

What a caller may pass to the modelling layer and what it may answer. Callers are not checked before
they call, so every entry point takes values and rejects those it cannot use.

Stateful objects (models, engines, settings, …) are not values themselves: a value holds a
reference (`Ref`) to one, and what is behind a reference is seen through a `View`. -/

namespace Milp

/-! ## References -/

/-- Where an engine is kept: on its own, or inside the model that owns it. -/
inductive EngineRef where
  | free (index : Nat)
  | ofModel (index : Nat)
deriving DecidableEq, Repr

/-- Where a message handler is kept: on its own, or inside the model that owns it. -/
inductive HandlerRef where
  | free (index : Nat)
  | ofModel (index : Nat)
deriving DecidableEq, Repr

/-- A reference to a stateful object. -/
inductive Ref where
  | model (index : Nat)
  | environment (index : Nat)
  | settings (index : Nat)
  | engine (e : EngineRef)
  | handler (h : HandlerRef)
  /-- An instance of the native solver. -/
  | solver (index : Nat)
deriving DecidableEq, Repr

/-! ## The type -/

/-- The kinds of arrays, by what their elements are. -/
inductive ElementKind where
  | numbers (k : NumberKind)
  /-- Texts of at most a number of characters. -/
  | texts (width : Nat)
  | any
deriving DecidableEq, Repr

/-- What is shown of a table whose entries can change. -/
inductive TablePart where
  | keys
  | items
  | values
deriving DecidableEq, Repr

/-- A value of the modelling layer. -/
inductive Value where
  | nothing
  | number (x : Number)
  | text (s : String)
  /-- A text taken out of an array. -/
  | textItem (s : String)
  /-- A text of single bytes. -/
  | bytes (s : String)
  | list (xs : List Value)
  | tuple (xs : List Value)
  /-- A table in the order in which its keys were first set. -/
  | table (entries : List (Value × Value))
  /-- An array without dimensions whose only element is not a number. -/
  | cell (kind : ElementKind) (x : Value)
  /-- An array of one dimension. -/
  | array (kind : ElementKind) (xs : List Value)
  /-- A domain as a caller gives it: what it takes for infinity need not be a number. -/
  | domain (kind : VarKind) (infinity : Value)
  | sense (s : Sense)
  | direction (d : Direction)
  | var (v : Var)
  /-- An expression. Two expressions are the same object when they have the same tag; one that no
  caller has received yet has the tag 0. -/
  | expr (tag : Nat) (e : LinearExpr)
  | constraint (c : Constraint)
  | ref (r : Ref)
  /-- A part of the table behind a reference, whatever that holds later. -/
  | part (p : TablePart) (r : Ref)

namespace Value

instance : Inhabited Value := ⟨nothing⟩

@[match_pattern] abbrev bool (b : Bool) : Value := number (.truth b)
@[match_pattern] abbrev int (n : Int) : Value := number (.int n)
@[match_pattern] abbrev float (x : Double) : Value := number (.float x)
@[match_pattern] abbrev complex (re im : Double) : Value := number (.complex re im)
@[match_pattern] abbrev refusal (r : Refusal) : Value := number (.refusal r)

def ofDomain (d : Domain) : Value := domain d.kind (number d.infinity)

def ofName : Option String → Value
  | none => nothing
  | some s => text s

end Value

/-! ## What is behind references -/

/-- What can be seen of stateful objects. -/
structure View where
  /-- How a reference is quoted in a message. -/
  describe : Ref → String
  /-- How a reference is printed for itself. -/
  display : Ref → String
  /-- How a part of the table behind a reference is shown. -/
  describePart : TablePart → Ref → String
  /-- The entries of the table behind a reference, if it is one. -/
  entries : Ref → Option (List (Value × Value))
  /-- What can be read off an object by name. -/
  member : Ref → String → Except Fault Value
  /-- The word for the settings behind a reference, which tell what they do not have. -/
  owner : Ref → Option String
  /-- The serial numbers of variables. -/
  serial : Serials

/-- References of which nothing is seen. -/
def View.blank : View where
  describe _ := ""
  display _ := ""
  describePart _ _ := ""
  entries _ := none
  member _ _ := .error .missingMember
  owner _ := none
  serial := id

/-- The elements of a sequence, which may be one element again and again without end. -/
inductive Elements where
  | finite (xs : List Value)
  | endless (x : Value)

namespace Value

/-! ## Numbers -/

/-- Whether a value counts as a number: truth values do not, elements of numeric arrays and arrays
that hold a single number do. -/
def isNumber : Value → Bool
  | number (.truth _) | number (.item (.truth _)) | number (.cell (.truth _)) => false
  | number _ => true
  | _ => false

def isText : Value → Bool
  | text _ | textItem _ => true
  | _ => false

/-- The text that a value is. -/
def text? : Value → Option String
  | text s | textItem s => some s
  | _ => none

def number? : Value → Option Number
  | number x => some x
  | _ => none

def toNumber : Value → Except Fault Number
  | number x => .ok x
  | _ => .error .wrongType

/-- A double in text. -/
private def readDouble (s : String) : Except Fault Double :=
  match Double.ofText? s with
  | some x => .ok x
  | none => .error .wrongValue

/-- The double that a value stands for. A text is read as one, and so is what is alone in an
array without dimensions. -/
def toDouble : Value → Except Fault Double
  | text s | textItem s | bytes s => readDouble s
  | number x => x.toDouble
  | cell _ v => toDouble v
  | _ => .error .wrongType

/-- A whole number in decimal digits, with a sign or not, between blanks. -/
def intOfText? (s : String) : Option Int :=
  let s := Text.trim Text.isNumberBlank s.toList
  let (negative, s) := match s with
    | '-' :: r => (true, r)
    | '+' :: r => (false, r)
    | r => (false, r)
  match Double.takeDigits false s with
  | ([], _) => none
  | (ds, []) => some (if negative then -(Double.digitsValue ds : Int) else Double.digitsValue ds)
  | _ => none

private def readInt (s : String) : Except Fault Int :=
  match intOfText? s with
  | some n => .ok n
  | none => .error .wrongValue

/-- The whole number that a value stands for: a fraction is cut off, a text is read as digits. -/
def toInt : Value → Except Fault Int
  | text s | textItem s | bytes s => readInt s
  | number x => x.truncate
  | cell _ v => toInt v
  | _ => .error .wrongType

/-- The position that a value stands for in a sequence; a fractional number is none, and neither is
a truth value from an array. -/
def toIndex : Value → Except Fault Int
  | number (.truth b) => .ok (truthNumber b)
  | number (.int n) => .ok n
  | number (.refusal r) => .ok r.code
  | number (.item e) | number (.cell e) =>
    match e with
    | .signed n | .unsigned n => .ok n
    | _ => .error .wrongType
  | _ => .error .wrongType

/-! ## Keys -/

mutual

/-- Whether a value can be a key of a table. -/
def isKey : Value → Bool
  | list _ | table _ | number (.cell _) | cell .. | array .. | ref (.settings _) => false
  | part .values _ => true
  | part .. => false
  | tuple xs => areKeys xs
  | _ => true

def areKeys : List Value → Bool
  | [] => true
  | x :: xs => isKey x && areKeys xs

end

/-- Whether two numbers count as one key. -/
def sameNumber (x y : Number) : Bool :=
  match x.eq y with
  | .ok b => b
  | .error _ => false

mutual

/-- Whether two values are the same key. Numbers are compared by value across their kinds;
variables, constraints and other objects by identity; domains by their kind. -/
def same : Value → Value → Bool
  | nothing, nothing => true
  | number x, number y => sameNumber x y
  | text s, text t | text s, textItem t | textItem s, text t | textItem s, textItem t => s = t
  | bytes s, bytes t => s = t
  | list xs, list ys => sameList xs ys
  | tuple xs, tuple ys => sameList xs ys
  | table xs, table ys => xs.length == ys.length && sameEntries xs ys
  | domain k _, domain l _ => k = l
  | sense s, sense t => s = t
  | direction d, direction e => d = e
  | var v, var w => v.id = w.id
  | expr i _, expr j _ => i = j && i ≠ 0
  | constraint c, constraint d => c.id = d.id
  | ref r, ref s => r = s
  | part p r, part q s => p = q && r = s
  | _, _ => false

def sameList : List Value → List Value → Bool
  | [], [] => true
  | x :: xs, y :: ys => same x y && sameList xs ys
  | _, _ => false

/-- Whether every entry of the first table is in the second one. -/
def sameEntries : List (Value × Value) → List (Value × Value) → Bool
  | [], _ => true
  | (k, v) :: rest, ys => ys.any (fun y => same k y.1 && same v y.2) && sameEntries rest ys

end

/-! ## Conditions -/

/-- Whether a value counts as true. An array does so by its only element, and has no answer if it has
none or several. -/
def truthy (view : View) : Value → Except Fault Bool
  | nothing => .ok false
  | number x => .ok x.truthy
  | text s | textItem s | bytes s => .ok !s.isEmpty
  | list xs | tuple xs => .ok !xs.isEmpty
  | table es => .ok !es.isEmpty
  | cell _ v => truthy view v
  | array _ [v] => truthy view v
  | array .. => .error .wrongValue
  | expr _ e => .ok !e.terms.isEmpty
  | ref r | part _ r => .ok !((view.entries r).any List.isEmpty)
  | _ => .ok true

/-! ## Sequences -/

/-- Whether a value that is no text has parts that can be picked out of it. -/
def isSubscripted : Value → Bool
  | list _ | tuple _ | table _ | bytes _ | number (.item _) | number (.cell _) | cell .. | array ..
  | expr .. | ref (.settings _) => true
  | _ => false

/-- The part of a table that is asked for. -/
def partOf (p : TablePart) (entries : List (Value × Value)) : List Value :=
  match p with
  | .keys => entries.map Prod.fst
  | .values => entries.map Prod.snd
  | .items => entries.map fun e => tuple [e.1, e.2]

/-- The elements of a sequence; a table gives its keys and a text its characters. An expression
answers every position with the coefficient zero. -/
def elements (view : View) : Value → Except Fault Elements
  | list xs | tuple xs | array _ xs => .ok (.finite xs)
  | table es => .ok (.finite (partOf .keys es))
  | text s | textItem s => .ok (.finite (s.toList.map fun c => text (String.singleton c)))
  | bytes s => .ok (.finite (s.toList.map fun c => int c.toNat))
  | expr .. => .ok (.endless (float Double.zero))
  | ref r =>
    match view.entries r with
    | some es => .ok (.finite (partOf .keys es))
    | none => .error .wrongType
  | part p r =>
    match view.entries r with
    | some es => .ok (.finite (partOf p es))
    | none => .error .wrongType
  | _ => .error .wrongType

/-- All elements of a sequence, which must have an end. -/
def allElements (view : View) (v : Value) : Except Fault (List Value) := do
  match ← v.elements view with
  | .finite xs => return xs
  | .endless _ => .error .exhausted

/-! ## Tables -/

/-- The value of a key in a table. -/
def lookup (entries : List (Value × Value)) (key : Value) : Option Value :=
  (entries.find? fun e => same e.1 key).map Prod.snd

/-- Sets a key of a table: a key that is present keeps its place. -/
def insert (entries : List (Value × Value)) (key value : Value) : List (Value × Value) :=
  match entries with
  | [] => [(key, value)]
  | e :: rest => if same e.1 key then (e.1, value) :: rest else e :: insert rest key value

/-- Removes a key of a table. -/
def erase (entries : List (Value × Value)) (key : Value) : List (Value × Value) :=
  entries.filter fun e => !same e.1 key

/-- A table from a list of entries, of which the later ones win. -/
def tableOf (entries : List (Value × Value)) : Value :=
  table (entries.foldl (fun t e => insert t e.1 e.2) [])

/-! ## Size -/

mutual

/-- How deep values are nested in a value. -/
def depth : Value → Nat
  | list xs | tuple xs | array _ xs => depthAll xs + 1
  | table es => depthEntries es + 1
  | cell _ v => depth v + 1
  | _ => 0

def depthAll : List Value → Nat
  | [] => 0
  | x :: xs => max (depth x) (depthAll xs)

def depthEntries : List (Value × Value) → Nat
  | [] => 0
  | (k, v) :: rest => max (max (depth k) (depth v)) (depthEntries rest)

end

end Value

end Milp

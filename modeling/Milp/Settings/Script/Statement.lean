import Milp.Settings.Script.Token
import Milp.Value.Basic
set_option autoImplicit false

/-! # Statements of a script

A script assigns values to members of the settings: a line has the form `context.name = literal`, or
several such statements between semicolons. A literal may have a sign in front, stand in brackets and
be part of a list, and a name or a member may stand in its place. Main statement: a script is read as a whole before any of it is carried out, and a
mistake anywhere makes it no script (`statements`). -/

namespace Milp.Settings.Script

/-- What a script computes with. -/
inductive Term where
  | constant (v : Value)
  | name (s : String)
  /-- A member of what a term stands for. -/
  | member (t : Term) (name : String)
  | plus (t : Term)
  | minus (t : Term)
  | complement (t : Term)
  | not (t : Term)
  | list (ts : List Term)
  | tuple (ts : List Term)
  | table (ts : List (Term × Term))

/-- What is assigned to: a name, or a member of what a term stands for. -/
inductive Target where
  | name (s : String)
  | member (t : Term) (name : String)

inductive Statement where
  | assign (targets : List Target) (t : Term)
  /-- A target with a remark, which is computed and left alone, and what is assigned, if anything. -/
  | declare (target : Target) (remark : Term) (t : Option Term)
  | evaluate (t : Term)
  | nothing

/-- Why a text is no script. -/
inductive Mistake where
  | form
  | indentation
deriving DecidableEq, Repr

/-- Words that are no names. -/
def keywords : List String :=
  ["False", "None", "True", "and", "as", "assert", "async", "await", "break", "class", "continue",
    "def", "del", "elif", "else", "except", "finally", "for", "from", "global", "if", "import", "in",
    "is", "lambda", "nonlocal", "not", "or", "pass", "raise", "return", "try", "while", "with", "yield"]

/-- The word of a token that has a meaning of its own. -/
def keyword? : Token → Option String
  | .name s true => if s ∈ keywords then some s else none
  | _ => none

/-- The name that a token is, if it has no meaning of its own. -/
def name? : Token → Option String
  | .name s plain => if plain ∧ s ∈ keywords then none else some s
  | _ => none

/-! ## Terms -/

def constant? : Token → Option Value
  | .number (.whole n) => some (.int n)
  | .number (.real x) => some (.float x)
  | .number (.imaginary x) => some (.complex Double.zero x)
  | .name "None" true => some .nothing
  | .name "True" true => some (.bool true)
  | .name "False" true => some (.bool false)
  | _ => none

/-- Texts that stand side by side are one. -/
def joinTexts (s : String) : List Token → String × List Token
  | .text t :: rest => joinTexts (s ++ t) rest
  | rest => (s, rest)

/-- Bytes that stand side by side are one; texts and bytes do not mix. -/
def joinBytes (s : String) : List Token → String × List Token
  | .bytes t :: rest => joinBytes (s ++ t) rest
  | rest => (s, rest)

/-- A term with the names of members that follow it after points. -/
def withMembers (t : Term) : List Token → Term × List Token
  | .mark "." :: n :: rest =>
    match name? n with
    | some s => withMembers (.member t s) rest
    | none => (t, .mark "." :: n :: rest)
  | rest => (t, rest)

mutual

/-- A term: signs in front of a constant, a name or a term in brackets, which may be followed by
members. The first argument bounds the depth. -/
def term : Nat → List Token → Option (Term × List Token)
  | 0, _ => none
  | fuel + 1, .mark "-" :: rest => (fun (t, r) => (.minus t, r)) <$> term fuel rest
  | fuel + 1, .mark "+" :: rest => (fun (t, r) => (.plus t, r)) <$> term fuel rest
  | fuel + 1, .mark "~" :: rest => (fun (t, r) => (.complement t, r)) <$> term fuel rest
  | fuel + 1, s => (fun (t, rest) => withMembers t rest) <$> atom fuel s

/-- A constant, a name or a term in brackets. -/
def atom : Nat → List Token → Option (Term × List Token)
  | 0, _ => none
  | _ + 1, .text s :: rest =>
    match joinTexts s rest with
    | (_, .bytes _ :: _) => none
    | (s, rest) => some (.constant (.text s), rest)
  | _ + 1, .bytes s :: rest =>
    match joinBytes s rest with
    | (_, .text _ :: _) => none
    | (s, rest) => some (.constant (.bytes s), rest)
  | _ + 1, .mark "(" :: .mark ")" :: rest => some (.tuple [], rest)
  | fuel + 1, .mark "(" :: rest => do
    let (t, rest) ← terms fuel rest
    match rest with
    | .mark ")" :: rest => return (t, rest)
    | _ => none
  | fuel + 1, .mark "[" :: rest => do
    let (ts, _, rest) ← items fuel rest
    match rest with
    | .mark "]" :: rest => return (.list ts, rest)
    | _ => none
  | fuel + 1, .mark "\x7b" :: rest => do
    let (es, rest) ← entries fuel rest
    match rest with
    | .mark "\x7d" :: rest => return (.table es, rest)
    | _ => none
  | _ + 1, t :: rest =>
    match constant? t, name? t with
    | some v, _ => some (.constant v, rest)
    | none, some s => some (.name s, rest)
    | none, none => none
  | _ + 1, [] => none

/-- A term that may be denied. -/
def denied : Nat → List Token → Option (Term × List Token)
  | 0, _ => none
  | fuel + 1, .name "not" true :: rest => (fun (t, r) => (.not t, r)) <$> denied fuel rest
  | fuel + 1, rest => term fuel rest

/-- Terms between commas, and whether the last one is followed by a comma. -/
def items : Nat → List Token → Option (List Term × Bool × List Token)
  | 0, _ => none
  | fuel + 1, s =>
    match denied fuel s with
    | none => some ([], false, s)
    | some (t, .mark "," :: rest) =>
      (fun (ts, comma, r) => (t :: ts, comma || ts.isEmpty, r)) <$> items fuel rest
    | some (t, rest) => some ([t], false, rest)

/-- One term, or several between commas, which are a tuple. -/
def terms : Nat → List Token → Option (Term × List Token)
  | 0, _ => none
  | fuel + 1, s =>
    match items fuel s with
    | some ([t], false, rest) => some (t, rest)
    | some (t :: ts, _, rest) => some (.tuple (t :: ts), rest)
    | _ => none

/-- Entries of a table between commas. -/
def entries : Nat → List Token → Option (List (Term × Term) × List Token)
  | 0, _ => none
  | fuel + 1, s =>
    match denied fuel s with
    | none => some ([], s)
    | some (k, .mark ":" :: rest) => do
      let (v, rest) ← denied fuel rest
      match rest with
      | .mark "," :: rest => (fun (es, r) => ((k, v) :: es, r)) <$> entries fuel rest
      | rest => return ([(k, v)], rest)
    | some _ => none

end

/-! ## Statements -/

/-- A target, which is followed by a given mark, and what comes after that. -/
def target? (mark : String) (fuel : Nat) (s : List Token) : Option (Target × List Token) :=
  match term fuel s with
  | some (t, .mark m :: rest) =>
    if m ≠ mark then none
    else
      match t with
      | .name n => some (.name n, rest)
      | .member t n => some (.member t n, rest)
      | _ => none
  | _ => none

/-- Targets with an equals sign after each. -/
def targets : Nat → List Token → List Target × List Token
  | 0, s => ([], s)
  | fuel + 1, s =>
    match target? "=" fuel s with
    | some (t, rest) =>
      let (ts, rest) := targets fuel rest
      (t :: ts, rest)
    | none => ([], s)

/-- A statement. -/
def statement (fuel : Nat) (s : List Token) : Option (Statement × List Token) :=
  match s with
  | .name "pass" true :: rest => some (.nothing, rest)
  | _ =>
    match target? ":" fuel s with
    | some (target, rest) => do
      let (remark, rest) ← denied fuel rest
      match rest with
      | .mark "=" :: rest =>
        let (t, rest) ← terms fuel rest
        return (.declare target remark (some t), rest)
      | rest => return (.declare target remark none, rest)
    | none =>
      let (ts, rest) := targets fuel s
      match terms fuel rest with
      | some (t, rest) => some (if ts.isEmpty then .evaluate t else .assign ts t, rest)
      | none => none

/-- The statements of the lines that follow. The first argument bounds their number. -/
def statementsUpTo : Nat → List Token → Except Mistake (List Statement)
  | 0, _ => .ok []
  | _ + 1, [] => .ok []
  | _ + 1, .indented :: _ => .error .indentation
  | fuel + 1, s =>
    match statement (4 * s.length) s with
    | some (st, .lineEnd :: rest) => (st :: ·) <$> statementsUpTo fuel rest
    | some (st, .mark ";" :: .lineEnd :: rest) => (st :: ·) <$> statementsUpTo fuel rest
    | some (st, .mark ";" :: rest) => (st :: ·) <$> statementsUpTo fuel rest
    | _ => .error .form

/-- Whether a target has a name that nothing can be assigned to. -/
def isReserved : Target → Bool
  | .name s | .member _ s => s = "__debug__"

/-- The statements of a script. -/
def statements (text : String) : Except Mistake (List Statement) := do
  let ts := tokens text
  let sts ← statementsUpTo (ts.length + 1) ts
  let reserved := sts.any fun st => match st with
    | .assign targets _ => targets.any isReserved
    | .declare target _ _ => isReserved target
    | _ => false
  if reserved then .error .form else .ok sts

end Milp.Settings.Script

import Milp.Value.GridText
set_option autoImplicit false

/-! # Values in text

How messages show values: `Value.description` in a form that tells a text from a name or a number,
`Value.display` the same except that a text and an object with a name stand for themselves. What a
reference shows is up to whoever can look it up (`View`). -/

namespace Milp.Value

/-! ## Names of kinds -/

def kindClass : VarKind → String
  | .continuous => "ContinuousVarType"
  | .integer => "IntegerVarType"
  | .binary => "BinaryVarType"

def domainText (k : VarKind) : String := s!"VarType_{k.shortName}"

def domainDescription (k : VarKind) : String := s!"mipbuilder.vartype.{kindClass k}()"

/-- The word for a part of a table. -/
def partClass : TablePart → String
  | .keys => "dict_keys"
  | .items => "dict_items"
  | .values => "dict_values"

/-! ## Elements of arrays -/

/-- An element that was taken out of an array, as it is quoted. -/
def itemDescription : Element → String
  | .truth b => "np." ++ Number.truthText b ++ "_"
  | .signed n => s!"np.int64({n})"
  | .unsigned n => s!"np.uint64({n})"
  | .real x => s!"np.float64({x.shortestText})"
  | .complex re im =>
    let body := Number.complexText re im
    if body.startsWith "(" then "np.complex128" ++ body else s!"np.complex128({body})"

/-- The numeric elements of an array. -/
def elementsOf (xs : List Value) : List Element :=
  xs.filterMap fun x => match x with
    | number (.item e) => some e
    | _ => none

/-- An array of numbers or texts, by how its elements are written. -/
def plainWords (kind : ElementKind) (line : Bool) (xs : List Value) : List String :=
  match kind with
  | .numbers k => elementTexts line k (elementsOf xs)
  | _ => xs.map fun x => (x.text?.map Text.quoted).getD ""

/-! ## Showing -/

/-- Between a name for a function and its arguments in text. -/
def called (name argument : String) : String := name ++ "(" ++ argument ++ ")"

def bracketList (texts : List String) : String := "[" ++ ", ".intercalate texts ++ "]"

def braced (texts : List String) : String := "\x7b" ++ ", ".intercalate texts ++ "\x7d"

/-- A text of bytes as it is quoted. -/
def bytesDescription (s : String) : String :=
  let quote := Text.quoteFor s.toList
  let shown := fun (c : Char) =>
    if c.toNat < 128 then Text.escapeChar quote c else Text.escapeCode c.toNat
  "b" ++ String.ofList (quote :: s.toList.flatMap shown ++ [quote])

mutual

/-- A value as messages quote it. -/
def description (view : View) : Value → String
  | nothing => "None"
  | number (.item e) => itemDescription e
  | number (.cell e) =>
    GridText.describe (.numbers e.kind) false 1 (elementTexts false e.kind [e])
  | refusal r => s!"<ErrorCode.{r.name}: {r.code}>"
  | number x => x.text
  | text s => Text.quoted s
  | textItem s => called "np.str_" (Text.quoted s)
  | bytes s => bytesDescription s
  | list xs => bracketList (descriptions view xs)
  | tuple [x] => "(" ++ description view x ++ ",)"
  | tuple xs => "(" ++ ", ".intercalate (descriptions view xs) ++ ")"
  | table es => braced (entryTexts view es)
  | cell .any (list xs) =>
    GridText.describe .any false 1 [called "list" (bracketList (descriptions view xs))]
  | cell kind x => GridText.describe kind false 1 [description view x]
  | array .any xs => GridText.describe .any true xs.length (GridText.shownOf (objectTexts view xs))
  | array kind xs =>
    GridText.describe kind true xs.length (plainWords kind true (GridText.shownOf xs))
  | domain k _ => domainDescription k
  | sense s => s!"<ComparisonType.{s.name}: {s.number}>"
  | direction d => s!"<ObjectiveSense.{d.name}: {d.number}>"
  | var v => v.description
  | expr _ e => e.description view.serial
  | constraint c => c.description view.serial
  | ref r => view.describe r
  | part p r => view.describePart p r

def descriptions (view : View) : List Value → List String
  | [] => []
  | x :: xs => description view x :: descriptions view xs

def entryTexts (view : View) : List (Value × Value) → List String
  | [] => []
  | (k, v) :: rest =>
    (description view k ++ ": " ++ description view v) :: entryTexts view rest

/-- The elements of an array of any objects. -/
def objectTexts (view : View) : List Value → List String
  | [] => []
  | list ys :: xs =>
    called "list" (bracketList (descriptions view ys)) :: objectTexts view xs
  | x :: xs => description view x :: objectTexts view xs

end

/-- A value as messages print it. -/
def display (view : View) : Value → String
  | text s | textItem s => s
  | number x => x.text
  | cell _ x => display view x
  | array .any xs => GridText.display xs.length (GridText.shownOf (objectTexts view xs))
  | array kind xs => GridText.display xs.length (plainWords kind true (GridText.shownOf xs))
  | domain k _ => domainText k
  | sense s => "ComparisonType." ++ s.name
  | direction d => "ObjectiveSense." ++ d.name
  | var v => v.text view.serial
  | expr _ e => e.text view.serial
  | constraint c => c.text view.serial
  | ref r => view.display r
  | v => description view v

end Milp.Value

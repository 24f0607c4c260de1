import Milp.Proofs.Double.Text
import Milp.Proofs.Engine.Attribute
import Milp.Proofs.Lp.Name
import Milp.Proofs.Model.Image
import Milp.Proofs.Variable
import Mathlib.Order.WithBot
set_option autoImplicit false

/-! # The bounds that a reader finds

A reader of the LP format knows a column with no line for its bounds to be bounded below by zero and by
nothing above; a line says otherwise for one side or for both. Read in this way, the lines that are
printed for the bounds of columns give each column its own bounds, rounded to twelve significant digits
and infinite from `10 ^ 20` on. There are two exceptions: a binary column is always bounded by zero and
one, whatever its own bounds are, and columns that share a printed name share their lines
(`boundsLines_read`). -/

namespace Milp.Lp

/-! ## Reading -/

/-- A bound, which may be infinite. -/
abbrev Extended : Type := WithBot (WithTop ℚ)

def Extended.ofRat (x : ℚ) : Extended := ((x : WithTop ℚ) : WithBot (WithTop ℚ))

/-- The bounds of a column. -/
structure Range where
  lower : Extended
  upper : Extended

/-- The bounds of a column that no line is about. -/
def Range.default : Range := ⟨.ofRat 0, ⊤⟩

/-- What a line says of the bounds of a column. -/
inductive BoundsLine where
  | free (name : List Char)
  | atLeast (name : List Char) (lower : Extended)
  | atMost (name : List Char) (upper : Extended)
  | between (lower : Extended) (name : List Char) (upper : Extended)

/-- A word for a bound: a sign and a word if it is infinite, and a number otherwise. -/
def extended? (word : List Char) : Option Extended :=
  if word = "+inf".toList then some ⊤
  else if word = "-inf".toList then some ⊥
  else (Double.numberOfChars? word).map .ofRat

namespace BoundsLine

/-- What a line says, from its words. -/
def ofText? (line : String) : Option BoundsLine :=
  match line.toList.splitOn ' ' with
  | [[], name, word] => if word = "free".toList then some (.free name) else none
  | [[], name, sign, bound] =>
    if sign = ">=".toList then atLeast name <$> extended? bound
    else if sign = "<=".toList then atMost name <$> extended? bound
    else none
  | [[], low, sign, name, sign', high] =>
    if sign = "<=".toList ∧ sign' = "<=".toList then do
      let lower ← extended? low
      let upper ← extended? high
      return .between lower name upper
    else none
  | _ => none

def name : BoundsLine → List Char
  | free name | atLeast name _ | atMost name _ | between _ name _ => name

/-- The bounds of the column that a line is about, by its bounds before. -/
def apply (r : Range) : BoundsLine → Range
  | free _ => ⟨⊥, ⊤⟩
  | atLeast _ lower => { r with lower }
  | atMost _ upper => { r with upper }
  | between lower _ upper => ⟨lower, upper⟩

/-- The bounds of the column with a name, which only lines about it change. -/
def applyTo (column : String) (r : Range) (line : BoundsLine) : Range :=
  if line.name = column.toList then line.apply r else r

/-- The bounds that lines give to the column with a name. -/
def rangeOf (lines : List BoundsLine) (column : String) : Range :=
  lines.foldl (applyTo column) .default

end BoundsLine

/-- The bounds of columns, by their names, as a reader finds them in lines. -/
def readBounds (lines : List String) : Option (String → Range) :=
  BoundsLine.rangeOf <$> lines.mapM BoundsLine.ofText?

/-! ## Bounds in words -/

/-- What a bound is taken for: infinite from `10 ^ 20` on, and otherwise rounded. -/
inductive Means (x : Double) : Extended → Prop where
  | above (h : infinity.le x = true) : Means x ⊤
  | below (h : x.le (-infinity) = true) : Means x ⊥
  | rounded {y : ℚ} (habove : infinity.le x = false) (hbelow : x.le (-infinity) = false)
    (rounds : Double.RoundsTo 12 x y) : Means x (.ofRat y)

theorem unboundedAbove_float (x : Double) : unboundedAbove (.float x) = .ok (infinity.le x) :=
  Value.holds_atLeast_float x infinity

theorem unboundedBelow_float (x : Double) : unboundedBelow (.float x) = .ok (x.le (-infinity)) :=
  Value.holds_atMost_float x (-infinity)

/-- A double that is bounded on both sides is finite. -/
theorem isFinite_of_bounded {x : Double} (hnan : x ≠ .nan) (habove : infinity.le x = false)
    (hbelow : x.le (-infinity) = false) : x.isFinite = true := by
  cases x with
  | nan => exact absurd rfl hnan
  | infinite negative =>
    cases negative
    · exact absurd habove (by decide +kernel)
    · exact absurd hbelow (by decide +kernel)
  | finite => rfl

/-- The word for a bound is read as what the bound means. -/
theorem numberText_read {x : Double} (hnan : x ≠ .nan) :
    ∃ w b, numberText (.float x) = .ok w ∧ extended? w.toList = some b ∧ Means x b ∧
      ' ' ∉ w.toList := by
  rw [numberText, unboundedAbove_float, unboundedBelow_float]
  cases habove : infinity.le x with
  | true => exact ⟨"+inf", ⊤, rfl, rfl, .above habove, by decide⟩
  | false =>
  cases hbelow : x.le (-infinity) with
  | true => exact ⟨"-inf", ⊥, rfl, rfl, .below hbelow, by decide⟩
  | false =>
    obtain ⟨y, hread, hrounds, hblank⟩ := Double.numberOfChars?_generalText (by decide : 0 < 12)
      (isFinite_of_bounded hnan habove hbelow)
    have hplus : (Double.generalText 12 x).toList ≠ "+inf".toList := by
      intro h
      rw [h] at hread
      cases hread
    have hminus : (Double.generalText 12 x).toList ≠ "-inf".toList := by
      intro h
      rw [h] at hread
      cases hread
    refine ⟨_, .ofRat y, rfl, ?_, .rounded habove hbelow hrounds, hblank⟩
    rw [extended?, if_neg hplus, if_neg hminus, hread]
    rfl

theorem blank_unusable : startsName ' ' = false ∧ continuesName ' ' = false := by
  have halpha : ' '.isAlpha = false := by decide
  have halphanumeric : ' '.isAlphanum = false := by decide
  have hmark : isMark ' ' = false := by simp [isMark]
  rw [startsName, continuesName, halpha, halphanumeric, hmark]
  decide

theorem not_mem_blank_of_isCompliant {s : String} (h : isCompliant s = true) : ' ' ∉ s.toList := by
  intro hmem
  rw [isCompliant] at h
  split at h
  · cases h
  · rename_i c rest hs
    rw [Bool.and_eq_true] at h
    rw [hs] at hmem
    rcases List.mem_cons.1 hmem with rfl | hrest
    · exact absurd (h.1.symm.trans blank_unusable.1) (by decide)
    · exact absurd ((List.all_eq_true.1 h.2 ' ' hrest).symm.trans blank_unusable.2) (by decide)

/-! ## Lines -/

namespace BoundsLine

section

variable {name low high : String} {lower upper : Extended}

theorem ofText?_free (hname : ' ' ∉ name.toList) :
    ofText? s!" {name} free" = some (.free name.toList) := by
  have hwords : (s!" {name} free").toList = [' '].intercalate [[], name.toList, "free".toList] := by
    change (" " ++ name ++ " free").toList = _
    simp [List.intercalate]
  rw [ofText?, hwords, List.splitOn_intercalate ' ' (by simp [hname]) (List.cons_ne_nil _ _)]
  rfl

theorem ofText?_atLeast (hname : ' ' ∉ name.toList) (hlow : ' ' ∉ low.toList)
    (hlower : extended? low.toList = some lower) :
    ofText? s!" {name} >= {low}" = some (.atLeast name.toList lower) := by
  have hwords : (s!" {name} >= {low}").toList =
      [' '].intercalate [[], name.toList, ">=".toList, low.toList] := by
    change (" " ++ name ++ " >= " ++ low).toList = _
    simp [List.intercalate]
  rw [ofText?, hwords, List.splitOn_intercalate ' ' (by simp [hname, hlow]) (List.cons_ne_nil _ _)]
  dsimp only
  rw [if_pos rfl, hlower]
  rfl

theorem ofText?_between (hname : ' ' ∉ name.toList) (hlow : ' ' ∉ low.toList)
    (hhigh : ' ' ∉ high.toList) (hlower : extended? low.toList = some lower)
    (hupper : extended? high.toList = some upper) :
    ofText? s!" {low} <= {name} <= {high}" = some (.between lower name.toList upper) := by
  have hwords : (s!" {low} <= {name} <= {high}").toList =
      [' '].intercalate [[], low.toList, "<=".toList, name.toList, "<=".toList, high.toList] := by
    change (" " ++ low ++ " <= " ++ name ++ " <= " ++ high).toList = _
    simp [List.intercalate]
  rw [ofText?, hwords,
    List.splitOn_intercalate ' ' (by simp [hname, hlow, hhigh]) (List.cons_ne_nil _ _)]
  dsimp only
  rw [if_pos ⟨rfl, rfl⟩, hlower, hupper]
  rfl

end

end BoundsLine

/-! ## Columns -/

/-- The bounds that a column is printed with: zero and one for a binary column, its own otherwise. -/
inductive Shows (c : Milp.Column) : Range → Prop where
  | binary (h : c.kind = .binary) : Shows c ⟨.ofRat 0, .ofRat 1⟩
  | own (h : c.kind ≠ .binary) {r : Range} (lower : Means c.lower r.lower)
    (upper : Means c.upper r.upper) : Shows c r

theorem hasKind_printed (c : Milp.Column) (k : VarKind) :
    hasKind (Engine.Column.printed c) k = .ok (decide (c.kind = k)) := by
  have hcode : c.kind.code = k.code ↔ c.kind = k := by
    cases c.kind <;> cases k <;> decide
  rw [hasKind, ← decide_eq_decide.2 hcode]
  exact congrArg Failure.lift (Value.equals_text c.kind.code k.code)

/-- A double that equals zero means zero. -/
theorem means_zero {x : Double} (h : (Number.int 0).same (.float x) = true) :
    Means x (.ofRat 0) := by
  obtain ⟨negative, valid, rfl⟩ := Number.same_zero_float h
  have hbounded : ∀ negative valid, infinity.le (.finite negative 0 valid) = false ∧
      Double.le (.finite negative 0 valid) (-infinity) = false := by decide +kernel
  exact .rounded (hbounded negative valid).1 (hbounded negative valid).2 (.zero negative valid)

theorem extended?_zero : extended? "0".toList = some (.ofRat 0) := by
  have h : extended? "0".toList = some (.ofRat (Decimal.value ⟨0, 0⟩)) := rfl
  rw [h, Decimal.value, Nat.cast_zero, zero_mul]

theorem extended?_one : extended? "1".toList = some (.ofRat 1) := by
  have h : extended? "1".toList = some (.ofRat (Decimal.value ⟨1, 0⟩)) := rfl
  rw [h, Decimal.value, Nat.cast_one, one_mul, zpow_zero]

/-- What a reader has of a column with a name, and the bounds that he gives it. -/
structure ReadAs (c : Milp.Column) (name : String) (line : Option String) (said : List BoundsLine) :
    Prop where
  printed : (Engine.Column.printed c).boundsLine? name = .ok line
  read : line.toList.mapM BoundsLine.ofText? = some said
  about : ∀ l ∈ said, l.name = name.toList
  shows : Shows c (said.foldl BoundsLine.apply .default)

theorem ReadAs.single {c : Milp.Column} {name line : String} {l : BoundsLine}
    (printed : (Engine.Column.printed c).boundsLine? name = .ok (some line))
    (read : BoundsLine.ofText? line = some l) (about : l.name = name.toList)
    (shows : Shows c (l.apply .default)) : ReadAs c name (some line) [l] where
  printed := printed
  read := by
    rw [Option.toList_some, List.mapM_cons, read]
    rfl
  about := by
    rintro l' hl
    rw [List.mem_singleton.1 hl, about]
  shows := shows

/-- A binary column is always printed with the same bounds. -/
theorem readAs_binary {c : Milp.Column} {name : String} (hname : ' ' ∉ name.toList)
    (hbinary : c.kind = .binary) :
    ReadAs c name (some s!" 0 <= {name} <= 1")
      [.between (.ofRat 0) name.toList (.ofRat 1)] := by
  have hline : (Engine.Column.printed c).boundsLine? name = .ok (some s!" 0 <= {name} <= 1") := by
    rw [Column.boundsLine?, hasKind_printed, decide_eq_true hbinary]
    rfl
  have hread := BoundsLine.ofText?_between hname (by decide) (by decide) extended?_zero
    extended?_one
  have hsame : " " ++ "0" ++ " <= " ++ name ++ " <= " ++ "1" = " 0 <= " ++ name ++ " <= 1" :=
    String.toList_inj.1 (by simp)
  exact .single hline ((congrArg BoundsLine.ofText? hsame).symm.trans hread) rfl (.binary hbinary)

/-- The line of a column that is not binary is chosen by its bounds. -/
theorem boundsLine?_eq {c : Milp.Column} (name : String) {low high : String}
    (hbinary : c.kind ≠ .binary) (hlow : numberText (.float c.lower) = .ok low)
    (hhigh : numberText (.float c.upper) = .ok high) :
    (Engine.Column.printed c).boundsLine? name =
      if c.lower.le (-infinity) && infinity.le c.upper then .ok (some s!" {name} free")
      else if infinity.le c.upper then
        if (Number.int 0).same (.float c.lower) then .ok none
        else .ok (some s!" {name} >= {low}")
      else .ok (some s!" {low} <= {name} <= {high}") := by
  have hbelow : unboundedBelow (Engine.Column.printed c).lower = .ok (c.lower.le (-infinity)) :=
    unboundedBelow_float c.lower
  have habove : unboundedAbove (Engine.Column.printed c).upper = .ok (infinity.le c.upper) :=
    unboundedAbove_float c.upper
  have hzero : Failure.lift (Value.equals (.int 0) (Engine.Column.printed c).lower) =
      .ok ((Number.int 0).same (.float c.lower)) :=
    congrArg Failure.lift (Value.equals_int_float 0 c.lower)
  have hlow' : numberText (Engine.Column.printed c).lower = .ok low := hlow
  have hhigh' : numberText (Engine.Column.printed c).upper = .ok high := hhigh
  rw [Column.boundsLine?, hasKind_printed, decide_eq_false hbinary, hbelow, habove, hzero, hlow',
    hhigh']
  cases c.lower.le (-infinity) <;> cases infinity.le c.upper <;>
    cases (Number.int 0).same (.float c.lower) <;> rfl

/-- The line of a column gives it the bounds that it is printed with. -/
theorem boundsLine?_read {c : Milp.Column} {name : String} (hname : ' ' ∉ name.toList)
    (hnan : c.kind ≠ .binary → c.lower ≠ .nan ∧ c.upper ≠ .nan) :
    ∃ line said, ReadAs c name line said := by
  by_cases hbinary : c.kind = .binary
  · exact ⟨_, _, readAs_binary hname hbinary⟩
  obtain ⟨hlower, hupper⟩ := hnan hbinary
  obtain ⟨low, lower, hlow, hlowRead, hlowMeans, hlowBlank⟩ := numberText_read hlower
  obtain ⟨high, upper, hhigh, hhighRead, hhighMeans, hhighBlank⟩ := numberText_read hupper
  have hline := boundsLine?_eq name hbinary hlow hhigh
  cases habove : infinity.le c.upper with
  | false =>
    -- both bounds are printed
    rw [habove, Bool.and_false, if_neg Bool.false_ne_true, if_neg Bool.false_ne_true] at hline
    exact ⟨_, _, .single hline
      (BoundsLine.ofText?_between hname hlowBlank hhighBlank hlowRead hhighRead) rfl
      (.own hbinary hlowMeans hhighMeans)⟩
  | true =>
  rw [habove, Bool.and_true] at hline
  cases hbelow : c.lower.le (-infinity) with
  | true =>
    rw [hbelow, if_pos rfl] at hline
    exact ⟨_, _, .single hline (BoundsLine.ofText?_free hname) rfl
      (.own hbinary (.below hbelow) (.above habove))⟩
  | false =>
  rw [hbelow, if_neg Bool.false_ne_true, if_pos rfl] at hline
  cases hzero : (Number.int 0).same (.float c.lower) with
  | true =>
    -- these are the bounds that a reader assumes
    rw [hzero, if_pos rfl] at hline
    exact ⟨none, [], hline, rfl, fun _ h => (nomatch h),
      .own hbinary (means_zero hzero) (.above habove)⟩
  | false =>
    rw [hzero, if_neg Bool.false_ne_true] at hline
    exact ⟨_, _, .single hline (BoundsLine.ofText?_atLeast hname hlowBlank hlowRead) rfl
      (.own hbinary hlowMeans (.above habove))⟩

/-! ## All columns -/

section

variable {pairs : List (Milp.Column × String)} {said : List (List BoundsLine)} {s : String}

/-- Lines about another column change nothing. -/
theorem foldl_applyTo_other {t : String} {lines : List BoundsLine} (hts : t ≠ s)
    (h : ∀ l ∈ lines, l.name = t.toList) (r : Range) :
    lines.foldl (BoundsLine.applyTo s) r = r := by
  induction lines generalizing r with
  | nil => rfl
  | cons l rest ih =>
    obtain ⟨hl, hrest⟩ := List.forall_mem_cons.1 h
    have hne : ¬ l.name = s.toList := fun heq => hts (String.toList_inj.1 (hl.symm.trans heq))
    rw [List.foldl_cons, BoundsLine.applyTo, if_neg hne]
    exact ih hrest r

theorem foldl_applyTo_own {lines : List BoundsLine} (h : ∀ l ∈ lines, l.name = s.toList)
    (r : Range) : lines.foldl (BoundsLine.applyTo s) r = lines.foldl BoundsLine.apply r := by
  induction lines generalizing r with
  | nil => rfl
  | cons l rest ih =>
    obtain ⟨hl, hrest⟩ := List.forall_mem_cons.1 h
    rw [List.foldl_cons, List.foldl_cons, BoundsLine.applyTo, if_pos hl]
    exact ih hrest _

/-- What lines say of several columns, given by what they say of each. -/
abbrev SaidOf (pairs : List (Milp.Column × String)) (said : List (List BoundsLine)) : Prop :=
  List.Forall₂ (fun p ls => (∀ l ∈ ls, l.name = p.2.toList) ∧
    Shows p.1 (ls.foldl BoundsLine.apply .default)) pairs said

theorem foldl_applyTo_others (h : SaidOf pairs said) (hs : ∀ p ∈ pairs, p.2 ≠ s) (r : Range) :
    said.flatten.foldl (BoundsLine.applyTo s) r = r := by
  induction h with
  | nil => rfl
  | @cons p ls pairs said hp _ ih =>
    obtain ⟨hne, hrest⟩ := List.forall_mem_cons.1 hs
    rw [List.flatten_cons, List.foldl_append, foldl_applyTo_other hne hp.1, ih hrest]

/-- A column whose name no other column has is read with the bounds that it is printed with. -/
theorem shows_of_unshared (h : SaidOf pairs said) {i : Nat} {c : Milp.Column}
    (hi : pairs[i]? = some (c, s)) (hs : ∀ j p, j ≠ i → pairs[j]? = some p → p.2 ≠ s) :
    Shows c (said.flatten.foldl (BoundsLine.applyTo s) .default) := by
  induction h generalizing i with
  | nil => cases hi
  | @cons p ls pairs said hp hrest ih =>
    rw [List.flatten_cons, List.foldl_append]
    cases i with
    | zero =>
      obtain rfl := Option.some.inj hi
      have hothers : ∀ p ∈ pairs, p.2 ≠ s := fun p hp => by
        obtain ⟨j, hj⟩ := List.mem_iff_getElem?.1 hp
        exact hs (j + 1) p (Nat.succ_ne_zero j) hj
      rw [foldl_applyTo_own hp.1, foldl_applyTo_others hrest hothers]
      exact hp.2
    | succ i =>
      rw [foldl_applyTo_other (hs 0 p (Nat.succ_ne_zero i).symm rfl) hp.1]
      exact ih hi fun j p hj => hs (j + 1) p (fun h => hj (Nat.succ.inj h))

theorem boundsLines_cons {c : Column} {line : Option String} (h : c.boundsLine? s = .ok line)
    (rest : List (Column × String)) :
    boundsLines ((c, s) :: rest) = line.toList.map .ok ++ boundsLines rest := by
  rw [boundsLines, List.flatMap_cons]
  dsimp only
  rw [h]
  cases line <;> rfl

end

/-- All lines can be printed and read, and each says something of its own column. -/
theorem boundsLines_said (pairs : List (Milp.Column × String))
    (hnames : ∀ p ∈ pairs, ' ' ∉ p.2.toList)
    (hnan : ∀ p ∈ pairs, p.1.kind ≠ .binary → p.1.lower ≠ .nan ∧ p.1.upper ≠ .nan) :
    ∃ (lines : List String) (said : List (List BoundsLine)),
      boundsLines (pairs.map (Prod.map Engine.Column.printed id)) = lines.map .ok ∧
      lines.mapM BoundsLine.ofText? = some said.flatten ∧ SaidOf pairs said := by
  induction pairs with
  | nil => exact ⟨[], [], rfl, rfl, .nil⟩
  | cons p rest ih =>
    obtain ⟨hname, hnames⟩ := List.forall_mem_cons.1 hnames
    obtain ⟨hbounds, hnan⟩ := List.forall_mem_cons.1 hnan
    obtain ⟨lines, said, hlines, hread, hsaid⟩ := ih hnames hnan
    obtain ⟨line, ls, h⟩ := boundsLine?_read hname hbounds
    refine ⟨line.toList ++ lines, ls :: said, ?_, ?_, .cons ⟨h.about, h.shows⟩ hsaid⟩
    · rw [List.map_cons, List.map_append, ← hlines]
      exact boundsLines_cons h.printed _
    · rw [List.mapM_append, h.read, hread]
      rfl

/-! ## The bounds of a model -/

theorem map_name_columns {vs : List Var} {cs : List Milp.Column}
    (hcs : vs.mapM Var.column = .ok cs) :
    cs.map (·.name) = (vs.map (·.name)).map Value.ofName := by
  rw [List.map_map]
  exact (map_eq_map (mapM_eq_ok_iff.1 hcs) fun _ _ h =>
    (Milp.Model.column_eq_ok h).2.2.2.2.symm).symm

/-- The columns of variables have printed names, which the format allows. -/
theorem printedNames_columns {vs : List Var} {cs : List Milp.Column}
    (hcs : vs.mapM Var.column = .ok cs) :
    ∃ names, printedNames "x" (.int 1) (cs.map (·.name)) = .ok names ∧
      names.length = cs.length ∧ ∀ s ∈ names, isCompliant s = true := by
  have hlength : (vs.map (·.name)).length = cs.length := by
    rw [List.length_map, (mapM_eq_ok_iff.1 hcs).length_eq]
  rw [map_name_columns hcs]
  exact ⟨_, printedNames_eq "x" _, (length_shownFrom "x" _).trans hlength,
    fun s hs => isCompliant_of_mem_shownFrom (.inl rfl) hs⟩

/-- The lines for the bounds of columns of variables can all be printed, and a reader finds in them the
bounds of each column that shares its printed name with no other: zero and one for a binary column, and
its own for any other. -/
theorem boundsLines_read {vs : List Var} {cs : List Milp.Column}
    (hcs : vs.mapM Var.column = .ok cs)
    (hnan : ∀ c ∈ cs, c.lower ≠ .nan ∧ c.upper ≠ .nan) :
    ∃ (names lines : List String) (ranges : String → Range),
      printedNames "x" (.int 1) (cs.map (·.name)) = .ok names ∧ names.length = cs.length ∧
      boundsLines ((cs.map Engine.Column.printed).zip names) = lines.map .ok ∧
      readBounds lines = some ranges ∧
      ∀ (i : Nat) (c : Milp.Column) (s : String), cs[i]? = some c → names[i]? = some s →
        (∀ j, j ≠ i → names[j]? ≠ some s) → Shows c (ranges s) := by
  obtain ⟨names, hnames, hlength, hcompliant⟩ := printedNames_columns hcs
  obtain ⟨lines, said, hlines, hread, hsaid⟩ := boundsLines_said (cs.zip names)
    (fun p hp => not_mem_blank_of_isCompliant (hcompliant p.2 (List.of_mem_zip hp).2))
    (fun p hp _ => hnan p.1 (List.of_mem_zip hp).1)
  refine ⟨names, lines, BoundsLine.rangeOf said.flatten, hnames, hlength, ?_, ?_, ?_⟩
  · rw [List.zip_map_left, hlines]
  · rw [readBounds, hread]
    rfl
  · intro i c s hc hs hunshared
    have hi : (cs.zip names)[i]? = some (c, s) := List.getElem?_zip_eq_some.2 ⟨hc, hs⟩
    refine shows_of_unshared hsaid hi fun j p hj hp heq => hunshared j hj ?_
    rw [← heq]
    exact (List.getElem?_zip_eq_some.1 hp).2

/-- Variables of each type, one of them with a bound on one side only. -/
def mixedVars : List Var :=
  [{ id := 0, domain := { kind := .continuous }, lower := .int (-5), upper := .int 7
     objective := Double.zero, name := some "a" },
    { id := 1, domain := { kind := .integer }, lower := .int 2, upper := .float (.infinite false)
      objective := Double.zero, name := some "n" },
    { id := 2, domain := { kind := .binary }, lower := .int 0, upper := .int 1
      objective := Double.zero, name := some "b" }]

theorem boundsLines_read_mixed : ∃ (cs : List Milp.Column) (lines : List String)
    (ranges : String → Range), mixedVars.mapM Var.column = .ok cs ∧
      (∀ c ∈ cs, c.lower ≠ .nan ∧ c.upper ≠ .nan) ∧
      boundsLines ((cs.map Engine.Column.printed).zip ["a", "n", "b"]) = lines.map .ok ∧
      readBounds lines = some ranges ∧
      List.Forall₂ (fun c s => Shows c (ranges s)) cs ["a", "n", "b"] := by
  have hcolumns : (mixedVars.mapM Var.column).toOption.any
      (fun cs => decide (∀ c ∈ cs, c.lower ≠ .nan ∧ c.upper ≠ .nan)) = true := by decide +kernel
  obtain ⟨cs, hcs, hbounds⟩ := exists_ok_of_any hcolumns
  have hnan := of_decide_eq_true hbounds
  obtain ⟨names, lines, ranges, hnames, hlength, hlines, hread, hshows⟩ := boundsLines_read hcs hnan
  obtain rfl : names = ["a", "n", "b"] := by
    have hshown : shownFrom "x" 0 [] (mixedVars.map (·.name)) = ["a", "n", "b"] := by decide +kernel
    rw [map_name_columns hcs, printedNames_eq, hshown] at hnames
    exact (Except.ok.inj hnames).symm
  have hunshared {i : Nat} (s : String) (hi : ["a", "n", "b"][i]? = some s) (j : Nat) (hj : j ≠ i) :
      ["a", "n", "b"][j]? ≠ some s := fun hs =>
    hj ((List.getElem?_inj (List.getElem?_eq_some_iff.1 hs).1 (by decide)).1 (hs.trans hi.symm))
  obtain ⟨a, n, b, rfl⟩ := List.length_eq_three.1 hlength.symm
  exact ⟨[a, n, b], lines, ranges, hcs, hnan, hlines, hread, .cons (hshows 0 a _ rfl rfl
    (hunshared "a" rfl)) (.cons (hshows 1 n _ rfl rfl (hunshared "n" rfl)) (.cons
      (hshows 2 b _ rfl rfl (hunshared "b" rfl)) .nil))⟩

/-- A binary variable that is fixed to one. -/
def fixedToOne : Var :=
  { id := 0, domain := { kind := .binary }, lower := .int 1, upper := .int 1
    objective := Double.zero, name := some "b" }

theorem built_fixedToOne : fixedToOne.Built := by
  refine ⟨0, { lower := .int 1, domain := .text "B", name := .text "b" }, ?_⟩
  have hvar : (Var.ofValues 0
      { lower := .int 1, domain := .text "B", name := .text "b" }).toOption.any
      (fun v => decide (v = fixedToOne)) = true := by decide +kernel
  obtain ⟨v, hv, heq⟩ := exists_ok_of_any hvar
  rw [hv, of_decide_eq_true heq]

theorem column_fixedToOne : ∃ c, fixedToOne.column = .ok c ∧ c.lower = .one ∧ c.upper = .one := by
  have hcolumn : fixedToOne.column.toOption.any
      (fun c => decide (c.lower = .one ∧ c.upper = .one)) = true := by decide +kernel
  obtain ⟨c, hc, hbounds⟩ := exists_ok_of_any hcolumn
  exact ⟨c, hc, of_decide_eq_true hbounds⟩

theorem not_means_one_zero : ¬ Means .one (.ofRat 0) := by
  intro h
  generalize hb : Extended.ofRat 0 = b at h
  cases h with
  | above h => exact absurd h (by decide +kernel)
  | below h => exact absurd h (by decide +kernel)
  | @rounded y _ _ rounds =>
    obtain rfl : 0 = y := WithTop.coe_inj.1 (WithBot.coe_inj.1 hb)
    obtain ⟨negative, valid, hone⟩ := rounds.eq_zero (by decide)
    have hne : ∀ negative valid, Double.one ≠ .finite negative 0 valid := by decide +kernel
    exact hne negative valid hone

/-- A binary variable that is fixed to one is printed as one that may be zero. -/
theorem fixed_binary_widened :
    ∃ (v : Var) (c : Milp.Column) (ranges : String → Range), v.Built ∧ v.column = .ok c ∧
      c.lower ≠ .nan ∧ c.upper ≠ .nan ∧
      printedNames "x" (.int 1) [c.name] = .ok ["b"] ∧
      boundsLines [(Engine.Column.printed c, "b")] = [.ok " 0 <= b <= 1"] ∧
      readBounds [" 0 <= b <= 1"] = some ranges ∧ ¬ Means c.lower (ranges "b").lower := by
  obtain ⟨c, hc, hlower, hupper⟩ := column_fixedToOne
  obtain ⟨-, -, -, hkind, hname⟩ := Milp.Model.column_eq_ok hc
  have hfinite : Double.one ≠ .nan := by decide +kernel
  have h : ReadAs c "b" (some " 0 <= b <= 1") _ := readAs_binary (by decide) hkind
  have hread : readBounds [" 0 <= b <= 1"] = some (BoundsLine.rangeOf _) :=
    congrArg (Functor.map BoundsLine.rangeOf) h.read
  refine ⟨fixedToOne, c, _, built_fixedToOne, hc, hlower ▸ hfinite, hupper ▸ hfinite, ?_,
    boundsLines_cons h.printed [], hread, hlower ▸ not_means_one_zero⟩
  have hnames : shownFrom "x" 0 [] [some "b"] = ["b"] := by decide +kernel
  rw [hname]
  exact (printedNames_eq "x" [some "b"]).trans (congrArg Except.ok hnames)

end Milp.Lp

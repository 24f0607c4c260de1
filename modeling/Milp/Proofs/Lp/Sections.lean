import Milp.Proofs.Double.Alike
import Milp.Proofs.Engine.Arguments
import Milp.Proofs.Lp.Mention
set_option autoImplicit false

/-! # Columns in printed models

A printed model mentions a column in the objective if it has a coefficient there, in each row with a
term for it, with its bounds if a reader would not assume them anyway, and in the lists of binary and of
general variables if it is one of them. None of these need apply: a column that is `Silent` is in no
section, and a reader of the text does not know of it. Every other column is mentioned
(`text_mentions`). -/

namespace Milp.Lp

open Engine (TermRow)
open Text (IsWord)

/-! ## Sections -/

/-- What stands in the sections of a printed model: lines, and the names in the two lists. -/
structure Sections where
  objective : List String
  rows : List String
  bounds : List String
  binaries : List String
  generals : List String

/-- A list of names under a title, which is left out without names. -/
def listed (title : String) : List String → List String
  | [] => []
  | names => ["", title, " " ++ " ".intercalate names]

/-- Lines with their ends. -/
def textOf (lines : List String) : String := String.join (lines.map (· ++ "\n"))

namespace Sections

/-- The lines of a model with these sections. -/
def lines (title direction : String) (s : Sections) : List String :=
  [title, "", direction] ++ s.objective ++ ["Subject To"] ++ s.rows ++ ["", "Bounds"] ++ s.bounds
    ++ listed "Binaries" s.binaries ++ listed "Generals" s.generals ++ ["End"]

/-- Whether a name is a word of a line or in one of the lists. -/
def Names (s : Sections) (name : String) : Prop :=
  name.toList ∈ wordsOf (s.objective ++ s.rows ++ s.bounds) ∨ name ∈ s.binaries ∨ name ∈ s.generals

end Sections

/-- A column that no section has a reason to mention: it is continuous, without a coefficient in the
objective or a row, and its bounds are those that a reader assumes. -/
structure Silent (rows : List TermRow) (k : Nat) (c : Milp.Column) : Prop where
  kind : c.kind = .continuous
  objective : c.objective.eq .zero = true
  lower : c.lower.eq .zero = true
  upper : infinity.le c.upper = true
  rows : ∀ r ∈ rows, ∀ t ∈ r.terms, t.1 ≠ k

theorem written_lines (lines : List String) : written (lines.map .ok) = (textOf lines, none) := by
  induction lines with
  | nil => rfl
  | cons line rest ih =>
    rw [List.map_cons, written, ih, textOf, textOf, List.map_cons, String.join_cons]

/-- Lines that can be printed and mention names, one group after the other. -/
theorem exists_flatMap {α : Type} {xs : List α} {f : α → List (Except Failure String)}
    {g : α → List String}
    (h : ∀ x ∈ xs, ∃ lines, f x = lines.map .ok ∧ Mentions (wordsOf lines) (g x)) :
    ∃ lines, xs.flatMap f = lines.map .ok ∧ Mentions (wordsOf lines) (xs.flatMap g) := by
  induction xs with
  | nil => exact ⟨[], rfl, .fillers (List.forall_mem_nil _)⟩
  | cons x rest ih =>
    obtain ⟨hx, hrest⟩ := List.forall_mem_cons.1 h
    obtain ⟨first, hfirst, hmentions⟩ := hx
    obtain ⟨others, hothers, hmentions'⟩ := ih hrest
    refine ⟨first ++ others, ?_, ?_⟩
    · rw [List.flatMap_cons, hfirst, hothers, List.map_append]
    · rw [wordsOf_append, List.flatMap_cons]
      exact hmentions.append hmentions'

/-! ## Headers and signs -/

theorem startsName_of_not_isAlpha {c : Char} (halpha : c.isAlpha = false) (hmark : isMark c = false) :
    startsName c = false := by
  rw [startsName, halpha, hmark]
  rfl

theorem continuesName_colon : continuesName ':' = false := by
  have halphanumeric : ':'.isAlphanum = false := by decide
  have hmark : isMark ':' = false := by simp [isMark]
  rw [continuesName, halphanumeric, hmark]
  decide

/-- A header ends with a colon, which no name does. -/
theorem says_header {name : String} (hname : isCompliant name = true) :
    Says (name ++ ":") [(name ++ ":").toList] [] := by
  obtain ⟨hword, -⟩ := clear_name hname
  have hheader : (name ++ ":").toList = name.toList ++ [':'] := String.toList_append
  refine .filler ?_ (.inl ?_)
  · rw [hheader]
    exact ⟨List.append_ne_nil_of_right_ne_nil _ (List.cons_ne_nil _ _),
      List.forall_mem_append.2 ⟨hword.solid, List.forall_mem_singleton.2 rfl⟩⟩
  · rw [String.ofList_toList, isCompliant, hheader]
    cases hs : name.toList with
    | nil => exact absurd hs hword.nonempty
    | cons c rest =>
      rw [List.cons_append]
      dsimp only
      rw [List.all_append, List.all_cons, continuesName_colon, Bool.false_and, Bool.and_false,
        Bool.and_false]

theorem isFiller_header {name : String} (hname : isCompliant name = true) :
    ∀ w ∈ Text.words (" " ++ (name ++ ":")).toList, IsFiller w := by
  rw [(says_header hname).words_indented]
  exact (says_header hname).mentions.isFiller

theorem says_sign {sign : String} (h : sign = "<=" ∨ sign = "=" ∨ sign = ">=") :
    Says sign [sign.toList] [] := by
  have hless : startsName '<' = false := startsName_of_not_isAlpha (by decide) (by simp [isMark])
  have hequal : startsName '=' = false := startsName_of_not_isAlpha (by decide) (by simp [isMark])
  have hgreater : startsName '>' = false := startsName_of_not_isAlpha (by decide) (by simp [isMark])
  rcases h with rfl | rfl | rfl
  · exact .filler (by decide) (isFiller_of_head rfl hless)
  · exact .filler (by decide) (isFiller_of_head rfl hequal)
  · exact .filler (by decide) (isFiller_of_head rfl hgreater)

/-- What a row ends with mentions nothing. -/
theorem exists_rowEnd (sense : Sense) {number : String} (h : Says number [number.toList] []) :
    ∃ text ws, senseSign sense ++ number = " " ++ text ∧ Says text ws [] := by
  cases sense with
  | atMost =>
    exact ⟨"<=" ++ " " ++ number, _, String.toList_inj.1 (by simp [senseSign]),
      (says_sign (.inl rfl)).join h⟩
  | equal =>
    exact ⟨"=" ++ " " ++ number, _, String.toList_inj.1 (by simp [senseSign]),
      (says_sign (.inr (.inl rfl))).join h⟩
  | atLeast =>
    exact ⟨">=" ++ " " ++ number, _, String.toList_inj.1 (by simp [senseSign]),
      (says_sign (.inr (.inr rfl))).join h⟩

/-! ## The objective -/

theorem equals_zero_float (x : Double) :
    Value.equals (.float x) (.int 0) = .ok (x.eq .zero) := by
  rw [Value.equals_float_int, Number.same_float_int, Double.eq_zero_eq_decide, Int.zero_mul]

theorem zero_equals_float (x : Double) :
    (Number.int 0).same (.float x) = x.eq .zero := by
  rw [Number.same_int_float, Double.eq_zero_eq_decide, Int.zero_mul]

section

variable {pairs : List (Milp.Column × String)}

theorem objectiveTerms_eq (pairs : List (Milp.Column × String)) :
    objectiveTerms (pairs.map (Prod.map Engine.Column.printed id)) =
      .ok (((pairs.filter fun p => !p.1.objective.eq .zero).map fun p =>
        (p.1.objective, p.2)).map doubleTerm) := by
  induction pairs with
  | nil => rfl
  | cons p rest ih =>
    have hzero : Value.equals (Engine.Column.printed p.1).objective (.int 0) =
        .ok (p.1.objective.eq .zero) := equals_zero_float p.1.objective
    rw [List.map_cons, Prod.map, objectiveTerms, hzero, ih]
    cases hobjective : p.1.objective.eq .zero
    · rw [List.filter_cons_of_pos (by simp [hobjective])]
      rfl
    · rw [List.filter_cons_of_neg (by simp [hobjective])]
      rfl

/-- The objective mentions the columns with a coefficient in it. -/
theorem exists_objectiveLines (hnames : ∀ p ∈ pairs, isCompliant p.2 = true) :
    ∃ lines, objectiveLines (pairs.map (Prod.map Engine.Column.printed id)) = lines.map .ok ∧
      Mentions (wordsOf lines)
        ((pairs.filter fun p => !p.1.objective.eq .zero).map Prod.snd) := by
  have hobj : isCompliant "obj" = true := by decide +kernel
  have hheader : ∀ w ∈ Text.words " obj:".toList, IsFiller w := isFiller_header hobj
  have hterms : ∀ t ∈ (pairs.filter fun p => !p.1.objective.eq .zero).map fun p =>
      (p.1.objective, p.2), isCompliant t.2 = true := by
    intro t ht
    obtain ⟨p, hp, rfl⟩ := List.mem_map.1 ht
    exact hnames p (List.mem_filter.1 hp).1
  obtain ⟨lines, hlines, hmentions⟩ := exists_expressionLines hheader hterms ""
    (List.forall_mem_nil _) nofun
  rw [List.map_map] at hmentions
  rw [objectiveLines, objectiveTerms_eq]
  exact ⟨lines, hlines, hmentions⟩

/-! ## Rows -/

theorem elementAt_of_lt {names : List String} {i : Nat} (h : i < names.length) :
    elementAt names (.int i) = .ok (names[i]?.getD "") := by
  have hindex : Failure.lift (Value.int (i : Nat)).toIndex = .ok (i : Int) := rfl
  have hpositive : ¬ (i : Int) < 0 := Int.not_lt.2 (Int.natCast_nonneg i)
  rw [elementAt, hindex]
  simp only [bind, Except.bind, if_neg hpositive, Int.toNat_natCast, List.getElem?_eq_getElem h]
  rfl

/-- The names of the terms of a row. -/
def termNames (names : List String) (r : TermRow) : List String :=
  r.terms.map fun t => names[t.1]?.getD ""

theorem terms_printed (view : View) {r : TermRow} {names : List String}
    (hr : TermRow.InRange names.length r.terms) :
    (Engine.Row.printed r.row).terms view names =
      .ok ((r.terms.map fun t => (t.2, names[t.1]?.getD "")).map doubleTerm) := by
  have hterms : (Engine.Row.printed r.row).terms view names =
      .ok (((r.terms.map fun t => Value.int t.1).zip
        ((r.terms.map Prod.snd).map Value.float)).map fun p => (p.2, elementAt names p.1)) := rfl
  rw [hterms, List.map_map, List.zip_map', List.map_map, List.map_map]
  refine congrArg Except.ok (List.map_congr_left fun t ht => ?_)
  exact congrArg (Prod.mk _) (elementAt_of_lt (hr t ht))

/-- A row mentions the columns that it has terms for. -/
theorem exists_rowLines (view : View) {r : TermRow} {names : List String} {name : String}
    (hr : TermRow.InRange names.length r.terms) (hnames : ∀ s ∈ names, isCompliant s = true)
    (hname : isCompliant name = true) :
    ∃ lines, (Engine.Row.printed r.row).lines view names name = lines.map .ok ∧
      Mentions (wordsOf lines) (termNames names r) := by
  obtain ⟨number, hnumber, hsaid⟩ := exists_numberText r.bound
  have hterms : ∀ t ∈ r.terms.map fun t => (t.2, names[t.1]?.getD ""), isCompliant t.2 = true := by
    intro t ht
    obtain ⟨u, hu, rfl⟩ := List.mem_map.1 ht
    have hlt := hr u hu
    rw [List.getElem?_eq_getElem hlt]
    exact hnames _ (List.getElem_mem hlt)
  have hfinish : (do
      let sign := senseSign (← senseOf (Engine.Row.printed r.row).sense)
      return sign ++ (← numberText (Engine.Row.printed r.row).bound) : Except Failure String) =
      .ok (senseSign r.sense ++ number) := by
    have hsense : senseOf (Engine.Row.printed r.row).sense = .ok r.sense := by
      show senseOf (.text r.sense.code) = _
      rw [senseOf, Value.text?, Option.bind_some, Sense.ofCode?_code]
    have hbound : numberText (Engine.Row.printed r.row).bound = .ok number := hnumber
    rw [hsense, hbound]
    rfl
  obtain ⟨text, ws, htext, hend⟩ := exists_rowEnd r.sense hsaid
  have htail : ∀ w ∈ Text.words (" " ++ text).toList, IsFiller w := by
    rw [hend.words_indented]
    exact hend.mentions.isFiller
  have hblank : ∀ c ∈ (" " ++ text).toList.head?, Text.isBlank c = true := by
    have hstart : (" " ++ text).toList = ' ' :: text.toList := String.toList_append
    rw [hstart]
    rintro c ⟨⟩
    rfl
  obtain ⟨lines, hlines, hmentions⟩ :=
    exists_expressionLines (isFiller_header hname) hterms _ htail hblank
  refine ⟨lines, ?_, ?_⟩
  · rw [Row.lines, terms_printed view hr]
    show expressionLines _ _ _ = _
    rw [hfinish, htext]
    exact hlines
  · rw [List.map_map] at hmentions
    exact hmentions

/-- The rows mention the columns that they have terms for. -/
theorem exists_allRowLines (view : View) {rows : List TermRow} {names rowNames : List String}
    (hrows : ∀ r ∈ rows, TermRow.InRange names.length r.terms)
    (hnames : ∀ s ∈ names, isCompliant s = true) (hlength : rowNames.length = rows.length)
    (hrowNames : ∀ s ∈ rowNames, isCompliant s = true) :
    ∃ lines, (((rows.map TermRow.row).map Engine.Row.printed).zip rowNames).flatMap
        (fun (r, name) => r.lines view names name) = lines.map .ok ∧
      Mentions (wordsOf lines) (rows.flatMap (termNames names)) := by
  have hzip : (rows.zip rowNames).map Prod.fst = rows := List.map_fst_zip hlength.ge
  have hmentioned : rows.flatMap (termNames names) =
      (rows.zip rowNames).flatMap fun p => termNames names p.1 := by
    rw [← List.flatMap_map Prod.fst, hzip]
  rw [List.map_map, List.zip_map_left, List.flatMap_map, hmentioned]
  exact exists_flatMap fun p hp => exists_rowLines view (hrows p.1 (List.of_mem_zip hp).1) hnames
    (hrowNames p.2 (List.of_mem_zip hp).2)

/-! ## Bounds -/

/-- Whether a reader assumes the bounds of a column without a line for them. -/
def areAssumed (c : Milp.Column) : Bool :=
  c.kind ≠ .binary && c.lower.eq .zero && infinity.le c.upper

theorem eq_zero_of_unbounded {x : Double} (h : x.le (-infinity) = true) : x.eq .zero = false := by
  have hbounded : ∀ negative valid, Double.le (.finite negative 0 valid) (-infinity) = false := by
    decide +kernel
  rw [← Bool.not_eq_true]
  intro hzero
  obtain ⟨negative, valid, rfl⟩ := Double.exists_of_eq_zero hzero
  rw [hbounded] at h
  cases h

theorem says_free : Says "free" ["free".toList] [] :=
  .filler (by decide) (.inr (.inl rfl))

/-- A line that starts with a blank mentions what the rest of it says. -/
theorem mentions_line {line text : String} {ws : List (List Char)} {names : List String}
    (h : Says text ws names) (hline : line = " " ++ text) :
    Mentions (wordsOf [line]) names := by
  rw [hline, wordsOf, List.flatMap_singleton, h.words_indented]
  exact h.mentions

theorem says_between {low high name : String} (hlow : Says low [low.toList] [])
    (hhigh : Says high [high.toList] []) (hname : isCompliant name = true) :
    ∃ ws, Says (low ++ " " ++ "<=" ++ " " ++ name ++ " " ++ "<=" ++ " " ++ high) ws [name] :=
  have hsign := says_sign (.inl rfl)
  ⟨_, (((hlow.join hsign).join (.name hname)).join hsign).join hhigh⟩

/-- The line for the bounds of a column mentions it; it has none if its bounds are assumed. -/
theorem exists_boundsLine (c : Milp.Column) {name : String} (hname : isCompliant name = true) :
    ∃ line, (Engine.Column.printed c).boundsLine? name = .ok line ∧
      Mentions (wordsOf line.toList) (if areAssumed c then [] else [name]) := by
  by_cases hbinary : c.kind = .binary
  · have hline : (Engine.Column.printed c).boundsLine? name = .ok (some s!" 0 <= {name} <= 1") := by
      rw [Column.boundsLine?, hasKind_printed, decide_eq_true hbinary]
      rfl
    have hassumed : areAssumed c = false := by simp [areAssumed, hbinary]
    obtain ⟨ws, hsaid⟩ := says_between says_zero says_one hname
    rw [hassumed]
    refine ⟨_, hline, mentions_line hsaid (String.toList_inj.1 ?_)⟩
    show (" 0 <= " ++ name ++ " <= 1").toList = _
    simp
  obtain ⟨low, hlow, hlowSaid⟩ := exists_numberText c.lower
  obtain ⟨high, hhigh, hhighSaid⟩ := exists_numberText c.upper
  have hkind : decide (c.kind ≠ .binary) = true := decide_eq_true hbinary
  rw [boundsLine?_eq name hbinary hlow hhigh, zero_equals_float, areAssumed, hkind, Bool.true_and]
  cases infinity.le c.upper with
  | false =>
    -- both bounds are printed
    obtain ⟨ws, hsaid⟩ := says_between hlowSaid hhighSaid hname
    rw [Bool.and_false, Bool.and_false]
    refine ⟨_, rfl, mentions_line hsaid (String.toList_inj.1 ?_)⟩
    show (" " ++ low ++ " <= " ++ name ++ " <= " ++ high).toList = _
    simp
  | true =>
  rw [Bool.and_true, Bool.and_true]
  cases hbelow : c.lower.le (-infinity) with
  | true =>
    have hzero : c.lower.eq .zero = false := eq_zero_of_unbounded hbelow
    rw [hzero]
    refine ⟨_, rfl, mentions_line (Says.join (.name hname) says_free) (String.toList_inj.1 ?_)⟩
    show (" " ++ name ++ " free").toList = _
    simp
  | false =>
  cases c.lower.eq .zero with
  | true => exact ⟨none, rfl, .fillers (List.forall_mem_nil _)⟩
  | false =>
    have hsaid := (Says.name hname).join ((says_sign (.inr (.inr rfl))).join hlowSaid)
    refine ⟨_, rfl, mentions_line hsaid (String.toList_inj.1 ?_)⟩
    show (" " ++ name ++ " >= " ++ low).toList = _
    simp

theorem exists_boundsLines (hnames : ∀ p ∈ pairs, isCompliant p.2 = true) :
    ∃ lines, boundsLines (pairs.map (Prod.map Engine.Column.printed id)) = lines.map .ok ∧
      Mentions (wordsOf lines) (pairs.flatMap fun p => if areAssumed p.1 then [] else [p.2]) := by
  rw [boundsLines, List.flatMap_map]
  refine exists_flatMap fun p hp => ?_
  obtain ⟨line, hline, hmentions⟩ := exists_boundsLine p.1 (hnames p hp)
  refine ⟨line.toList, ?_, hmentions⟩
  rw [Prod.map, id]
  dsimp only
  rw [hline]
  cases line <;> rfl

/-! ## Lists of columns -/

theorem namesOfKind_eq (kind : VarKind) (pairs : List (Milp.Column × String)) :
    namesOfKind kind (pairs.map (Prod.map Engine.Column.printed id)) =
      .ok ((pairs.filter fun p => decide (p.1.kind = kind)).map Prod.snd) := by
  induction pairs with
  | nil => rfl
  | cons p rest ih =>
    rw [List.map_cons, Prod.map, namesOfKind, hasKind_printed, ih]
    by_cases hkind : p.1.kind = kind
    · rw [List.filter_cons_of_pos (by simp [hkind]), decide_eq_true hkind]
      rfl
    · rw [List.filter_cons_of_neg (by simp [hkind]), decide_eq_false hkind]
      rfl

theorem kindLines_eq (title : String) (kind : VarKind) (pairs : List (Milp.Column × String)) :
    kindLines title kind (pairs.map (Prod.map Engine.Column.printed id)) =
      (listed title ((pairs.filter fun p => decide (p.1.kind = kind)).map Prod.snd)).map .ok := by
  rw [kindLines, namesOfKind_eq]
  cases (pairs.filter fun p => decide (p.1.kind = kind)).map Prod.snd <;> rfl

end

/-! ## The model -/

/-- The names that the lines of a model mention. -/
def mentioned (rows : List TermRow) (names : List String) (pairs : List (Milp.Column × String)) :
    List String :=
  (pairs.filter fun p => !p.1.objective.eq .zero).map Prod.snd ++ rows.flatMap (termNames names) ++
    pairs.flatMap fun p => if areAssumed p.1 then [] else [p.2]

/-- What a model is printed as. -/
structure Shown (rows : List TermRow) (names : List String) (pairs : List (Milp.Column × String))
    (s : Sections) : Prop where
  mentions : Mentions (wordsOf (s.objective ++ s.rows ++ s.bounds)) (mentioned rows names pairs)
  binaries : s.binaries = (pairs.filter fun p => decide (p.1.kind = .binary)).map Prod.snd
  generals : s.generals = (pairs.filter fun p => decide (p.1.kind = .integer)).map Prod.snd

section

variable {view : View} {e : Engine} {rows : List TermRow} {names rowNames : List String}
  {title : String} {minimizes : Bool}

theorem exists_lines (hrows : e.rows = rows.map TermRow.row)
    (hrange : ∀ r ∈ rows, TermRow.InRange names.length r.terms)
    (hnames : ∀ s ∈ names, isCompliant s = true)
    (hlength : rowNames.length = rows.length) (hrowNames : ∀ s ∈ rowNames, isCompliant s = true)
    (htitle : nameLine view e.modelName = .ok title)
    (hsense : e.sense.equals (.int 1) = .ok minimizes) :
    ∃ s : Sections, e.printed.lines view names rowNames =
        (s.lines title (if minimizes then "Minimize" else "Maximize")).map .ok ∧
      Shown rows names (e.columns.zip names) s := by
  have hpairs : ∀ p ∈ e.columns.zip names, isCompliant p.2 = true :=
    fun p hp => hnames p.2 (List.of_mem_zip hp).2
  obtain ⟨objective, hobjective, hmentions⟩ := exists_objectiveLines hpairs
  obtain ⟨rowLines, hrowLines, hmentions'⟩ := exists_allRowLines view hrange hnames hlength hrowNames
  obtain ⟨bounds, hbounds, hmentions''⟩ := exists_boundsLines hpairs
  have hdirection : directionLine e.sense =
      .ok (if minimizes then "Minimize" else "Maximize") := by
    rw [directionLine, hsense]
    rfl
  refine ⟨⟨objective, rowLines, bounds, _, _⟩, ?_, ?_, rfl, rfl⟩
  · have hcolumns : e.printed.columns.zip names =
        (e.columns.zip names).map (Prod.map Engine.Column.printed id) := List.zip_map_left
    have htitle' : nameLine view e.printed.name = .ok title := htitle
    have hdirection' : directionLine e.printed.sense = _ := hdirection
    have hrowLines' : (e.printed.rows.zip rowNames).flatMap
        (fun (r, name) => r.lines view names name) = rowLines.map .ok := by
      rw [Engine.printed, hrows]
      exact hrowLines
    rw [Model.lines, hcolumns, htitle', hdirection', hobjective, hrowLines', hbounds, kindLines_eq,
      kindLines_eq, Sections.lines]
    simp only [List.map_append, List.map_cons, List.map_nil]
  · rw [wordsOf_append, wordsOf_append]
    exact (hmentions.append hmentions').append hmentions''

end

/-! ## Who is mentioned -/

theorem mem_mentioned {rows : List TermRow} {names : List String}
    {pairs : List (Milp.Column × String)} {n : String} :
    n ∈ mentioned rows names pairs ↔ (∃ c, (c, n) ∈ pairs ∧ c.objective.eq .zero = false) ∨
      (∃ r ∈ rows, ∃ t ∈ r.terms, names[t.1]?.getD "" = n) ∨
      ∃ c, (c, n) ∈ pairs ∧ areAssumed c = false := by
  simp [mentioned, termNames]

namespace Shown

variable {rows : List TermRow} {names : List String} {cs : List Milp.Column} {s : Sections} {k : Nat}
  {c : Milp.Column} {n : String}

/-- A column that is not mentioned is silent. -/
theorem names_or_silent (h : Shown rows names (cs.zip names) s) (hc : cs[k]? = some c)
    (hn : names[k]? = some n) : s.Names n ∨ Silent rows k c := by
  have hpair : (c, n) ∈ cs.zip names :=
    List.mem_of_getElem? (List.getElem?_zip_eq_some.2 ⟨hc, hn⟩)
  by_cases hnames : s.Names n
  · exact .inl hnames
  have hlines : n ∉ mentioned rows names (cs.zip names) := fun hmem =>
    hnames (.inl (h.mentions.found n hmem))
  have hobjective : c.objective.eq .zero = true := Bool.not_eq_false _ ▸ fun hzero =>
    hlines (mem_mentioned.2 (.inl ⟨c, hpair, hzero⟩))
  have hassumed : areAssumed c = true := Bool.not_eq_false _ ▸ fun hassumed =>
    hlines (mem_mentioned.2 (.inr (.inr ⟨c, hpair, hassumed⟩)))
  have hrows : ∀ r ∈ rows, ∀ t ∈ r.terms, t.1 ≠ k := by
    rintro r hr t ht rfl
    exact hlines (mem_mentioned.2 (.inr (.inl ⟨r, hr, t, ht, by rw [hn, Option.getD_some]⟩)))
  have hbinary : c.kind ≠ .binary := fun hkind => by
    refine hnames (.inr (.inl ?_))
    rw [h.binaries]
    exact List.mem_map.2 ⟨_, List.mem_filter.2 ⟨hpair, decide_eq_true hkind⟩, rfl⟩
  have hinteger : c.kind ≠ .integer := fun hkind => by
    refine hnames (.inr (.inr ?_))
    rw [h.generals]
    exact List.mem_map.2 ⟨_, List.mem_filter.2 ⟨hpair, decide_eq_true hkind⟩, rfl⟩
  rw [areAssumed, Bool.and_eq_true, Bool.and_eq_true] at hassumed
  refine .inr ⟨?_, hobjective, hassumed.1.2, hassumed.2, hrows⟩
  cases hkind : c.kind with
  | continuous => rfl
  | integer => exact absurd hkind hinteger
  | binary => exact absurd hkind hbinary

/-- A silent column is not mentioned, unless its name is also that of another one or is spelled like a
word of the format. -/
theorem not_names (h : Shown rows names (cs.zip names) s)
    (hrange : ∀ r ∈ rows, TermRow.InRange names.length r.terms) (hc : cs[k]? = some c)
    (hsilent : Silent rows k c) (hunshared : ∀ j, j ≠ k → names[j]? ≠ some n)
    (hcompliant : isCompliant n = true) (hfree : n ≠ "free") (hnan : n ≠ "nan") : ¬ s.Names n := by
  -- no other column has the name, so whatever mentions it would be about the silent one
  have hown : ∀ c', (c', n) ∈ cs.zip names → c' = c := fun c' hmem => by
    obtain ⟨j, hj⟩ := List.mem_iff_getElem?.1 hmem
    obtain ⟨hcj, hnj⟩ := List.getElem?_zip_eq_some.1 hj
    obtain rfl : j = k := by_contra fun hne => hunshared j hne hnj
    exact Option.some.inj (hcj.symm.trans hc)
  have hkinds : ∀ kind, n ∈ ((cs.zip names).filter fun p => decide (p.1.kind = kind)).map Prod.snd →
      kind = .continuous := by
    intro kind hmem
    obtain ⟨⟨c', n'⟩, hp, rfl⟩ := List.mem_map.1 hmem
    obtain ⟨hpair, hkind⟩ := List.mem_filter.1 hp
    have hkind : c'.kind = kind := of_decide_eq_true hkind
    rw [← hkind, hown c' hpair, hsilent.kind]
  rintro (hword | hbinary | hgeneral)
  · rcases h.mentions.only _ hword with hfiller | ⟨n', hmem, heq⟩
    · rcases hfiller with hfiller | hfiller | hfiller
      · rw [String.ofList_toList, hcompliant] at hfiller
        cases hfiller
      · exact hfree (String.toList_inj.1 hfiller)
      · exact hnan (String.toList_inj.1 hfiller)
    · obtain rfl := String.toList_inj.1 heq
      rcases mem_mentioned.1 hmem with
        ⟨c', hpair, hzero⟩ | ⟨r, hr, t, ht, hname⟩ | ⟨c', hpair, hassumed⟩
      · rw [hown c' hpair, hsilent.objective] at hzero
        cases hzero
      · have hlt := hrange r hr t ht
        rw [List.getElem?_eq_getElem hlt, Option.getD_some] at hname
        exact hunshared t.1 (hsilent.rows r hr t ht) (hname ▸ List.getElem?_eq_getElem hlt)
      · rw [hown c' hpair, areAssumed, hsilent.kind, hsilent.lower, hsilent.upper] at hassumed
        cases hassumed
  · exact absurd (hkinds _ (h.binaries ▸ hbinary)) (by decide)
  · exact absurd (hkinds _ (h.generals ▸ hgeneral)) (by decide)

end Shown

/-- The text of a model lists the binary columns and the general ones, in their order, and mentions
every column that is not silent. A silent one is missing, unless its printed name is also that of another
column or a word of the format. -/
theorem text_mentions {view : View} {e : Engine} {own : List (Option String)} {rows : List TermRow}
    {title : String} {minimizes : Bool} (hown : e.columns.map (·.name) = own.map .ofName)
    (hrows : e.rows = rows.map TermRow.row)
    (hrange : ∀ r ∈ rows, TermRow.InRange e.columns.length r.terms)
    (htitle : nameLine view e.modelName = .ok title)
    (hsense : e.sense.equals (.int 1) = .ok minimizes) :
    ∃ (names : List String) (s : Sections),
      printedNames "x" (.int 1) (e.columns.map (·.name)) = .ok names ∧
      names.length = e.columns.length ∧
      e.printed.text view (.int 1) =
        (textOf (s.lines title (if minimizes then "Minimize" else "Maximize")), none) ∧
      s.binaries = ((e.columns.zip names).filter fun p => decide (p.1.kind = .binary)).map Prod.snd ∧
      s.generals = ((e.columns.zip names).filter fun p => decide (p.1.kind = .integer)).map Prod.snd ∧
      ∀ (k : Nat) (c : Milp.Column) (n : String), e.columns[k]? = some c → names[k]? = some n →
        (s.Names n ∨ Silent rows k c) ∧
        (Silent rows k c → (∀ j, j ≠ k → names[j]? ≠ some n) → n ≠ "free" → n ≠ "nan" →
          ¬ s.Names n) := by
  obtain ⟨names, hnames⟩ : ∃ names, shownFrom "x" 0 [] own = names := ⟨_, rfl⟩
  obtain ⟨rowNames, hrowNames⟩ : ∃ names, shownFrom "c" 0 [] (rows.map (·.name)) = names := ⟨_, rfl⟩
  have hprinted : printedNames "x" (.int 1) (e.columns.map (·.name)) = .ok names := by
    rw [hown, printedNames_eq, hnames]
  have hrowPrinted : printedNames "c" (.int 1) (e.rows.map (·.name)) = .ok rowNames := by
    have hvalues : e.rows.map (·.name) = (rows.map (·.name)).map .ofName := by
      rw [hrows, List.map_map, List.map_map]
      rfl
    rw [hvalues, printedNames_eq, hrowNames]
  have hlength : names.length = e.columns.length := by
    rw [← hnames, length_shownFrom, ← List.length_map (f := Value.ofName), ← hown, List.length_map]
  have hrowLength : rowNames.length = rows.length := by
    rw [← hrowNames, length_shownFrom, List.length_map]
  have hcompliant : ∀ s ∈ names, isCompliant s = true := fun s hs =>
    isCompliant_of_mem_shownFrom (.inl rfl) (hnames ▸ hs)
  have hrange' : ∀ r ∈ rows, TermRow.InRange names.length r.terms := by rwa [hlength]
  obtain ⟨s, hlines, hshown⟩ := exists_lines hrows hrange' hcompliant hrowLength
    (fun s hs => isCompliant_of_mem_shownFrom (.inr rfl) (hrowNames ▸ hs)) htitle hsense
  refine ⟨names, s, hprinted, hlength, ?_, hshown.binaries, hshown.generals, fun k c n hc hn => ?_⟩
  · have hcolumns : e.printed.columns.map (·.name) = e.columns.map (·.name) := List.map_map
    have hrows : e.printed.rows.map (·.name) = e.rows.map (·.name) := List.map_map
    rw [Model.text, hcolumns, hrows, hprinted, hrowPrinted]
    dsimp only
    rw [hlines, written_lines]
  · exact ⟨hshown.names_or_silent hc hn, fun hsilent hunshared hfree hnan =>
      hshown.not_names hrange' hc hsilent hunshared (hcompliant n (List.mem_of_getElem? hn)) hfree
        hnan⟩

/-- A variable without a coefficient, and with the bounds of a variable that is given none. -/
def unused : Var :=
  { id := 0, domain := { kind := .continuous }, lower := .int 0, upper := .float infinity
    objective := Double.zero, name := some "x" }

def unusedColumn : Milp.Column :=
  { objective := .zero, lower := .zero, upper := infinity, kind := .continuous, name := .text "x" }

theorem built_unused : unused.Built := by
  refine ⟨0, { name := .text "x" }, ?_⟩
  have hvar : (Var.ofValues 0 { name := .text "x" }).toOption.any
      (fun v => decide (v = unused)) = true := by decide +kernel
  obtain ⟨v, hv, heq⟩ := exists_ok_of_any hvar
  rw [hv, of_decide_eq_true heq]

theorem column_unused : unused.column = .ok unusedColumn := by
  have hcolumn : unused.column.toOption.any
      (fun c => decide (c.objective = .zero ∧ c.lower = .zero ∧ c.upper = infinity)) = true := by
    decide +kernel
  obtain ⟨c, hc, hvalues⟩ := exists_ok_of_any hcolumn
  obtain ⟨hobjective, hlower, hupper⟩ := of_decide_eq_true hvalues
  obtain ⟨-, -, -, hkind, hname⟩ := Milp.Model.column_eq_ok hc
  rw [hc]
  cases c
  exact congrArg Except.ok ((Milp.Column.mk.injEq _ _ _ _ _ _ _ _ _ _).mpr
    ⟨hobjective, hlower, hupper, hkind, hname⟩)

/-- An engine with these columns and no rows. -/
def lone : Engine :=
  { backend := .nearestToZero, modelName := .text "lone", columns := [unusedColumn] }

/-- The same column in a row. -/
def capped : Engine :=
  { lone with
    rows := [TermRow.row { terms := [(0, .one)], sense := .atMost, bound := .one, name := none }] }

/-- A column without a coefficient in the objective and without bounds of its own is mentioned by a row
with a term for it. -/
theorem text_mentions_capped : ∃ (names : List String) (s : Sections), names.length = 1 ∧
    capped.printed.text .blank (.int 1) =
      (textOf (s.lines "\\Problem name: lone" "Minimize"), none) ∧
    ∀ n ∈ names, s.Names n := by
  let r : TermRow := { terms := [(0, .one)], sense := .atMost, bound := .one, name := none }
  have hown : capped.columns.map (·.name) = [some "x"].map .ofName := rfl
  have hrows : capped.rows = [r].map TermRow.row := rfl
  have hrange : ∀ q ∈ [r], TermRow.InRange capped.columns.length q.terms :=
    List.forall_mem_singleton.2 (List.forall_mem_singleton.2 Nat.one_pos)
  have htitle : nameLine .blank capped.modelName = .ok "\\Problem name: lone" := rfl
  have hsense : capped.sense.equals (.int 1) = .ok true := Value.equals_int 1 1
  obtain ⟨names, s, -, hlength, htext, -, -, hnames⟩ :=
    text_mentions hown hrows hrange htitle hsense
  refine ⟨names, s, hlength, htext, fun n hn => ?_⟩
  obtain ⟨k, hk⟩ := List.mem_iff_getElem?.1 hn
  have hlt : k < capped.columns.length := hlength ▸ (List.getElem?_eq_some_iff.1 hk).1
  obtain rfl : k = 0 := Nat.lt_one_iff.1 hlt
  refine (hnames 0 unusedColumn n rfl hk).1.resolve_right fun hsilent => ?_
  exact hsilent.rows r (List.mem_singleton_self r) (0, .one) (List.mem_singleton_self _) rfl

/-- A variable without a coefficient in the objective or a row, and with the bounds of a variable that is
given none, is missing from the text. -/
theorem unused_left_out :
    unused.Built ∧ unused.column = .ok unusedColumn ∧ lone.columns = [unusedColumn] ∧
      printedNames "x" (.int 1) (lone.columns.map (·.name)) = .ok ["x"] ∧
      lone.printed.text .blank (.int 1) =
        ("\\Problem name: lone\n\nMinimize\n obj: 0\nSubject To\n\nBounds\nEnd\n", none) ∧
      "x".toList ∉ Text.words
        "\\Problem name: lone\n\nMinimize\n obj: 0\nSubject To\n\nBounds\nEnd\n".toList := by
  have hnames : shownFrom "x" 0 [] [some "x"] = ["x"] := by decide +kernel
  have htext : (lone.printed.text .blank (.int 1)).1 =
      "\\Problem name: lone\n\nMinimize\n obj: 0\nSubject To\n\nBounds\nEnd\n" := by
    decide +kernel
  have hdone : (lone.printed.text .blank (.int 1)).2 = none := by
    apply Option.isNone_iff_eq_none.1
    decide +kernel
  refine ⟨built_unused, column_unused, rfl, ?_, Prod.ext htext hdone, by decide +kernel⟩
  exact (printedNames_eq "x" [some "x"]).trans (congrArg Except.ok hnames)

end Milp.Lp

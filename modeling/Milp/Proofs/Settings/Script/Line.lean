import Milp.Proofs.Settings.Script.Token
import Milp.Proofs.Settings.Configuration
import Milp.Proofs.Settings.Line
set_option autoImplicit false

/-! # What lines of scripts say

A line of a script is blank or assigns a literal to settings: it has the settings, each followed by an
equals sign, and the literal, with blanks between these parts or without. A comment may end it. This
is the grammar of the lines (`Assigns`). -/

namespace Milp.Settings.Script

open Milp

/-! ## The grammar -/

/-- Parts of a line one after the other. Blanks may follow each of them. -/
inductive Spaced : List (List Char) → List Char → Prop where
  | nil : Spaced [] []
  | cons {part blanks s : List Char} {parts : List (List Char)} : Blanks blanks → Spaced parts s →
      Spaced (part :: parts) (part ++ (blanks ++ s))

/-- Names of members, each after a point. -/
def memberParts (names : List String) : List (List Char) :=
  names.flatMap fun name => [['.'], name.toList]

/-- The parts of what a script calls a setting, up to the equals sign after it. -/
def targetParts (k : KnownSetting) : List (List Char) :=
  "context".toList :: (memberParts k.way ++ [['=']])

/-- The parts of a literal and its value. -/
inductive IsLiteral : List (List Char) → Value → Prop where
  | nothing : IsLiteral ["None".toList] .nothing
  | true : IsLiteral ["True".toList] (.bool true)
  | false : IsLiteral ["False".toList] (.bool false)
  | whole {s : List Char} {n : Nat} : IsNumeral s (.whole n) → IsLiteral [s] (.int n)
  | real {s : List Char} {x : Double} : IsNumeral s (.real x) → IsLiteral [s] (.float x)
  | negativeWhole {s : List Char} {n : Nat} : IsNumeral s (.whole n) →
      IsLiteral [['-'], s] (.int (-n))
  | negativeReal {s : List Char} {x : Double} : IsNumeral s (.real x) →
      IsLiteral [['-'], s] (.float (-x))
  | text {quote : Char} {body : List Char} : quote = '\'' ∨ quote = '"' → IsPlainText quote body →
      IsLiteral [quote :: body ++ [quote]] (.text (String.ofList body))

/-- What a line may end with: nothing or a comment. -/
def IsComment (s : List Char) : Prop := ∀ c ∈ s.head?, c = '#'

/-- The assignments that a line makes. -/
inductive Assigns : List Char → List Assignment → Prop where
  | nothing {blanks comment : List Char} : Blanks blanks → IsComment comment →
      Assigns (blanks ++ comment) []
  | settings {ks : List KnownSetting} {literal : List (List Char)} {v : Value}
      {s comment : List Char} : ks ≠ [] → IsLiteral literal v →
      Spaced (ks.flatMap targetParts ++ literal) s → IsComment comment →
      Assigns (s ++ comment) (ks.map (·, v))

/-! ## The usual form -/

theorem Spaced.append {ps qs : List (List Char)} {s t : List Char} (hs : Spaced ps s)
    (ht : Spaced qs t) : Spaced (ps ++ qs) (s ++ t) := by
  induction hs with
  | nil => exact ht
  | cons hblanks _ ih =>
    rw [List.append_assoc, List.append_assoc]
    exact .cons hblanks ih

theorem Spaced.append_blanks {ps : List (List Char)} {s blanks : List Char} (hs : Spaced ps s)
    (hne : ps ≠ []) (hblanks : Blanks blanks) : Spaced ps (s ++ blanks) := by
  induction hs with
  | nil => exact absurd rfl hne
  | @cons part before s parts hbefore hs ih =>
    rw [List.append_assoc, List.append_assoc]
    cases parts with
    | nil =>
      cases hs
      have h : Spaced [part] (part ++ (before ++ blanks ++ [])) :=
        .cons (List.forall_mem_append.2 ⟨hbefore, hblanks⟩) .nil
      rwa [List.append_nil] at h
    | cons => exact .cons hbefore (ih (List.cons_ne_nil _ _))

theorem spaced_flatten (parts : List (List Char)) : Spaced parts parts.flatten := by
  induction parts with
  | nil => exact .nil
  | cons part parts ih => exact .cons (List.forall_mem_nil _) ih

/-- A setting with a blank on either side of the equals sign after it. -/
def usualTarget (k : KnownSetting) : List Char := ("context." ++ k.dotted ++ " = ").toList

theorem spaced_usualTarget (k : KnownSetting) : Spaced (targetParts k) (usualTarget k) := by
  have hblank : Blanks [' '] := by decide
  have h := ((spaced_flatten ("context".toList :: memberParts k.way)).append_blanks
    (List.cons_ne_nil _ _) hblank).append
      ((spaced_flatten [['=']]).append_blanks (List.cons_ne_nil _ _) hblank)
  have htext : usualTarget k = ("context".toList :: memberParts k.way).flatten ++ [' '] ++
      ([['=']].flatten ++ [' ']) := by
    cases k <;> decide +kernel
  rwa [← htext] at h

/-- Settings are assigned a literal of one part in the usual form. -/
theorem assigns_usual {ks : List KnownSetting} {part blanks comment line : List Char} {v : Value}
    (hline : line = ks.flatMap usualTarget ++ (part ++ blanks) ++ comment) (hks : ks ≠ [])
    (h : IsLiteral [part] v) (hblanks : Blanks blanks) (hcomment : IsComment comment) :
    Assigns line (ks.map (·, v)) := by
  have htargets (ks : List KnownSetting) :
      Spaced (ks.flatMap targetParts) (ks.flatMap usualTarget) := by
    induction ks with
    | nil => exact .nil
    | cons k ks ih =>
      rw [List.flatMap_cons, List.flatMap_cons]
      exact (spaced_usualTarget k).append ih
  have hpart := (spaced_flatten [part]).append_blanks (List.cons_ne_nil _ _) hblanks
  rw [List.flatten_singleton] at hpart
  rw [hline]
  exact .settings hks h ((htargets ks).append hpart) hcomment

/-! ## Parts in a line -/

section

variable {s rest part : List Char} {parts : List (List Char)}

/-- What the first part of a line begins with. -/
theorem Spaced.head?_eq {c : Char} {tail : List Char} (h : Spaced ((c :: tail) :: parts) s)
    (rest : List Char) : (s ++ rest).head? = some c := by
  cases h
  rfl

/-- A part is cut off with the blanks that follow it. -/
theorem Spaced.cutsTo {t : Token} {p : Char → Prop} (h : Spaced (part :: parts) s)
    (hpart : ∀ tail : List Char, (∀ c ∈ tail.head?, p c) → CutsTo (part ++ tail) [t] tail)
    (hblank : ∀ c, isSpace c = true → p c)
    (hnext : ∀ s', Spaced parts s' → ∀ c ∈ (s' ++ rest).head?, p c) :
    ∃ s', Spaced parts s' ∧ CutsTo (s ++ rest) [t] (s' ++ rest) := by
  cases h with
  | @cons _ blanks s' _ hblanks hparts =>
    have hhead : ∀ c ∈ (blanks ++ (s' ++ rest)).head?, p c := by
      cases blanks with
      | nil => exact hnext s' hparts
      | cons c blanks =>
        rintro _ ⟨⟩
        exact hblank c (hblanks c List.mem_cons_self)
    refine ⟨s', hparts, ?_⟩
    rw [List.append_assoc, List.append_assoc]
    exact (hpart _ hhead).trans (cutsTo_blanks hblanks _)

/-- A blank is one of three characters. -/
theorem forall_isSpace {p : Char → Prop} (hblank : p ' ') (htab : p '\t') (hfeed : p '\x0c') (c : Char)
    (hc : isSpace c = true) : p c := by
  rw [isSpace, Bool.or_eq_true, Bool.or_eq_true, decide_eq_true_eq, decide_eq_true_eq,
    decide_eq_true_eq] at hc
  rcases hc with (rfl | rfl) | rfl
  · exact hblank
  · exact htab
  · exact hfeed

theorem Spaced.cutsTo_word {w : List Char} (hw : IsWord w) (h : Spaced (w :: parts) s)
    (rest : List Char)
    (hnext : ∀ s', Spaced parts s' → ∀ c ∈ (s' ++ rest).head?, isNameChar c = false) :
    ∃ s', Spaced parts s' ∧ CutsTo (s ++ rest) [.name (String.ofList w) true] (s' ++ rest) :=
  h.cutsTo (fun _ => hw.cutsTo) (forall_isSpace (by decide) (by decide) (by decide)) hnext

/-! ## Settings -/

def memberTokens (names : List String) : List Token :=
  names.flatMap fun name => [.mark ".", .name name true]

/-- A point or an equals sign follows each name. -/
theorem head?_members {names : List String} (h : Spaced (memberParts names ++ ['='] :: parts) s) :
    ∀ c ∈ (s ++ rest).head?, isNameChar c = false := by
  intro c hc
  cases names with
  | nil =>
    rw [memberParts, List.flatMap_nil, List.nil_append] at h
    rw [h.head?_eq rest] at hc
    cases hc
    decide
  | cons name names =>
    rw [memberParts, List.flatMap_cons] at h
    rw [Spaced.head?_eq (by simpa using h) rest] at hc
    cases hc
    decide

theorem Spaced.cutsTo_point {w : List Char} (hw : IsWord w) (h : Spaced (['.'] :: w :: parts) s)
    (rest : List Char) :
    ∃ s', Spaced (w :: parts) s' ∧ CutsTo (s ++ rest) [.mark "."] (s' ++ rest) := by
  have hpoint (tail : List Char) (htail : ∀ c ∈ tail.head?, c ≠ '.' ∧ c.isDigit = false) :
      CutsTo (['.'] ++ tail) [.mark "."] tail :=
    cutsTo_mark List.mem_cons_self (fun d hd => by simpa using (htail d hd).1)
      fun _ d hd => (htail d hd).2
  have hword (s' : List Char) (hs' : Spaced (w :: parts) s') :
      ∀ c ∈ (s' ++ rest).head?, c ≠ '.' ∧ c.isDigit = false := by
    obtain ⟨d, hhead, hdigit⟩ := hw.begins
    obtain ⟨tail, rfl⟩ := List.head?_eq_some_iff.1 hhead
    rw [hs'.head?_eq rest]
    rintro _ ⟨⟩
    exact ⟨(solid_of_isNameChar (hw.chars d List.mem_cons_self).1).2, hdigit⟩
  exact h.cutsTo hpoint (forall_isSpace (by decide) (by decide) (by decide)) hword

theorem Spaced.cutsTo_equals (h : Spaced (['='] :: parts) s)
    (hnext : ∀ s', Spaced parts s' → ∀ c ∈ (s' ++ rest).head?, c ≠ '=') :
    ∃ s', Spaced parts s' ∧ CutsTo (s ++ rest) [.mark "="] (s' ++ rest) := by
  have hmark (tail : List Char) (htail : ∀ c ∈ tail.head?, c ≠ '=') :
      CutsTo (['='] ++ tail) [.mark "="] tail :=
    cutsTo_mark (List.mem_cons_of_mem _ List.mem_cons_self) (fun d hd => by simpa using htail d hd)
      fun h => absurd h (by decide)
  exact h.cutsTo hmark (forall_isSpace (by decide) (by decide) (by decide)) hnext

theorem members_cutsTo {names : List String} (hnames : ∀ name ∈ names, IsWord name.toList)
    (h : Spaced (memberParts names ++ ['='] :: parts) s)
    (hnext : ∀ s', Spaced parts s' → ∀ c ∈ (s' ++ rest).head?, c ≠ '=') :
    ∃ s', Spaced parts s' ∧ CutsTo (s ++ rest) (memberTokens names ++ [.mark "="]) (s' ++ rest) := by
  induction names generalizing s with
  | nil => exact h.cutsTo_equals hnext
  | cons name names ih =>
    obtain ⟨hname, hnames⟩ := List.forall_mem_cons.1 hnames
    have hparts : memberParts (name :: names) ++ ['='] :: parts =
        ['.'] :: name.toList :: (memberParts names ++ ['='] :: parts) := rfl
    rw [hparts] at h
    obtain ⟨afterPoint, hafterPoint, hpoint⟩ := h.cutsTo_point hname rest
    obtain ⟨afterName, hafterName, hword⟩ := hafterPoint.cutsTo_word hname rest
      fun s' hs' => head?_members hs'
    obtain ⟨s', hs', hrest⟩ := ih hnames hafterName
    rw [String.ofList_toList] at hword
    exact ⟨s', hs', (hpoint.trans hword).trans hrest⟩

def targetTokens (k : KnownSetting) : List Token :=
  .name "context" true :: (memberTokens k.way ++ [.mark "="])

theorem target_cutsTo {k : KnownSetting} (h : Spaced (targetParts k ++ parts) s)
    (hnext : ∀ s', Spaced parts s' → ∀ c ∈ (s' ++ rest).head?, c ≠ '=') :
    ∃ s', Spaced parts s' ∧ CutsTo (s ++ rest) (targetTokens k) (s' ++ rest) := by
  have hnames : ∀ name ∈ k.way, IsWord name.toList := by
    cases k
    all_goals decide
  rw [targetParts, List.cons_append, List.append_assoc, List.singleton_append] at h
  obtain ⟨afterContext, hafterContext, hcontext⟩ := h.cutsTo_word (by decide) rest
    fun s' hs' => head?_members hs'
  obtain ⟨s', hs', hmembers⟩ := members_cutsTo hnames hafterContext hnext
  exact ⟨s', hs', hcontext.trans hmembers⟩

/-- What begins a part that may follow an equals sign. -/
def BeginsTerm (parts : List (List Char)) : Prop :=
  ∃ c tail more, parts = (c :: tail) :: more ∧ c ≠ '='

theorem BeginsTerm.head? (h : BeginsTerm parts) (rest : List Char) :
    ∀ s', Spaced parts s' → ∀ c ∈ (s' ++ rest).head?, c ≠ '=' := by
  obtain ⟨d, tail, more, rfl, hd⟩ := h
  intro s' hs' c hc
  rw [hs'.head?_eq rest] at hc
  cases hc
  exact hd

theorem targets_cutsTo {ks : List KnownSetting} (h : Spaced (ks.flatMap targetParts ++ parts) s)
    (hparts : BeginsTerm parts) (rest : List Char) :
    ∃ s', Spaced parts s' ∧ CutsTo (s ++ rest) (ks.flatMap targetTokens) (s' ++ rest) := by
  induction ks generalizing s with
  | nil => exact ⟨s, h, .refl _⟩
  | cons k ks ih =>
    rw [List.flatMap_cons, List.append_assoc] at h
    have hnext : BeginsTerm (ks.flatMap targetParts ++ parts) := by
      cases ks with
      | nil => exact hparts
      | cons => exact ⟨'c', _, _, rfl, by decide⟩
    obtain ⟨afterFirst, hafterFirst, hfirst⟩ := target_cutsTo h (hnext.head? rest)
    obtain ⟨s', hs', hrest⟩ := ih hafterFirst
    exact ⟨s', hs', hfirst.trans hrest⟩

/-! ## Literals and ends of lines -/

/-- What the last part of a line is followed by: a comment or the end of the line. -/
def EndsParts (s : List Char) : Prop := ∀ c ∈ s.head?, c = '#' ∨ c = '\n'

theorem EndsParts.forall {p : Char → Prop} (h : EndsParts rest) (hcomment : p '#') (hend : p '\n') :
    ∀ c ∈ rest.head?, p c := by
  intro c hc
  rcases h c hc with rfl | rfl
  · exact hcomment
  · exact hend

/-- The last part is cut off with all that follows it. -/
theorem Spaced.cutsTo_last {t : Token} {p : Char → Prop} (h : Spaced [part] s)
    (hpart : ∀ tail : List Char, (∀ c ∈ tail.head?, p c) → CutsTo (part ++ tail) [t] tail)
    (hblank : ∀ c, isSpace c = true → p c) (hrest : ∀ c ∈ rest.head?, p c) :
    CutsTo (s ++ rest) [t] rest := by
  obtain ⟨s', hs', hcut⟩ := h.cutsTo hpart hblank fun s' hs' => by
    cases hs'
    exact hrest
  cases hs'
  exact hcut

theorem Spaced.cutsTo_lastWord {w : List Char} (hw : IsWord w) (h : Spaced [w] s)
    (hrest : EndsParts rest) : CutsTo (s ++ rest) [.name (String.ofList w) true] rest :=
  h.cutsTo_last (fun _ => hw.cutsTo) (forall_isSpace (by decide) (by decide) (by decide))
    (hrest.forall (by decide) (by decide))

theorem Spaced.cutsTo_lastNumeral {n : NumberLiteral} (hn : IsNumeral part n) (h : Spaced [part] s)
    (hrest : EndsParts rest) : CutsTo (s ++ rest) [.number n] rest :=
  h.cutsTo_last (fun _ => hn.cutsTo)
    (forall_isSpace (by decide) (by decide) (by decide)) (hrest.forall (by decide) (by decide))

theorem Spaced.cutsTo_lastText {quote : Char} {body : List Char} (hquote : quote = '\'' ∨ quote = '"')
    (hbody : IsPlainText quote body) (h : Spaced [quote :: body ++ [quote]] s)
    (hrest : EndsParts rest) : CutsTo (s ++ rest) [.text (String.ofList body)] rest := by
  have hother (c : Char) (hc : c ≠ '\'' ∧ c ≠ '"') : c ≠ quote := by
    rintro rfl
    exact hquote.elim hc.1 hc.2
  exact h.cutsTo_last (fun _ => cutsTo_text hquote hbody)
    (forall_isSpace (hother _ (by decide)) (hother _ (by decide)) (hother _ (by decide)))
    (hrest.forall (hother _ (by decide)) (hother _ (by decide)))

theorem ne_of_isDigit_or_point {c : Char} (h : c.isDigit = true ∨ c = '.') : c ≠ '>' ∧ c ≠ '=' := by
  constructor
  all_goals
    rintro rfl
    exact absurd h (by decide)

theorem Spaced.cutsTo_minus {n : NumberLiteral} (hn : IsNumeral part n)
    (h : Spaced (['-'] :: [part]) s) (hrest : EndsParts rest) :
    CutsTo (s ++ rest) [.mark "-", .number n] rest := by
  have hmark (tail : List Char) (htail : ∀ c ∈ tail.head?, c ≠ '>' ∧ c ≠ '=') :
      CutsTo (['-'] ++ tail) [.mark "-"] tail :=
    cutsTo_mark (List.mem_cons_of_mem _ (List.mem_cons_of_mem _ List.mem_cons_self))
      (fun d hd => by simpa using htail d hd) fun h => absurd h (by decide)
  have hnumber (s' : List Char) (hs' : Spaced [part] s') :
      ∀ c ∈ (s' ++ rest).head?, c ≠ '>' ∧ c ≠ '=' := by
    obtain ⟨d, tail, hpart, hd⟩ := hn.begins []
    rw [List.append_nil] at hpart
    subst hpart
    rw [hs'.head?_eq rest]
    rintro _ ⟨⟩
    exact ne_of_isDigit_or_point (hd.imp_right And.left)
  obtain ⟨s', hs', hcut⟩ := h.cutsTo hmark (forall_isSpace (by decide) (by decide) (by decide)) hnumber
  exact hcut.trans (hs'.cutsTo_lastNumeral hn hrest)

/-! ## Whole lines -/

/-- From its margin on, a line is cut into tokens, in no more steps than it has characters and two
more. -/
def CutsLine (line : List Char) (ts : List Token) : Prop :=
  ∀ rest, ∃ n ≤ line.length + 2, ∀ fuel,
    tokensUpTo (fuel + n) true [] (line ++ '\n' :: rest) = ts ++ tokensUpTo fuel true [] rest

theorem endsParts_comment {comment : List Char} (h : IsComment comment) (rest : List Char) :
    EndsParts (comment ++ '\n' :: rest) := by
  intro c hc
  cases comment with
  | nil =>
    cases hc
    exact .inr rfl
  | cons d comment =>
    cases hc
    exact .inl (h c rfl)

theorem dropWhile_line {line : List Char} (h : '\n' ∉ line) (rest : List Char) :
    (line ++ '\n' :: rest).dropWhile (· ≠ '\n') = '\n' :: rest :=
  (span_append (fun _ hc => decide_eq_true (ne_of_mem_of_not_mem hc h)) (by simp)).2

theorem margin_blanks {blanks : List Char} (h : Blanks blanks) (hrest : EndsParts rest)
    (column : Nat) : ∃ column', margin column (blanks ++ rest) = (column', rest) := by
  induction blanks generalizing column with
  | nil =>
    refine ⟨column, ?_⟩
    cases rest with
    | nil => rfl
    | cons c s => rcases hrest c rfl with rfl | rfl <;> rfl
  | cons c blanks ih =>
    obtain ⟨hc, hblanks⟩ := List.forall_mem_cons.1 h
    exact forall_isSpace (p := fun c => ∃ column', margin column (c :: blanks ++ rest) =
      (column', rest)) (ih hblanks _) (ih hblanks _) (ih hblanks _) c hc

theorem tokensUpTo_margin_blank {t : List Char} {column : Nat} (hmargin : margin 0 s = (column, t))
    (hblank : isBlankLine t = true) (hafter : t.dropWhile (· ≠ '\n') = '\n' :: rest) (fuel : Nat) :
    tokensUpTo (fuel + 1) true [] s = tokensUpTo fuel true [] rest := by
  cases s with
  | nil =>
    cases hmargin
    cases hafter
  | cons c s =>
    rw [tokensUpTo.eq_def]
    dsimp only
    rw [hmargin]
    dsimp only
    rw [if_pos hblank, hafter]

theorem tokensUpTo_margin_solid {c : Char} (hc : Solid c) (fuel : Nat) :
    tokensUpTo (fuel + 1) true [] (c :: s) = tokensUpTo fuel false [] (c :: s) := by
  obtain ⟨hspace, hcomment, hend, hjoin⟩ := hc
  have hmargin : margin 0 (c :: s) = (0, c :: s) := by
    simp only [isSpace, Bool.or_eq_false_iff, decide_eq_false_iff_not] at hspace
    obtain ⟨⟨hblank, htab⟩, hfeed⟩ := hspace
    rw [margin.eq_def]
    simp [hblank, htab, hfeed, hjoin]
  have hblank : isBlankLine (c :: s) = false := by
    simp [isBlankLine, hend, hcomment]
  rw [tokensUpTo.eq_def]
  dsimp only
  rw [hmargin]
  dsimp only
  rw [hblank]
  rfl

/-- A blank line has no tokens. -/
theorem cutsLine_blank {blanks comment : List Char} (hblanks : Blanks blanks)
    (hcomment : IsComment comment) (hline : '\n' ∉ comment) :
    CutsLine (blanks ++ comment) [] := by
  intro rest
  have hends := endsParts_comment hcomment rest
  obtain ⟨column, hmargin⟩ := margin_blanks hblanks hends 0
  have hblank : isBlankLine (comment ++ '\n' :: rest) = true := by
    cases comment with
    | nil => rfl
    | cons c comment => rcases hends c rfl with rfl | rfl <;> rfl
  refine ⟨1, by omega, fun fuel => ?_⟩
  rw [List.append_assoc, tokensUpTo_margin_blank hmargin hblank (dropWhile_line hline rest)]
  rfl

/-- A comment is passed over. -/
theorem cutsTo_comment {comment : List Char} (hcomment : IsComment comment) (hline : '\n' ∉ comment)
    (rest : List Char) : CutsTo (comment ++ '\n' :: rest) [] ('\n' :: rest) := by
  cases comment with
  | nil => exact .refl _
  | cons c comment =>
    obtain rfl := hcomment c rfl
    refine cutsTo_of_step (List.cons_ne_nil _ _) fun fuel => ?_
    rw [List.cons_append, tokensUpTo.eq_def]
    dsimp only
    rw [dropWhile_line (fun h => hline (List.mem_cons_of_mem _ h))]
    rfl

/-- A line with tokens ends with a token for that. -/
theorem cutsLine_of_cutsTo {c : Char} {comment : List Char} {ts : List Token}
    (hs : s.head? = some c) (hc : Solid c) (hcomment : IsComment comment) (hline : '\n' ∉ comment)
    (h : ∀ rest, EndsParts rest → CutsTo (s ++ rest) ts rest) :
    CutsLine (s ++ comment) (ts ++ [.lineEnd]) := by
  intro rest
  obtain ⟨n, hn, hcut⟩ := (h _ (endsParts_comment hcomment rest)).trans
    (cutsTo_comment hcomment hline rest)
  obtain ⟨s, rfl⟩ := List.head?_eq_some_iff.1 hs
  refine ⟨n + 2, ?_, fun fuel => ?_⟩
  · simp only [List.length_append, List.length_cons] at hn ⊢
    omega
  · have hend : tokensUpTo (fuel + 1) false [] ('\n' :: rest) =
        .lineEnd :: tokensUpTo fuel true [] rest := rfl
    have hfuel : fuel + (n + 2) = fuel + 1 + n + 1 := by omega
    rw [hfuel, List.append_assoc, List.cons_append, tokensUpTo_margin_solid hc, ← List.cons_append,
      hcut, hend]
    simp

/-! ## Texts -/

/-- Lines with an end of line after each of them. -/
def joinLines (lines : List (List Char)) : List Char := lines.flatMap (· ++ ['\n'])

theorem joinLines_cons (line : List Char) (lines : List (List Char)) :
    joinLines (line :: lines) = line ++ '\n' :: joinLines lines := by
  rw [joinLines, List.flatMap_cons, List.append_assoc]
  rfl

theorem tokensUpTo_joinLines {lines : List (List Char)} {tss : List (List Token)}
    (h : List.Forall₂ CutsLine lines tss) : ∃ n ≤ 3 * (joinLines lines).length, ∀ fuel,
      tokensUpTo (fuel + n) true [] (joinLines lines) = tss.flatten := by
  induction h with
  | nil =>
    refine ⟨0, Nat.zero_le _, fun fuel => ?_⟩
    cases fuel <;> rfl
  | @cons line ts lines tss hline _ ih =>
    obtain ⟨n, hn, hrest⟩ := ih
    obtain ⟨m, hm, hfirst⟩ := hline (joinLines lines)
    rw [joinLines_cons]
    refine ⟨n + m, ?_, fun fuel => ?_⟩
    · rw [List.length_append, List.length_cons]
      omega
    · rw [← Nat.add_assoc, hfirst, hrest, List.flatten_cons]

/-- The last line of a text ends in any case. -/
theorem ended_eq_joinLines {text : List Char} {lines : List (List Char)} (h : HasLines text lines) :
    (if text.getLast? = some '\n' ∨ text.isEmpty then text else text ++ ['\n']) =
      joinLines lines := by
  induction h with
  | none => rfl
  | @unended line hne hbreak =>
    have hlast : line.getLast? ≠ some '\n' := fun h => hbreak (List.mem_of_getLast? h)
    rw [if_neg (not_or.2 ⟨hlast, by simpa using hne⟩), joinLines, List.flatMap_singleton]
  | @ended line rest lines hbreak hrest ih =>
    have hlast : ((line ++ '\n' :: rest).getLast? = some '\n' ∨ (line ++ '\n' :: rest).isEmpty) ↔
        rest.getLast? = some '\n' ∨ rest.isEmpty := by
      cases rest using List.reverseRecOn with
      | nil => simp
      | append_singleton rest c =>
        have hassoc : line ++ '\n' :: (rest ++ [c]) = (line ++ '\n' :: rest) ++ [c] := by simp
        rw [hassoc, List.getLast?_concat, List.getLast?_concat]
        simp
    rw [joinLines_cons, ← ih, if_congr hlast rfl rfl]
    split
    · rfl
    · rw [List.append_assoc, List.cons_append]

theorem tokens_of_cutsLine {text : String} {lines : List (List Char)} {tss : List (List Token)}
    (hlines : HasLines text.toList lines) (h : List.Forall₂ CutsLine lines tss) :
    tokens text = tss.flatten := by
  obtain ⟨n, hn, hcut⟩ := tokensUpTo_joinLines h
  obtain ⟨fuel, hfuel⟩ := Nat.exists_eq_add_of_le (hn.trans (Nat.le_add_right _ 3))
  rw [tokens, ended_eq_joinLines hlines, hfuel, Nat.add_comm, hcut]

end

end Milp.Settings.Script

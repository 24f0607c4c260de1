import Milp.Proofs.Lp.Bounds
import Milp.Proofs.Lp.Expression
set_option autoImplicit false

/-! # Names in printed lines

Lines are made of names and of other words, such as signs, numbers and headers. No other word is
spelled like a name that the format allows, apart from two (`IsFiller`), so the names that lines mention
can be told from their words (`Mentions`). An expression mentions the names of its terms, whatever the
coefficients are and however its lines are broken (`exists_expressionLines`). -/

namespace Milp.Lp

open Text (IsWord)

/-! ## Names among words -/

/-- The words of lines. -/
def wordsOf (lines : List String) : List (List Char) :=
  lines.flatMap fun line => Text.words line.toList

theorem wordsOf_append (lines lines' : List String) :
    wordsOf (lines ++ lines') = wordsOf lines ++ wordsOf lines' := List.flatMap_append

/-- What is no name: a word that the format does not allow as one, or one of two that it does. -/
def IsFiller (w : List Char) : Prop :=
  isCompliant (String.ofList w) = false ∨ w = "free".toList ∨ w = "nan".toList

/-- Among words are these names, and the others are no names. -/
structure Mentions (words : List (List Char)) (names : List String) : Prop where
  found : ∀ s ∈ names, s.toList ∈ words
  only : ∀ w ∈ words, IsFiller w ∨ ∃ s ∈ names, w = s.toList

namespace Mentions

variable {u v : List (List Char)} {ns ms : List String}

theorem append (h : Mentions u ns) (h' : Mentions v ms) : Mentions (u ++ v) (ns ++ ms) where
  found s hs := by
    rcases List.mem_append.1 hs with hs | hs
    · exact List.mem_append_left _ (h.found s hs)
    · exact List.mem_append_right _ (h'.found s hs)
  only w hw := by
    rcases List.mem_append.1 hw with hw | hw
    · exact (h.only w hw).imp_right fun ⟨s, hs, heq⟩ => ⟨s, List.mem_append_left _ hs, heq⟩
    · exact (h'.only w hw).imp_right fun ⟨s, hs, heq⟩ => ⟨s, List.mem_append_right _ hs, heq⟩

theorem fillers (h : ∀ w ∈ u, IsFiller w) : Mentions u [] where
  found _ hs := by cases hs
  only w hw := .inl (h w hw)

theorem filler {w : List Char} (h : IsFiller w) : Mentions [w] [] :=
  fillers (List.forall_mem_singleton.2 h)

/-- Words that mention no name are no names. -/
theorem isFiller (h : Mentions u []) : ∀ w ∈ u, IsFiller w := fun w hw =>
  (h.only w hw).resolve_right fun ⟨_, hs, _⟩ => nomatch hs

theorem name (s : String) : Mentions [s.toList] [s] where
  found _ ht := List.mem_singleton.2 (congrArg String.toList (List.mem_singleton.1 ht))
  only _ hw := .inr ⟨s, List.mem_singleton_self s, List.mem_singleton.1 hw⟩

end Mentions

/-! ## Texts of words -/

/-- A text of some words, with a blank between any two of them, that mentions names. -/
structure Says (text : String) (ws : List (List Char)) (names : List String) : Prop where
  text_eq : text.toList = [' '].intercalate ws
  nonempty : ws ≠ []
  isWord : ∀ w ∈ ws, IsWord w
  mentions : Mentions ws names

namespace Says

variable {text : String} {ws : List (List Char)} {names : List String}

theorem words_eq (h : Says text ws names) : Text.words text.toList = ws := by
  rw [h.text_eq, Text.words_intercalate h.isWord]

theorem words_indented (h : Says text ws names) : Text.words (" " ++ text).toList = ws := by
  have hwords : Text.words (' ' :: text.toList) = [] ++ Text.words text.toList :=
    Text.words_append_blank (by decide) [] _
  rw [String.toList_append]
  exact hwords.trans h.words_eq

theorem newline_not_mem (h : Says text ws names) : '\n' ∉ text.toList := by
  rw [h.text_eq]
  exact Text.not_mem_intercalate (by decide) (by decide) h.isWord

theorem filler {w : String} (hw : IsWord w.toList) (hfiller : IsFiller w.toList) :
    Says w [w.toList] [] where
  text_eq := by simp
  nonempty := List.cons_ne_nil _ _
  isWord := List.forall_mem_singleton.2 hw
  mentions := .filler hfiller

theorem name {s : String} (hs : isCompliant s = true) : Says s [s.toList] [s] where
  text_eq := by simp
  nonempty := List.cons_ne_nil _ _
  isWord := List.forall_mem_singleton.2 (clear_name hs).1
  mentions := .name s

/-- Texts with a blank between them say what they say. -/
theorem join {text' : String} {ws' : List (List Char)} {names' : List String}
    (h : Says text ws names) (h' : Says text' ws' names') :
    Says (text ++ " " ++ text') (ws ++ ws') (names ++ names') where
  text_eq := by
    rw [String.toList_append, String.toList_append, h.text_eq, h'.text_eq,
      Text.intercalate_append h.nonempty h'.nonempty]
    simp
  nonempty := List.append_ne_nil_of_left_ne_nil h.nonempty _
  isWord := List.forall_mem_append.2 ⟨h.isWord, h'.isWord⟩
  mentions := h.mentions.append h'.mentions

end Says

/-! ## Numbers -/

theorem isFiller_of_head {w : String} {c : Char} {rest : List Char} (h : w.toList = c :: rest)
    (hc : startsName c = false) : IsFiller w.toList := by
  left
  rw [String.ofList_toList, isCompliant, h]
  dsimp only
  rw [hc, Bool.false_and]

/-- What numbers start with no name starts with. -/
theorem startsName_eq_false {c : Char} (h : c.isDigit = true ∨ c = '-' ∨ c = '+') :
    startsName c = false := by
  rw [← Bool.not_eq_true]
  intro hstarts
  obtain ⟨-, hdigit, hminus, hplus⟩ := startsName_cases hstarts
  rcases h with h | h | h
  · rw [h] at hdigit
    cases hdigit
  · exact hminus h
  · exact hplus h

theorem says_numeral {w : String} {c : Char} {rest : List Char} (h : w.toList = c :: rest)
    (hword : IsWord w.toList) (hc : c.isDigit = true ∨ c = '-' ∨ c = '+') : Says w [w.toList] [] :=
  .filler hword (isFiller_of_head h (startsName_eq_false hc))

theorem says_generalText (negative : Bool) {m : Nat} (valid : Representable m) :
    Says ((Double.finite negative m valid).generalText 12)
      [((Double.finite negative m valid).generalText 12).toList] [] := by
  obtain ⟨s, hs, hwritten⟩ := Double.written_generalText (by decide : 0 < 12) negative valid
  obtain ⟨c, rest, rfl, hc⟩ := hwritten.head_isDigit
  have hword := (clear_number hwritten).1
  cases negative with
  | false => exact says_numeral hs (hs ▸ hword) (.inl hc)
  | true =>
    have hsigned : IsWord ('-' :: c :: rest) :=
      ⟨List.cons_ne_nil _ _, List.forall_mem_cons.2 ⟨rfl, hword.solid⟩⟩
    exact says_numeral hs (hs ▸ hsigned) (.inr (.inl rfl))

theorem says_zero : Says "0" ["0".toList] [] :=
  says_numeral rfl (by decide) (.inl (by decide))

theorem says_one : Says "1" ["1".toList] [] :=
  says_numeral rfl (by decide) (.inl (by decide))

theorem says_minus : Says "-" ["-".toList] [] :=
  says_numeral rfl (by decide) (.inr (.inl rfl))

theorem says_plus : Says "+" ["+".toList] [] :=
  says_numeral rfl (by decide) (.inr (.inr rfl))

/-- A number in print is one word, and no name. -/
theorem exists_numberText (x : Double) :
    ∃ w, numberText (.float x) = .ok w ∧ Says w [w.toList] [] := by
  rw [numberText, unboundedAbove_float, unboundedBelow_float]
  cases habove : infinity.le x with
  | true => exact ⟨"+inf", rfl, says_numeral rfl (by decide) (.inr (.inr rfl))⟩
  | false =>
  cases hbelow : x.le (-infinity) with
  | true => exact ⟨"-inf", rfl, says_numeral rfl (by decide) (.inr (.inl rfl))⟩
  | false =>
  refine ⟨x.generalText 12, rfl, ?_⟩
  -- what is no number is on neither side, and is written as a word
  by_cases hnan : x = .nan
  · subst hnan
    exact .filler (by decide) (.inr (.inr rfl))
  · have hfinite := isFinite_of_bounded hnan habove hbelow
    cases x with
    | nan | infinite => cases hfinite
    | finite negative m valid => exact says_generalText negative valid

/-! ## Terms -/

theorem negate_float (x : Double) : (Value.float x).negate = .ok (.float (-x)) := by
  rw [Value.negate, Value.float, Value.depth_number, Value.negateUpTo]
  rfl

theorem exists_factor (x : Double) {name : String} (hname : isCompliant name = true) :
    ∃ number ws, numberText (.float x) = .ok number ∧ Says (number ++ " " ++ name) ws [name] := by
  obtain ⟨number, hnumber, hsaid⟩ := exists_numberText x
  exact ⟨number, _, hnumber, hsaid.join (.name hname)⟩

theorem exists_productText (x : Double) {name : String} (hname : isCompliant name = true) :
    ∃ token ws, productText (.float x) (.ok name) = .ok token ∧ Says token ws [name] := by
  obtain ⟨number, ws, hnumber, hsaid⟩ := exists_factor x hname
  rw [productText, Value.equals_float_int, hnumber]
  cases (Number.float x).same (.int 1) with
  | true => exact ⟨name, _, rfl, .name hname⟩
  | false => exact ⟨_, ws, rfl, hsaid⟩

theorem exists_oppositeText (x : Double) {name : String} (hname : isCompliant name = true) :
    ∃ token ws, oppositeText (.float x) (.ok name) = .ok token ∧ Says token ws [name] := by
  obtain ⟨number, ws, hnumber, hsaid⟩ := exists_factor (-x) hname
  rw [oppositeText, Value.equals_float_int, negate_float]
  cases (Number.float x).same (.int (-1)) with
  | true => exact ⟨name, _, rfl, .name hname⟩
  | false =>
    refine ⟨_, ws, ?_, hsaid⟩
    show (numberText (.float (-x)) >>= fun number => _) = _
    rw [hnumber]
    rfl

/-- A term can be printed whatever its coefficient is, and mentions its name. -/
theorem exists_termToken (first : Bool) (x : Double) {name : String}
    (hname : isCompliant name = true) :
    ∃ token ws, termToken first (.float x, .ok name) = .ok token ∧ Says token ws [name] := by
  rw [termToken, Value.float, Value.int, Value.holds_below_numbers, Number.lt_float_int]
  cases x.place?.any fun p => p.lt (Place.point (0 * stepsPerUnit)) with
  | true =>
    obtain ⟨token, ws, htoken, hsaid⟩ := exists_oppositeText x hname
    refine ⟨"- " ++ token, _, ?_, says_minus.join hsaid⟩
    show (oppositeText (.float x) (.ok name) >>= fun token => _) = _
    rw [htoken]
    rfl
  | false =>
    obtain ⟨token, ws, htoken, hsaid⟩ := exists_productText x hname
    cases first with
    | true =>
      refine ⟨token, ws, ?_, hsaid⟩
      show (productText (.float x) (.ok name) >>= fun token => _) = _
      rw [htoken]
      rfl
    | false =>
      refine ⟨"+ " ++ token, _, ?_, says_plus.join hsaid⟩
      show (productText (.float x) (.ok name) >>= fun token => _) = _
      rw [htoken]
      rfl

/-! ## Expressions -/

/-- A term whose coefficient is a double. -/
def doubleTerm (t : Double × String) : Value × Except Failure String := (.float t.1, .ok t.2)

theorem words_printedText (done : List String) (last : String) :
    Text.words (printedText done last) = wordsOf done ++ Text.words last.toList := by
  induction done with
  | nil => rw [printedText_nil, wordsOf, List.flatMap_nil, List.nil_append]
  | cons line rest ih =>
    rw [printedText_cons, Text.words_append_blank (by decide), ih, wordsOf, wordsOf,
      List.flatMap_cons, List.append_assoc]

/-- Terms have tokens, which mention their names. -/
theorem exists_mentioningTokens {terms : List (Double × String)}
    (hterms : ∀ t ∈ terms, isCompliant t.2 = true) (first : Bool) :
    ∃ tokens, Tokens first (terms.map doubleTerm) tokens ∧
      (∀ token ∈ tokens, '\n' ∉ token.toList) ∧
      Mentions (tokens.flatMap fun token => Text.words token.toList) (terms.map Prod.snd) := by
  induction terms generalizing first with
  | nil => exact ⟨[], .nil first, List.forall_mem_nil _, .fillers (List.forall_mem_nil _)⟩
  | cons t rest ih =>
    obtain ⟨hname, hrest⟩ := List.forall_mem_cons.1 hterms
    obtain ⟨token, ws, htoken, hsaid⟩ := exists_termToken first t.1 hname
    obtain ⟨tokens, htokens, hbreaks, hmentions⟩ := ih hrest false
    refine ⟨token :: tokens, .cons htoken htokens,
      List.forall_mem_cons.2 ⟨hsaid.newline_not_mem, hbreaks⟩, ?_⟩
    rw [List.flatMap_cons, hsaid.words_eq]
    exact hsaid.mentions.append hmentions

section

variable {header : String} {terms : List (Double × String)}

/-- Without terms there is a zero after the header. -/
theorem exists_addTerms (hheader : ∀ w ∈ Text.words header.toList, IsFiller w)
    (hterms : ∀ t ∈ terms, isCompliant t.2 = true) :
    ∃ done last, addTerms true header (terms.map doubleTerm) = (done, .ok last) ∧
      Mentions (wordsOf done ++ Text.words last.toList) (terms.map Prod.snd) := by
  by_cases hne : terms = []
  · subst hne
    refine ⟨[], header ++ " 0", rfl, ?_⟩
    have hwords : Text.words (header ++ " 0").toList =
        Text.words header.toList ++ ["0".toList] := by
      rw [String.toList_append]
      exact Text.words_append_blank (by decide) _ _
    rw [wordsOf, List.flatMap_nil, List.nil_append, hwords]
    exact (Mentions.fillers hheader).append says_zero.mentions
  · obtain ⟨tokens, htokens, hbreaks, hmentions⟩ := exists_mentioningTokens hterms true
    have hterms : terms.map doubleTerm ≠ [] := by simpa using hne
    obtain ⟨done, last, hdone, hwrapped⟩ := htokens.wrapped hbreaks (fun _ => hterms) header
    refine ⟨done, last, hdone, ?_⟩
    rw [← words_printedText, hwrapped.words]
    exact (Mentions.fillers hheader).append hmentions

/-- The lines of an expression can be printed whatever its coefficients are, and mention the names of
its terms. -/
theorem exists_expressionLines (hheader : ∀ w ∈ Text.words header.toList, IsFiller w)
    (hterms : ∀ t ∈ terms, isCompliant t.2 = true) (tail : String)
    (htail : ∀ w ∈ Text.words tail.toList, IsFiller w)
    (hblank : ∀ c ∈ tail.toList.head?, Text.isBlank c = true) :
    ∃ lines, expressionLines header (terms.map doubleTerm) (.ok tail) = lines.map .ok ∧
      Mentions (wordsOf lines) (terms.map Prod.snd) := by
  obtain ⟨done, last, hlines, hmentions⟩ := exists_addTerms hheader hterms
  refine ⟨done ++ [last ++ tail], ?_, ?_⟩
  · rw [expressionLines, hlines, List.map_append]
    rfl
  · have hwords : wordsOf (done ++ [last ++ tail]) =
        (wordsOf done ++ Text.words last.toList) ++ Text.words tail.toList := by
      rw [wordsOf_append, wordsOf, wordsOf, List.flatMap_singleton, String.toList_append,
        Text.words_append_of_head hblank, List.append_assoc]
    rw [hwords]
    exact List.append_nil (terms.map Prod.snd) ▸ hmentions.append (.fillers htail)

end

end Milp.Lp

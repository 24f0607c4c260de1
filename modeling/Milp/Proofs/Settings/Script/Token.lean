import Milp.Proofs.Settings.Script.Numeral
import Milp.Proofs.Text.Trim
import Mathlib.Tactic.IntervalCases
set_option autoImplicit false

/-! # Tokens of scripts

Inside a line a text is cut into tokens one after the other. What is said here of blanks, words,
marks, numbers and texts between quotes says where each of them ends (`CutsTo`), so that they can be
put together to lines. -/

namespace Milp.Settings.Script

variable {s rest : List Char} {c : Char}

/-- Inside a line, a text is cut into tokens up to the rest of it, in no more steps than there are
characters before the rest. -/
def CutsTo (s : List Char) (ts : List Token) (rest : List Char) : Prop :=
  ∃ n, n + rest.length ≤ s.length ∧
    ∀ fuel, tokensUpTo (fuel + n) false [] s = ts ++ tokensUpTo fuel false [] rest

theorem CutsTo.refl (s : List Char) : CutsTo s [] s := ⟨0, by omega, fun _ => rfl⟩

theorem CutsTo.trans {middle : List Char} {ts us : List Token} (h : CutsTo s ts middle)
    (h' : CutsTo middle us rest) : CutsTo s (ts ++ us) rest := by
  obtain ⟨n, hn, hts⟩ := h
  obtain ⟨m, hm, hus⟩ := h'
  refine ⟨m + n, by omega, fun fuel => ?_⟩
  rw [← Nat.add_assoc, hts, hus, List.append_assoc]

/-- One step may cut off a part. -/
theorem cutsTo_of_step {part : List Char} {ts : List Token} (hne : part ≠ [])
    (h : ∀ fuel, tokensUpTo (fuel + 1) false [] (part ++ rest) =
      ts ++ tokensUpTo fuel false [] rest) : CutsTo (part ++ rest) ts rest := by
  refine ⟨1, ?_, h⟩
  rw [List.length_append]
  have := List.length_pos_iff.2 hne
  omega

/-! ## Blanks -/

/-- Blanks inside a line. -/
def Blanks (s : List Char) : Prop := ∀ c ∈ s, isSpace c = true

instance (s : List Char) : Decidable (Blanks s) :=
  decidable_of_iff (s.all isSpace = true) List.all_eq_true

theorem cutsTo_blanks {blanks : List Char} (h : Blanks blanks) (rest : List Char) :
    CutsTo (blanks ++ rest) [] rest := by
  induction blanks with
  | nil => exact .refl rest
  | cons c blanks ih =>
    obtain ⟨hc, hblanks⟩ := List.forall_mem_cons.1 h
    have hfirst : CutsTo ([c] ++ (blanks ++ rest)) [] (blanks ++ rest) := by
      refine cutsTo_of_step (List.cons_ne_nil c []) fun fuel => ?_
      rw [List.singleton_append, tokensUpTo.eq_def]
      exact if_pos hc
    exact hfirst.trans (ih hblanks)

/-! ## Tokens -/

/-- A character that has no meaning of its own between tokens. -/
def Solid (c : Char) : Prop := isSpace c = false ∧ c ≠ '#' ∧ c ≠ '\n' ∧ c ≠ '\\'

instance (c : Char) : Decidable (Solid c) :=
  inferInstanceAs (Decidable (_ ∧ _))

theorem tokensUpTo_solid (hc : Solid c) (fuel : Nat) :
    tokensUpTo (fuel + 1) false [] (c :: s) =
      match lexText? (c :: s) with
      | some (.broken, _) => [.broken]
      | some (t, rest) => t :: tokensUpTo fuel false [] rest
      | none =>
        if c.isDigit || (c = '.' && s.head?.any Char.isDigit) then
          match numberLiteral (c :: s) with
          | some (n, rest) => .number n :: tokensUpTo fuel false [] rest
          | none => [.broken]
        else if isNameChar c then
          match nameToken ((c :: s).takeWhile isNameChar) with
          | .broken => [.broken]
          | t => t :: tokensUpTo fuel false [] ((c :: s).dropWhile isNameChar)
        else
          match lexMark? (c :: s) with
          | none => [.broken]
          | some (m, rest) =>
            match bracketsAfter [] m with
            | some opened => .mark m :: tokensUpTo fuel false opened rest
            | none => [.broken] := by
  obtain ⟨hspace, hcomment, hend, hjoin⟩ := hc
  rw [tokensUpTo.eq_def]
  dsimp only
  rw [hspace, if_neg Bool.false_ne_true, if_neg hcomment, if_neg hend]
  exact if_neg hjoin

/-- Whether the letters of a word cannot stand before a quote, whatever follows the word. -/
def isNoTextForm (f : TextForm) : List Char → Bool
  | [] => false
  | c :: rest =>
    (c ≠ '\'' && c ≠ '"') &&
      match f.add? c with
      | some g => isNoTextForm g rest
      | none => true

theorem textStart_append {f : TextForm} {w : List Char} (h : isNoTextForm f w = true)
    (rest : List Char) : textStart f (w ++ rest) = none := by
  induction w generalizing f with
  | nil => cases h
  | cons c w ih =>
    rw [isNoTextForm, Bool.and_eq_true, Bool.and_eq_true, decide_eq_true_eq, decide_eq_true_eq] at h
    obtain ⟨⟨hsingle, hdouble⟩, hform⟩ := h
    rw [List.cons_append, textStart, if_neg (not_or.2 ⟨hsingle, hdouble⟩)]
    cases hadd : f.add? c with
    | none => rfl
    | some g =>
      rw [hadd] at hform
      exact ih hform

/-- A word that is a name whatever does not belong to a name follows it. -/
structure IsWord (w : List Char) : Prop where
  chars : ∀ c ∈ w, isNameChar c = true ∧ c.toNat < 128
  begins : ∃ c ∈ w.head?, c.isDigit = false
  noText : isNoTextForm {} w = true

instance (w : List Char) : Decidable (IsWord w) :=
  decidable_of_iff (w.all (fun c => decide (isNameChar c = true ∧ c.toNat < 128)) = true ∧
      w.head?.any (fun c => decide (c.isDigit = false)) = true ∧ isNoTextForm {} w = true)
    ⟨fun h => ⟨List.all_iff_forall_prop.1 h.1, by simpa [Option.any_eq_true] using h.2.1, h.2.2⟩,
      fun h => ⟨List.all_iff_forall_prop.2 h.chars, by simpa [Option.any_eq_true] using h.begins, h.noText⟩⟩

example : IsWord "context".toList := by decide

theorem solid_of_isNameChar (h : isNameChar c = true) : Solid c ∧ c ≠ '.' := by
  have hother : ∀ d ∈ [' ', '\t', '\x0c', '#', '\n', '\\', '.'], isNameChar d ≠ true :=
    List.all_iff_forall_prop.1 (by decide)
  have hc : c ∉ [' ', '\t', '\x0c', '#', '\n', '\\', '.'] := fun hc => hother c hc h
  simp only [List.mem_cons, List.not_mem_nil, or_false, not_or] at hc
  obtain ⟨hblank, htab, hfeed, hcomment, hend, hjoin, hpoint⟩ := hc
  exact ⟨⟨by simp [isSpace, hblank, htab, hfeed], hcomment, hend, hjoin⟩, hpoint⟩

theorem span_append {p : Char → Bool} {w : List Char} (hw : ∀ c ∈ w, p c = true)
    (hrest : ∀ c ∈ rest.head?, p c = false) :
    (w ++ rest).takeWhile p = w ∧ (w ++ rest).dropWhile p = rest := by
  rw [List.takeWhile_append_of_pos hw, Text.dropWhile_append_of_all hw]
  cases rest with
  | nil => exact ⟨List.append_nil w, rfl⟩
  | cons c s =>
    have hc : ¬p c = true := Bool.eq_false_iff.1 (hrest c rfl)
    rw [List.takeWhile_cons_of_neg hc, List.dropWhile_cons_of_neg hc, List.append_nil]
    exact ⟨rfl, rfl⟩

theorem IsWord.cutsTo {w : List Char} (hw : IsWord w) (hrest : ∀ c ∈ rest.head?, isNameChar c = false) :
    CutsTo (w ++ rest) [.name (String.ofList w) true] rest := by
  obtain ⟨c, hhead, hdigit⟩ := hw.begins
  obtain ⟨tail, rfl⟩ := List.head?_eq_some_iff.1 hhead
  have hc := (hw.chars c List.mem_cons_self).1
  obtain ⟨hsolid, hpoint⟩ := solid_of_isNameChar hc
  obtain ⟨htake, hdrop⟩ := span_append (fun d hd => (hw.chars d hd).1) hrest
  have hascii : (c :: tail).all (·.toNat < 128) = true :=
    List.all_eq_true.2 fun d hd => decide_eq_true (hw.chars d hd).2
  have htext := textStart_append hw.noText rest
  refine cutsTo_of_step (List.cons_ne_nil c tail) fun fuel => ?_
  rw [List.cons_append] at *
  rw [tokensUpTo_solid hsolid, lexText?, htext, htake, hdrop, hdigit, decide_eq_false hpoint]
  dsimp only
  rw [Bool.false_and, Bool.or_false, if_neg Bool.false_ne_true, if_pos hc, nameToken, if_pos hascii]
  rfl

/-- The marks between words, each with the characters that would make another mark of it. -/
def plainMarks : List (Char × List Char) :=
  [('.', ['.']), ('=', ['=']), ('-', ['>', '='])]

theorem lexMark?_of_plain {others : List Char} (hmark : (c, others) ∈ plainMarks)
    (hrest : ∀ d ∈ rest.head?, d ∉ others) :
    lexMark? (c :: rest) = some (String.singleton c, rest) := by
  simp only [plainMarks, List.mem_cons, Prod.mk.injEq, List.not_mem_nil, or_false] at hmark
  rcases hmark with ⟨rfl, rfl⟩ | ⟨rfl, rfl⟩ | ⟨rfl, rfl⟩
  all_goals
    cases rest with
    | nil => decide +kernel
    | cons d s =>
      have hd := hrest d rfl
      simp only [List.mem_cons, List.not_mem_nil, or_false, not_or, ne_comm (a := d)] at hd
      simp [lexMark?, marks, List.isPrefixOf, hd]
      rfl

theorem cutsTo_mark {others : List Char} (hmark : (c, others) ∈ plainMarks)
    (hrest : ∀ d ∈ rest.head?, d ∉ others) (hpoint : c = '.' → ∀ d ∈ rest.head?, d.isDigit = false) :
    CutsTo (c :: rest) [.mark (String.singleton c)] rest := by
  have hplain : Solid c ∧ isNoTextForm {} [c] = true ∧ c.isDigit = false ∧ isNameChar c = false ∧
      bracketsAfter [] (String.singleton c) = some [] := by
    simp only [plainMarks, List.mem_cons, Prod.mk.injEq, List.not_mem_nil, or_false] at hmark
    rcases hmark with ⟨rfl, -⟩ | ⟨rfl, -⟩ | ⟨rfl, -⟩
    all_goals exact ⟨by decide, by decide, by decide, by decide, rfl⟩
  obtain ⟨hsolid, htext, hdigit, hname, hbrackets⟩ := hplain
  have hnumber : (decide (c = '.') && rest.head?.any Char.isDigit) = false := by
    by_cases hc : c = '.'
    · cases rest with
      | nil => exact Bool.and_false _
      | cons d s => exact (congrArg _ (hpoint hc d rfl)).trans (Bool.and_false _)
    · rw [decide_eq_false hc, Bool.false_and]
  have hstart := textStart_append htext rest
  have hlex := lexMark?_of_plain hmark hrest
  refine cutsTo_of_step (List.cons_ne_nil c []) fun fuel => ?_
  rw [List.singleton_append] at *
  rw [tokensUpTo_solid hsolid, lexText?, hstart, hdigit, hnumber, hname, hlex]
  dsimp only
  rw [hbrackets]
  rfl

theorem plain_of_isDigit_or_point (h : c.isDigit = true ∨ c = '.') :
    Solid c ∧ isNoTextForm {} [c] = true := by
  rcases h with h | rfl
  · obtain ⟨hlow, hhigh⟩ := Char.isDigit_iff_toNat.1 h
    rw [← Char.ofNat_toNat c]
    generalize c.toNat = n at *
    have hlow : 48 ≤ n := hlow
    have hhigh : n ≤ 57 := hhigh
    interval_cases n
    all_goals decide
  · decide

theorem IsNumeral.cutsTo {n : NumberLiteral} (h : IsNumeral s n) (hrest : EndsNumeral rest) :
    CutsTo (s ++ rest) [.number n] rest := by
  refine cutsTo_of_step h.ne_nil fun fuel => ?_
  obtain ⟨c, tail, hs, hbegins⟩ := h.begins rest
  have hnumber := h.numberLiteral_eq hrest
  have hdigit : (c.isDigit || (decide (c = '.') && tail.head?.any Char.isDigit)) = true := by
    rcases hbegins with hc | ⟨hc, htail⟩
    · rw [hc, Bool.true_or]
    · rw [decide_eq_true hc, htail, Bool.true_and, Bool.or_true]
  obtain ⟨hsolid, htext⟩ := plain_of_isDigit_or_point (hbegins.imp_right And.left)
  have hstart := textStart_append htext tail
  rw [List.singleton_append] at hstart
  rw [hs] at hnumber ⊢
  rw [tokensUpTo_solid hsolid, lexText?, hstart, hdigit, hnumber]
  rfl

/-! ## Texts between quotes -/

/-- Characters that stand for themselves between quotes. -/
def IsPlainText (quote : Char) (body : List Char) : Prop :=
  ∀ c ∈ body, c ≠ quote ∧ c ≠ '\\' ∧ c ≠ '\n'

instance (quote : Char) (body : List Char) : Decidable (IsPlainText quote body) :=
  decidable_of_iff (body.all (fun c => decide (c ≠ quote ∧ c ≠ '\\' ∧ c ≠ '\n')) = true)
    List.all_iff_forall_prop

theorem textBody_append {quote : Char} {body : List Char} (hbody : IsPlainText quote body)
    (hquote : quote ≠ '\\') (seen rest : List Char) :
    textBody quote false seen (body ++ quote :: rest) = some (seen.reverse ++ body, rest) := by
  induction body generalizing seen with
  | nil =>
    rw [List.nil_append, textBody.eq_def]
    simp [hquote]
  | cons c body ih =>
    obtain ⟨⟨hc, hjoin, hend⟩, hbody⟩ := List.forall_mem_cons.1 hbody
    have hih := ih hbody (c :: seen)
    rw [List.reverse_cons, List.append_assoc, List.singleton_append] at hih
    rw [List.cons_append, textBody.eq_def]
    simp [hjoin, hc, hend, hih]

theorem openQuote_append {quote : Char} {body : List Char} (hbody : IsPlainText quote body)
    (hrest : ∀ c ∈ rest.head?, c ≠ quote) :
    openQuote quote (body ++ quote :: rest) = (false, body ++ quote :: rest) := by
  cases body with
  | nil =>
    cases rest with
    | nil => rfl
    | cons c s => exact if_neg fun h => hrest c rfl h.2
  | cons c body =>
    obtain ⟨⟨hc, -⟩, -⟩ := List.forall_mem_cons.1 hbody
    cases body with
    | nil => exact if_neg fun h => hc h.1
    | cons d body => exact if_neg fun h => hc h.1

theorem cutsTo_text {quote : Char} {body : List Char} (hquote : quote = '\'' ∨ quote = '"')
    (hbody : IsPlainText quote body) (hrest : ∀ c ∈ rest.head?, c ≠ quote) :
    CutsTo ((quote :: body ++ [quote]) ++ rest) [.text (String.ofList body)] rest := by
  refine cutsTo_of_step (List.cons_ne_nil quote _) fun fuel => ?_
  obtain ⟨hsolid, hjoin⟩ : Solid quote ∧ quote ≠ '\\' := by
    rcases hquote with rfl | rfl
    all_goals decide
  have hplain : unescape body = some body := unescape_of_plain fun h => (hbody _ h).2.1 rfl
  have htoken : textToken {} body = .text (String.ofList body) := by
    simp [textToken, hplain]
  have hlex : lexText? (quote :: (body ++ quote :: rest)) =
      some (.text (String.ofList body), rest) := by
    rw [lexText?, textStart, if_pos hquote]
    dsimp only
    rw [openQuote_append hbody hrest]
    dsimp only
    rw [textBody_append hbody hjoin, List.reverse_nil, List.nil_append]
    exact congrArg (fun t => some (t, rest)) htoken
  rw [List.append_assoc, List.cons_append, List.singleton_append, tokensUpTo_solid hsolid, hlex]
  rfl

end Milp.Settings.Script

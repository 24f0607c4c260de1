import Milp.Proofs.Lp.Coefficient
import Milp.Proofs.Lp.Name
import Milp.Proofs.Text.Words
set_option autoImplicit false

/-! # Expressions that are read back

An expression is printed as the words of its terms: a sign, which the first term may go without, a
number, which is left out for one, and a name. No name starts like a number and none is a sign, so a
reader tells the words apart (`Word.ofChars`) and finds the terms again (`readTerms?_words`). Lines are
broken only between terms, where there is a blank anyway, so broken or not they have the words of the
header and of the terms. A line is broken where the next term would make it too wide (`Wrapped`), and a
line that is too wide all the same has nothing on it but the header or one term (`addTerms_read`). -/

namespace Milp.Lp

open Text (IsWord isBlank isBlank_eq_false isBlank_eq_false_of_isDigit)

/-! ## Terms as they are read -/

/-- A term as a reader finds it: its number, if there is one, and its name. -/
structure Reading where
  negative : Bool
  number : Option (List Char)
  name : List Char

/-- The words that a reader tells apart. -/
inductive Word where
  | sign (negative : Bool)
  | number (digits : List Char)
  | name (name : List Char)

/-- A word is a sign on its own, a number if it starts with a digit, and a name otherwise. -/
def Word.ofChars (w : List Char) : Word :=
  if w = ['-'] then .sign true
  else if w = ['+'] then .sign false
  else if w.head?.any Char.isDigit then .number w
  else .name w

/-- Reads terms off words. A term has a sign, which the first one may go without, then a number or
none, and then a name. -/
def readTerms? : Bool → List Word → Option (List Reading)
  | _, [] => some []
  | _, .sign negative :: .number digits :: .name name :: rest =>
    (⟨negative, some digits, name⟩ :: ·) <$> readTerms? false rest
  | _, .sign negative :: .name name :: rest =>
    (⟨negative, none, name⟩ :: ·) <$> readTerms? false rest
  | true, .number digits :: .name name :: rest =>
    (⟨false, some digits, name⟩ :: ·) <$> readTerms? false rest
  | true, .name name :: rest => (⟨false, none, name⟩ :: ·) <$> readTerms? false rest
  | _, _ => none

namespace Reading

/-- The words of a term in print. Only the first term goes without a plus. -/
def words (first : Bool) (r : Reading) : List (List Char) :=
  (if r.negative then [['-']] else if first then [] else [['+']]) ++ (r.number.toList ++ [r.name])

/-- A term whose number and name are words that cannot be taken for anything else. -/
structure Clear (r : Reading) : Prop where
  number : ∀ ds ∈ r.number, IsWord ds ∧ Word.ofChars ds = .number ds
  name : IsWord r.name ∧ Word.ofChars r.name = .name r.name

variable {r : Reading}

theorem Clear.isWord (h : r.Clear) (first : Bool) : ∀ w ∈ r.words first, IsWord w := by
  have hsign : IsWord ['-'] ∧ IsWord ['+'] := by
    constructor <;> exact ⟨List.cons_ne_nil _ _, List.forall_mem_singleton.2 rfl⟩
  intro w hw
  rcases List.mem_append.1 hw with hw | hw
  · split_ifs at hw with hnegative hfirst
    · exact List.mem_singleton.1 hw ▸ hsign.1
    · cases hw
    · exact List.mem_singleton.1 hw ▸ hsign.2
  · rcases List.mem_append.1 hw with hw | hw
    · exact (h.number w (Option.mem_toList.1 hw)).1
    · exact List.mem_singleton.1 hw ▸ h.name.1

/-- The words of a term are read as this term, whatever follows. -/
theorem Clear.readTerms?_words (h : r.Clear) (first : Bool) (rest : List Word) :
    readTerms? first ((r.words first).map Word.ofChars ++ rest) =
      (r :: ·) <$> readTerms? false rest := by
  have hsign : Word.ofChars ['-'] = .sign true ∧ Word.ofChars ['+'] = .sign false := ⟨rfl, rfl⟩
  obtain ⟨negative, number, name⟩ := r
  have hname : Word.ofChars name = .name name := h.name.2
  cases number with
  | none => cases negative <;> cases first <;> simp [words, hsign, hname, readTerms?]
  | some ds =>
    have hnumber : Word.ofChars ds = .number ds := (h.number ds rfl).2
    cases negative <;> cases first <;> simp [words, hsign, hnumber, hname, readTerms?]

end Reading

/-! ## Words that are clear -/

theorem toNat_of_isAlpha {c : Char} (h : c.isAlpha = true) :
    (65 ≤ c.toNat ∧ c.toNat ≤ 90) ∨ 97 ≤ c.toNat ∧ c.toNat ≤ 122 := by
  rcases Bool.or_eq_true_iff.1 h with hupper | hlower
  · have hrange : c.val ≥ 'A'.val ∧ c.val ≤ 'Z'.val := of_decide_eq_true hupper
    exact .inl hrange
  · have hrange : c.val ≥ 'a'.val ∧ c.val ≤ 'z'.val :=
      (Bool.and_eq_true_iff.1 hlower).imp of_decide_eq_true of_decide_eq_true
    exact .inr hrange

theorem isMark_cases {c : Char} (h : isMark c = true) :
    isBlank c = false ∧ c.isDigit = false ∧ c ≠ '-' ∧ c ≠ '+' := by
  have hall : "!#$%&()/,;?@_`'\x7b\x7d|\"".toList.all
      (fun c => !isBlank c && !c.isDigit && c != '-' && c != '+') = true := by decide
  simpa [and_assoc] using List.all_eq_true.1 hall c (by simpa [isMark] using h)

theorem startsName_cases {c : Char} (h : startsName c = true) :
    isBlank c = false ∧ c.isDigit = false ∧ c ≠ '-' ∧ c ≠ '+' := by
  rw [startsName, Bool.or_eq_true] at h
  rcases h with h | h
  · have halpha : c.isAlpha = true := (Bool.and_eq_true_iff.1 (Bool.and_eq_true_iff.1 h).1).1
    have hrange := toNat_of_isAlpha halpha
    have hdigit : ¬c.isDigit = true := by
      rw [Char.isDigit_iff_toNat]
      rintro ⟨-, hnine⟩
      have hnine : c.toNat ≤ 57 := hnine
      omega
    refine ⟨isBlank_eq_false (by omega) (by omega), Bool.not_eq_true _ ▸ hdigit, ?_, ?_⟩
    · rintro rfl
      exact absurd halpha (by decide)
    · rintro rfl
      exact absurd halpha (by decide)
  · exact isMark_cases h

theorem isBlank_of_continuesName {c : Char} (h : continuesName c = true) : isBlank c = false := by
  simp only [continuesName, Bool.or_eq_true, decide_eq_true_eq] at h
  rcases h with (h | rfl) | h
  · rcases Bool.or_eq_true_iff.1 h with halpha | hdigit
    · have hrange := toNat_of_isAlpha halpha
      exact isBlank_eq_false (by omega) (by omega)
    · exact isBlank_eq_false_of_isDigit hdigit
  · decide
  · exact (isMark_cases h).1

/-- A name that the format allows is one word, which is taken for a name. -/
theorem clear_name {s : String} (h : isCompliant s = true) :
    IsWord s.toList ∧ Word.ofChars s.toList = .name s.toList := by
  rw [isCompliant] at h
  split at h
  · cases h
  · rename_i c rest hs
    rw [Bool.and_eq_true] at h
    obtain ⟨hblank, hdigit, hminus, hplus⟩ := startsName_cases h.1
    rw [hs]
    refine ⟨⟨List.cons_ne_nil _ _, List.forall_mem_cons.2 ⟨hblank, fun c hc => ?_⟩⟩, ?_⟩
    · exact isBlank_of_continuesName (List.all_eq_true.1 h.2 c hc)
    · simp [Word.ofChars, hminus, hplus, hdigit]

/-- A number is one word, which is taken for a number. -/
theorem clear_number {s : List Char} {y : ℚ} (h : Double.Written s y) :
    IsWord s ∧ Word.ofChars s = .number s := by
  obtain ⟨c, rest, hs, hc⟩ := h.head_isDigit
  refine ⟨⟨hs ▸ List.cons_ne_nil _ _, fun c hc => ?_⟩, ?_⟩
  · rcases h.isDigit_or_mark hc with hdigit | hmark
    · exact isBlank_eq_false_of_isDigit hdigit
    · simp only [List.mem_cons, List.not_mem_nil, or_false] at hmark
      rcases hmark with rfl | rfl | rfl | rfl <;> rfl
  · have hminus : c ≠ '-' := by
      rintro rfl
      exact absurd hc (by decide)
    have hplus : c ≠ '+' := by
      rintro rfl
      exact absurd hc (by decide)
    simp [hs, Word.ofChars, hminus, hplus, hc]

/-! ## Terms as they are printed -/

/-- What a reader finds for a coefficient next to its sign: nothing exactly for one, and otherwise its
double with twelve digits, which is read as that double rounded to so many digits. -/
inductive NumberRead (x : Number) (negative : Bool) : Option (List Char) → Prop where
  | omitted (one : x.same (.int (if negative then -1 else 1)) = true) : NumberRead x negative none
  | given {d : Double} {digits : List Char} {y : ℚ}
    (notOne : x.same (.int (if negative then -1 else 1)) = false) (double : x.toDouble = .ok d)
    (text : (d.generalText 12).toList = Double.sign negative ++ digits)
    (read : Double.numberOfChars? (Double.sign negative ++ digits) = some y)
    (rounds : Double.RoundsTo 12 d y) : NumberRead x negative (some digits)

/-- What a reader finds of a term, which is a coefficient and a name. -/
structure Reading.Of (t : Number × String) (r : Reading) : Prop where
  sign : t.1.lt (.int 0) = .ok r.negative
  number : NumberRead t.1 r.negative r.number
  name : r.name = t.2.toList

/-- The number in print, which is left out for one. -/
def printedNumber (z : Int) (digits : String) : Option String :=
  if z.natAbs = stepsPerUnit then none else some digits

/-- A number and a name in print, without a sign. -/
def factorText (number : Option String) (name : String) : String :=
  number.elim name fun digits => digits ++ " " ++ name

section

variable {x : Number} {z : Int}

theorem productText_coefficient (h : x.IsCoefficient z) (hz : ¬z < 0) {d : Double}
    (hd : x.toDouble = .ok d) (name : String) :
    productText (.number x) (.ok name) =
      .ok (factorText (printedNumber z (d.generalText 12)) name) := by
  have hone : (z = 1 * stepsPerUnit) = (z.natAbs = stepsPerUnit) := by
    rw [eq_iff_iff]
    omega
  rw [productText, equals_coefficient h, numberText_coefficient h hd, printedNumber]
  simp only [hone]
  by_cases heq : z.natAbs = stepsPerUnit <;> simp only [heq, decide_true, decide_false] <;> rfl

theorem oppositeText_coefficient (h : x.IsCoefficient z) (hz : z < 0) {y : Number}
    (hneg : x.neg = .ok y) (hy : y.IsCoefficient (-z)) {d : Double} (hd : y.toDouble = .ok d)
    (name : String) :
    oppositeText (.number x) (.ok name) =
      .ok (factorText (printedNumber z (d.generalText 12)) name) := by
  have hone : (z = -1 * stepsPerUnit) = (z.natAbs = stepsPerUnit) := by
    rw [eq_iff_iff]
    omega
  have hnegate : (Value.number x).negate = .ok (.number y) := by
    rw [Value.negate, Value.depth_number, Value.negateUpTo, hneg]
    rfl
  rw [oppositeText, equals_coefficient h, hnegate, printedNumber]
  simp only [hone]
  by_cases heq : z.natAbs = stepsPerUnit
  · simp only [heq, decide_true]
    rfl
  · simp only [heq, decide_false]
    show (do
      let number ← numberText (.number y)
      return number ++ " " ++ (← Except.ok name) : Except Failure String) = _
    rw [numberText_coefficient hy hd]
    rfl

theorem numberRead_coefficient (h : x.IsCoefficient z) {m : Nat} {valid : Representable m}
    (hd : x.toDouble = .ok (.finite (decide (z < 0)) m valid)) :
    NumberRead x (decide (z < 0))
      ((printedNumber z ((Double.finite false m valid).generalText 12)).map String.toList) := by
  have hsame : x.same (.int (if decide (z < 0) = true then -1 else 1)) =
      decide (z.natAbs = stepsPerUnit) := by
    rw [Number.same_int_of_place? h.alone h.place, decide_eq_decide]
    simp only [decide_eq_true_eq]
    split <;> omega
  by_cases heq : z.natAbs = stepsPerUnit
  · rw [printedNumber, if_pos heq]
    exact .omitted (hsame.trans (decide_eq_true heq))
  · obtain ⟨y, hread, hrounds, -⟩ := Double.numberOfChars?_generalText (by decide : 0 < 12)
      (x := .finite (decide (z < 0)) m valid) rfl
    have htext : ((Double.finite (decide (z < 0)) m valid).generalText 12).toList =
        Double.sign (decide (z < 0)) ++ ((Double.finite false m valid).generalText 12).toList :=
      Double.toList_format ⟨12, false⟩ _ _ valid
    rw [printedNumber, if_neg heq]
    exact .given (hsame.trans (decide_eq_false heq)) hd htext (htext ▸ hread) hrounds

/-- A factor in print has the words of its number and its name. -/
theorem toList_factorText (number : Option String) (name : String) :
    (factorText number name).toList =
      [' '].intercalate ((number.map String.toList).toList ++ [name.toList]) := by
  cases number <;> simp [factorText, List.intercalate]

/-- A term in print has the words of what a reader finds of it. -/
theorem exists_reading (h : x.IsCoefficient z) {name : String} (hname : isCompliant name = true)
    (first : Bool) : ∃ (r : Reading) (token : String),
      termToken first (.number x, .ok name) = .ok token ∧
      token.toList = [' '].intercalate (r.words first) ∧ r.Clear ∧ r.Of (x, name) := by
  obtain ⟨m, valid, hd, hopposite⟩ := h.exists_storedAs
  obtain ⟨number, hnumber⟩ : ∃ number,
      printedNumber z ((Double.finite false m valid).generalText 12) = number := ⟨_, rfl⟩
  have hread := numberRead_coefficient h hd
  have hclear : ∀ ds ∈ number.map String.toList, IsWord ds ∧ Word.ofChars ds = .number ds := by
    obtain ⟨s, hs, hwritten⟩ := Double.written_generalText (by decide : 0 < 12) false valid
    intro ds hds
    obtain ⟨digits, rfl, rfl⟩ := Option.map_eq_some_iff.1 hds
    rw [printedNumber] at hnumber
    split at hnumber
    · cases hnumber
    · obtain rfl := Option.some.inj hnumber
      rw [hs]
      exact clear_number hwritten
  refine ⟨⟨decide (z < 0), number.map String.toList, name.toList⟩,
    (if z < 0 then "- " else if first then "" else "+ ") ++ factorText number name, ?_, ?_,
    ⟨hclear, clear_name hname⟩, ⟨lt_zero_coefficient h, hnumber ▸ hread, rfl⟩⟩
  · rw [termToken, below_zero_coefficient h]
    by_cases hz : z < 0
    · obtain ⟨y, hneg, hy, hyd⟩ := hopposite hz
      rw [oppositeText_coefficient h hz hneg hy hyd, hnumber]
      simp only [hz, decide_true]
      rfl
    · rw [decide_eq_false hz] at hd
      rw [productText_coefficient h hz hd, hnumber]
      simp only [hz, decide_false]
      cases first
      · rfl
      · exact congrArg Except.ok String.empty_append.symm
  · have hne : (number.map String.toList).toList ++ [name.toList] ≠ [] := by simp
    rw [String.toList_append, toList_factorText, Reading.words]
    by_cases hz : z < 0
    · simp [hz, List.intercalate_cons_of_ne_nil hne]
    · cases first
      · simp [hz, List.intercalate_cons_of_ne_nil hne]
      · simp [hz]

end

/-! ## Lines -/

/-- The text of an expression: the lines that are done, each with its end, and the last one. -/
def printedText (done : List String) (last : String) : List Char :=
  (written (done.map .ok)).1.toList ++ last.toList

@[simp]
theorem printedText_nil (last : String) : printedText [] last = last.toList := by
  simp [printedText, written]

@[simp]
theorem printedText_cons (line : String) (done : List String) (last : String) :
    printedText (line :: done) last = line.toList ++ '\n' :: printedText done last := by
  simp [printedText, written]

/-- How the start of a line and the tokens that follow it are printed. -/
structure Wrapped (line : String) (tokens : List String) (done : List String) (last : String) :
    Prop where
  /-- The words are those of the line and of the tokens. -/
  words : Text.words (printedText done last) =
    Text.words line.toList ++ tokens.flatMap fun token => Text.words token.toList
  /-- A printed line is not too wide, unless it is the start alone or one token that is indented. -/
  width : ∀ l ∈ done ++ [last], l.length ≤ 78 ∨ l = line ∨ ∃ token ∈ tokens, l = "       " ++ token
  /-- What is printed as a line is one, if the start is. -/
  lines (h : '\n' ∉ line.toList) : (printedText done last).splitOn '\n' =
    (done ++ [last]).map String.toList

namespace Wrapped

variable {line token : String} {tokens done : List String} {last : String}

theorem indentation_blank : indentation ++ " " = "       " := by decide +kernel

theorem nil (line : String) : Wrapped line [] [] line where
  words := by simp
  width _ hl := .inr (.inl (List.mem_singleton.1 hl))
  lines h := by simpa using List.splitOn_eq_singleton h

/-- A token that fits goes to the line. -/
theorem join (htoken : '\n' ∉ token.toList) (hwidth : line.length + token.length + 1 ≤ lineWidth)
    (h : Wrapped (line ++ " " ++ token) tokens done last) :
    Wrapped line (token :: tokens) done last where
  words := by
    have hline : (line ++ " " ++ token).toList = line.toList ++ ' ' :: token.toList := by simp
    rw [h.words, hline, Text.words_append_blank (by decide), List.flatMap_cons, List.append_assoc]
  width l hl := by
    rcases h.width l hl with hle | rfl | ⟨t, ht, rfl⟩
    · exact .inl hle
    · left
      have hblank : " ".length = 1 := rfl
      rw [lineWidth] at hwidth
      rw [String.length_append, String.length_append, hblank]
      omega
    · exact .inr (.inr ⟨t, List.mem_cons_of_mem _ ht, rfl⟩)
  lines hline := h.lines (by simp [hline, htoken])

/-- Before a token that does not fit the line is done, and the token starts a new one. -/
theorem wrap (htoken : '\n' ∉ token.toList)
    (h : Wrapped (indentation ++ " " ++ token) tokens done last) :
    Wrapped line (token :: tokens) (line :: done) last where
  words := by
    have hstart : (indentation ++ " " ++ token).toList =
        indentation.toList ++ ' ' :: token.toList := by simp
    have hindentation : Text.words indentation.toList = [] := by decide
    rw [printedText_cons, Text.words_append_blank (by decide), h.words, hstart,
      Text.words_append_blank (by decide), hindentation, List.flatMap_cons, List.nil_append]
  width l hl := by
    rcases List.mem_cons.1 hl with rfl | hl
    · exact .inr (.inl rfl)
    · rcases h.width l hl with hle | rfl | ⟨t, ht, rfl⟩
      · exact .inl hle
      · exact .inr (.inr ⟨token, List.mem_cons_self, congrArg (· ++ token) indentation_blank⟩)
      · exact .inr (.inr ⟨t, List.mem_cons_of_mem _ ht, rfl⟩)
  lines hline := by
    have hindentation : '\n' ∉ indentation.toList := by decide
    have hstart : '\n' ∉ (indentation ++ " " ++ token).toList := by simp [hindentation, htoken]
    rw [printedText_cons, List.splitOn_append_cons_self_of_not_mem hline, h.lines hstart]
    rfl

end Wrapped

/-- The tokens of terms, of which the first may go without a sign. -/
inductive Tokens : Bool → List (Value × Except Failure String) → List String → Prop where
  | nil (first : Bool) : Tokens first [] []
  | cons {first : Bool} {term : Value × Except Failure String} {token : String}
    {terms : List (Value × Except Failure String)} {tokens : List String}
    (head : termToken first term = .ok token) (tail : Tokens false terms tokens) :
    Tokens first (term :: terms) (token :: tokens)

/-- If terms have tokens, their lines are those of the tokens. -/
theorem Tokens.wrapped {first : Bool} {terms : List (Value × Except Failure String)}
    {tokens : List String} (h : Tokens first terms tokens)
    (htokens : ∀ token ∈ tokens, '\n' ∉ token.toList) (hne : first = true → terms ≠ [])
    (line : String) :
    ∃ done last, addTerms first line terms = (done, .ok last) ∧ Wrapped line tokens done last := by
  induction h generalizing line with
  | nil first =>
    cases first
    · exact ⟨[], line, rfl, .nil line⟩
    · exact absurd rfl (hne rfl)
  | @cons first term token terms tokens head tail ih =>
    obtain ⟨htoken, hrest⟩ := List.forall_mem_cons.1 htokens
    rw [addTerms, head]
    dsimp only
    split
    · obtain ⟨done, last, hlines, hwrapped⟩ := ih hrest nofun (indentation ++ " " ++ token)
      rw [hlines]
      exact ⟨line :: done, last, rfl, hwrapped.wrap htoken⟩
    · rename_i hfit
      obtain ⟨done, last, hlines, hwrapped⟩ := ih hrest nofun (line ++ " " ++ token)
      exact ⟨done, last, hlines, hwrapped.join htoken (Nat.not_lt.1 hfit)⟩

/-- The term of a coefficient and a name, as it is given to be printed. -/
def printedTerm (t : Number × String) : Value × Except Failure String := (.number t.1, .ok t.2)

/-- Terms have tokens, in which a reader finds them. -/
theorem exists_tokens {terms : List (Number × String)}
    (hterms : ∀ t ∈ terms, (∃ z, t.1.IsCoefficient z) ∧ isCompliant t.2 = true) (first : Bool) :
    ∃ tokens found, Tokens first (terms.map printedTerm) tokens ∧
      (∀ token ∈ tokens, '\n' ∉ token.toList) ∧
      readTerms? first
        ((tokens.flatMap fun token => Text.words token.toList).map Word.ofChars) = some found ∧
      List.Forall₂ Reading.Of terms found := by
  induction terms generalizing first with
  | nil => exact ⟨[], [], .nil first, by simp, rfl, .nil⟩
  | cons t rest ih =>
    obtain ⟨⟨⟨z, hz⟩, hname⟩, hrest⟩ := List.forall_mem_cons.1 hterms
    obtain ⟨tokens, found, htokens, hlines, hread, hfound⟩ := ih hrest false
    obtain ⟨r, token, htoken, hwords, hclear, hof⟩ := exists_reading hz hname first
    refine ⟨token :: tokens, r :: found, .cons htoken htokens, ?_, ?_, .cons hof hfound⟩
    · refine List.forall_mem_cons.2 ⟨?_, hlines⟩
      rw [hwords]
      exact Text.not_mem_intercalate (by decide) (by decide) (hclear.isWord first)
    · rw [List.flatMap_cons, hwords, Text.words_intercalate (hclear.isWord first), List.map_append,
        hclear.readTerms?_words, hread]
      rfl

/-- Whatever the header is, the terms of an expression are found again in its text. -/
theorem addTerms_read (header : String) {terms : List (Number × String)} (hne : terms ≠ [])
    (hterms : ∀ t ∈ terms, (∃ z, t.1.IsCoefficient z) ∧ isCompliant t.2 = true) :
    ∃ tokens done last, Tokens true (terms.map printedTerm) tokens ∧
      addTerms true header (terms.map printedTerm) = (done, .ok last) ∧
      Wrapped header tokens done last ∧
      ∃ found, readTerms? true
          ((tokens.flatMap fun token => Text.words token.toList).map Word.ofChars) = some found ∧
        List.Forall₂ Reading.Of terms found := by
  obtain ⟨tokens, found, htokens, hlines, hread, hfound⟩ := exists_tokens hterms true
  have hterms : terms.map printedTerm ≠ [] := by simpa using hne
  obtain ⟨done, last, hdone, hwrapped⟩ := htokens.wrapped hlines (fun _ => hterms) header
  exact ⟨tokens, done, last, htokens, hdone, hwrapped, found, hread, hfound⟩

/-- The second one of two terms goes to a line of its own. -/
theorem addTerms_read_two :
    let terms : List (Number × String) := [(.int 1, "amountThatIsBoughtInTheFirstYear"),
      (.int (-3), "amountThatIsSoldInTheSecondYearAfterIt")]
    ∃ tokens done last found, addTerms true " obj:" (terms.map printedTerm) = (done, .ok last) ∧
      done.length = 1 ∧ Wrapped " obj:" tokens done last ∧
      readTerms? true
        ((tokens.flatMap fun token => Text.words token.toList).map Word.ofChars) = some found ∧
      List.Forall₂ Reading.Of terms found := by
  intro terms
  have hterms : ∀ t ∈ terms, (∃ z, t.1.IsCoefficient z) ∧ isCompliant t.2 = true := by
    refine List.forall_mem_cons.2 ⟨⟨⟨_, .of_int (by decide) (by decide)⟩, by decide +kernel⟩, ?_⟩
    exact List.forall_mem_singleton.2 ⟨⟨_, .of_int (by decide) (by decide)⟩, by decide +kernel⟩
  obtain ⟨tokens, done, last, -, hdone, hwrapped, found, hread, hfound⟩ :=
    addTerms_read " obj:" (List.cons_ne_nil _ _) hterms
  have hlength : (addTerms true " obj:" (terms.map printedTerm)).1.length = 1 := by decide +kernel
  rw [hdone] at hlength
  exact ⟨tokens, done, last, found, hdone, hlength, hwrapped, hread, hfound⟩

end Milp.Lp

import Milp.Proofs.Settings.Script.Line
import Milp.Settings.Read
set_option autoImplicit false

/-! # Statements of written scripts

A script whose lines assign literals to settings is read as statements that make these assignments,
line by line (`statementsOf_of_assigns`). -/

namespace Milp.Settings.Script

open Milp

/-! ## Terms -/

/-- Tokens that are read as a term up to the end of a line. -/
structure IsTerm (ts : List Token) (t : Term) : Prop where
  term_eq : ∀ fuel tail, term (fuel + 3) (ts ++ .lineEnd :: tail) = some (t, .lineEnd :: tail)
  denied_eq : ∀ fuel tail, denied (fuel + 4) (ts ++ .lineEnd :: tail) = some (t, .lineEnd :: tail)

theorem isTerm_number (n : NumberLiteral) {v : Value} (h : constant? (.number n) = some v) :
    IsTerm [.number n] (.constant v) := by
  cases n with
  | whole | real | imaginary =>
    cases h
    exact ⟨fun _ _ => rfl, fun _ _ => rfl⟩

theorem isTerm_minus (n : NumberLiteral) {v : Value} (h : constant? (.number n) = some v) :
    IsTerm [.mark "-", .number n] (.minus (.constant v)) := by
  cases n with
  | whole | real | imaginary =>
    cases h
    exact ⟨fun _ _ => rfl, fun _ _ => rfl⟩

theorem isTerm_word {w : String} {v : Value} (hw : w ∈ ["None", "True", "False"])
    (h : constant? (.name w true) = some v) : IsTerm [.name w true] (.constant v) := by
  simp only [List.mem_cons, List.not_mem_nil, or_false] at hw
  rcases hw with rfl | rfl | rfl
  all_goals
    cases h
    exact ⟨fun _ _ => rfl, fun _ _ => rfl⟩

theorem isTerm_text (s : String) : IsTerm [.text s] (.constant (.text s)) :=
  ⟨fun _ _ => rfl, fun _ _ => rfl⟩

/-- A literal is read as a term that has its value. -/
theorem IsLiteral.exists_isTerm {literal : List (List Char)} {v : Value} (h : IsLiteral literal v) :
    ∃ ts t, IsTerm ts t ∧
      (∀ s rest, Spaced literal s → EndsParts rest → CutsTo (s ++ rest) ts rest) ∧
      ∀ view st, t.value view st = .ok v := by
  cases h with
  | nothing | true | false =>
    exact ⟨_, _, isTerm_word (by decide) rfl, fun _ _ hs => hs.cutsTo_lastWord (by decide),
      fun _ _ => rfl⟩
  | whole hn | real hn =>
    exact ⟨_, _, isTerm_number _ rfl, fun _ _ hs => hs.cutsTo_lastNumeral hn, fun _ _ => rfl⟩
  | negativeWhole hn | negativeReal hn =>
    exact ⟨_, _, isTerm_minus _ rfl, fun _ _ hs => hs.cutsTo_minus hn, fun _ _ => rfl⟩
  | text hquote hbody =>
    exact ⟨_, _, isTerm_text _, fun _ _ hs => hs.cutsTo_lastText hquote hbody, fun _ _ => rfl⟩

/-- A literal does not begin with an equals sign. -/
theorem IsLiteral.begins {literal : List (List Char)} {v : Value} (h : IsLiteral literal v) :
    BeginsTerm literal := by
  have hnumeral {s : List Char} {n : NumberLiteral} (hn : IsNumeral s n) : BeginsTerm [s] := by
    obtain ⟨c, tail, hs, hc⟩ := hn.begins []
    rw [List.append_nil] at hs
    exact ⟨c, tail, [], by rw [hs], (ne_of_isDigit_or_point (hc.imp_right And.left)).2⟩
  cases h with
  | nothing | true | false => exact ⟨_, _, [], rfl, by decide⟩
  | whole hn | real hn => exact hnumeral hn
  | negativeWhole | negativeReal => exact ⟨'-', [], _, rfl, by decide⟩
  | text hquote =>
    refine ⟨_, _, [], rfl, ?_⟩
    rintro rfl
    exact absurd hquote (by decide)

/-- A literal has no tables that would be kept apart. -/
theorem IsLiteral.intern_eq {literal : List (List Char)} {v : Value} (h : IsLiteral literal v)
    (s : SettingsStore) : s.intern v = (v, s) := by
  cases h with
  | nothing | true | false | whole | real | negativeWhole | negativeReal | text => rfl

/-! ## Statements -/

theorem target?_equals (k : KnownSetting) (fuel : Nat) (tail : List Token) :
    target? "=" (fuel + 2) (targetTokens k ++ tail) = some (k.target, tail) := by
  cases k <;> rfl

theorem target?_colon (k : KnownSetting) (fuel : Nat) (tail : List Token) :
    target? ":" (fuel + 2) (targetTokens k ++ tail) = none := by
  cases k <;> rfl

theorem IsTerm.target?_equals {ts : List Token} {t : Term} (h : IsTerm ts t) (fuel : Nat)
    (tail : List Token) : target? "=" (fuel + 3) (ts ++ .lineEnd :: tail) = none := by
  rw [target?, h.term_eq]

theorem IsTerm.terms_eq {ts : List Token} {t : Term} (h : IsTerm ts t) (fuel : Nat)
    (tail : List Token) :
    terms (fuel + 6) (ts ++ .lineEnd :: tail) = some (t, .lineEnd :: tail) := by
  rw [terms, items, h.denied_eq]

/-- Targets are read up to a term. -/
theorem targets_append {ts : List Token} {t : Term} (h : IsTerm ts t) (ks : List KnownSetting)
    (fuel : Nat) (tail : List Token) :
    targets (fuel + 4 + ks.length) (ks.flatMap targetTokens ++ (ts ++ .lineEnd :: tail)) =
      (ks.map KnownSetting.target, ts ++ .lineEnd :: tail) := by
  induction ks with
  | nil =>
    rw [List.flatMap_nil, List.nil_append, List.length_nil, Nat.add_zero, targets,
      h.target?_equals]
    rfl
  | cons k ks ih =>
    have hfuel : fuel + 4 + ks.length = fuel + 2 + ks.length + 2 := by omega
    rw [List.flatMap_cons, List.append_assoc, List.length_cons, ← Nat.add_assoc, targets]
    rw [hfuel] at ih ⊢
    rw [target?_equals]
    dsimp only
    rw [ih]
    rfl

theorem length_flatMap_targetTokens (ks : List KnownSetting) :
    ks.length ≤ (ks.flatMap targetTokens).length := by
  induction ks with
  | nil => exact Nat.le_refl _
  | cons k ks ih =>
    rw [List.flatMap_cons, List.length_append, List.length_cons, targetTokens, List.length_cons]
    omega

theorem statement_of_targets {fuel : Nat} {s rest tail : List Token} {targeted : List Target}
    {t : Term} (hcolon : target? ":" fuel (.name "context" true :: s) = none)
    (htargets : targets fuel (.name "context" true :: s) = (targeted, rest)) (hne : targeted ≠ [])
    (hterms : terms fuel rest = some (t, tail)) :
    statement fuel (.name "context" true :: s) = some (.assign targeted t, tail) := by
  rw [statement]
  · rw [hcolon, htargets]
    dsimp only
    rw [hterms]
    dsimp only
    rw [if_neg (by simpa using hne)]
  · intro rest h
    exact absurd (List.cons.inj h).1 (by decide)

/-- Settings with equals signs and a term are read as a statement that assigns the term to them. -/
theorem statement_append {ts : List Token} {t : Term} (h : IsTerm ts t) {ks : List KnownSetting}
    (hks : ks ≠ []) (tail : List Token) {s : List Token}
    (hs : s = ks.flatMap targetTokens ++ (ts ++ .lineEnd :: tail)) :
    statement (4 * s.length) s = some (.assign (ks.map KnownSetting.target) t, .lineEnd :: tail) := by
  obtain ⟨fuel, hfuel⟩ : ∃ fuel, 4 * s.length = fuel + 2 + 4 + ks.length := by
    have hlength := length_flatMap_targetTokens ks
    have hpos := List.length_pos_iff.2 hks
    refine ⟨4 * s.length - (6 + ks.length), ?_⟩
    rw [hs, List.length_append, List.length_append, List.length_cons]
    omega
  have htargets := targets_append h ks (fuel + 2) tail
  have hterms := h.terms_eq (fuel + ks.length) tail
  obtain ⟨k, others, rfl⟩ := List.exists_cons_of_ne_nil hks
  have hcolon := target?_colon k (fuel + 4 + (k :: others).length)
    (others.flatMap targetTokens ++ (ts ++ .lineEnd :: tail))
  rw [← List.append_assoc, ← List.flatMap_cons] at hcolon
  have hterm : fuel + (k :: others).length + 6 = fuel + 2 + 4 + (k :: others).length := by omega
  have hmark : fuel + 4 + (k :: others).length + 2 = fuel + 2 + 4 + (k :: others).length := by omega
  rw [hterm] at hterms
  rw [hmark] at hcolon
  rw [hfuel, hs]
  exact statement_of_targets hcolon htargets (by simp) hterms

/-! ## Lines -/

/-- Tokens that are read as statements, whatever comes after them. -/
def AreStatements (ts : List Token) (sts : List Statement) : Prop :=
  sts.length ≤ ts.length ∧ ∀ fuel tail,
    statementsUpTo (fuel + sts.length) (ts ++ tail) = (sts ++ ·) <$> statementsUpTo fuel tail

theorem areStatements_nil : AreStatements [] [] := by
  refine ⟨Nat.le_refl _, fun fuel tail => ?_⟩
  exact (id_map (statementsUpTo fuel tail)).symm

theorem statementsUpTo_context {fuel : Nat} {s tail : List Token} {st : Statement}
    (h : statement (4 * (Token.name "context" true :: s).length) (.name "context" true :: s) =
      some (st, .lineEnd :: tail)) :
    statementsUpTo (fuel + 1) (.name "context" true :: s) =
      (st :: ·) <$> statementsUpTo fuel tail := by
  rw [statementsUpTo, h]
  · rintro ⟨⟩
  · rintro _ ⟨⟩

theorem areStatements_assign {ts : List Token} {t : Term} (h : IsTerm ts t) {ks : List KnownSetting}
    (hks : ks ≠ []) :
    AreStatements (ks.flatMap targetTokens ++ ts ++ [.lineEnd])
      [.assign (ks.map KnownSetting.target) t] := by
  constructor
  · rw [List.length_append]
    exact Nat.le_add_left _ _
  · intro fuel tail
    have hassoc : ks.flatMap targetTokens ++ ts ++ [.lineEnd] ++ tail =
        ks.flatMap targetTokens ++ (ts ++ .lineEnd :: tail) := by
      simp only [List.append_assoc, List.singleton_append]
    have hstatement := statement_append h hks tail rfl
    obtain ⟨k, others, rfl⟩ := List.exists_cons_of_ne_nil hks
    rw [hassoc]
    exact statementsUpTo_context hstatement

theorem AreStatements.append {ts us : List Token} {sts sts' : List Statement}
    (h : AreStatements ts sts) (h' : AreStatements us sts') :
    AreStatements (ts ++ us) (sts ++ sts') := by
  obtain ⟨hlength, hts⟩ := h
  obtain ⟨hlength', hus⟩ := h'
  refine ⟨?_, fun fuel tail => ?_⟩
  · rw [List.length_append, List.length_append]
    exact Nat.add_le_add hlength hlength'
  · rw [List.append_assoc, List.length_append, Nat.add_comm sts.length, ← Nat.add_assoc, hts, hus]
    cases statementsUpTo fuel tail with
    | error => rfl
    | ok rest => exact congrArg _ (List.append_assoc _ _ _).symm

/-- Statements that are read off a line and make its assignments, all of them to known settings. -/
structure IsRead (line : List Char) (as : List Assignment) (ts : List Token)
    (sts : List Statement) : Prop where
  cut : CutsLine line ts
  parsed : AreStatements ts sts
  known : ∀ st ∈ sts, ∃ (ks : List KnownSetting) (t : Term), st = .assign (ks.map KnownSetting.target) t
  carriedOut : ∀ (view : View) (s : SettingsStore) (c : Configuration),
    Configuration.InOrder (Configuration.StatementAssigns view s) c sts as (c.assign as)

theorem isRead_nothing {line : List Char} (h : CutsLine line []) : IsRead line [] [] [] where
  cut := h
  parsed := areStatements_nil
  known := List.forall_mem_nil _
  carriedOut _ _ c := .nil c

/-- What a line assigns is read off it. -/
theorem Assigns.exists_isRead {line : List Char} {as : List Assignment} (h : Assigns line as)
    (hline : '\n' ∉ line) : ∃ ts sts, IsRead line as ts sts := by
  cases h with
  | nothing hblanks hcomment =>
    exact ⟨[], [], isRead_nothing (cutsLine_blank hblanks hcomment fun h =>
      hline (List.mem_append_right _ h))⟩
  | @settings ks literal v s comment hks hliteral hs hcomment =>
    obtain ⟨ts, t, hterm, hcut, hvalue⟩ := hliteral.exists_isTerm
    have hhead : s.head? = some 'c' := by
      obtain ⟨k, others, rfl⟩ := List.exists_cons_of_ne_nil hks
      have h := Spaced.head?_eq hs []
      rwa [List.append_nil] at h
    have hcuts (rest : List Char) (hrest : EndsParts rest) :
        CutsTo (s ++ rest) (ks.flatMap targetTokens ++ ts) rest := by
      obtain ⟨s', hs', htargets⟩ := targets_cutsTo hs hliteral.begins rest
      exact htargets.trans (hcut s' rest hs' hrest)
    refine ⟨_, _, cutsLine_of_cutsTo hhead (by decide) hcomment
      (fun h => hline (List.mem_append_right _ h)) hcuts, areStatements_assign hterm hks,
      fun st hst => ⟨ks, t, List.mem_singleton.1 hst⟩, fun view store c => ?_⟩
    obtain ⟨hkept, hkeep⟩ := Configuration.keep_of_intern (c := c) (hliteral.intern_eq _)
    have hassign := Configuration.StatementAssigns.assign ks (hvalue view (c.state store))
    rw [hkept, hkeep] at hassign
    have h := Configuration.InOrder.cons hassign (.nil _)
    rwa [List.append_nil] at h

/-- What lines assign is read off them one after the other. -/
theorem exists_read {lines : List (List Char)} {ass : List (List Assignment)}
    (h : List.Forall₂ Assigns lines ass) (hlines : ∀ line ∈ lines, '\n' ∉ line) :
    ∃ tss sts, List.Forall₂ CutsLine lines tss ∧ AreStatements tss.flatten sts ∧
      (∀ st ∈ sts, ∃ (ks : List KnownSetting) (t : Term), st = .assign (ks.map KnownSetting.target) t) ∧
      ∀ (view : View) (s : SettingsStore) (c : Configuration),
        Configuration.InOrder (Configuration.StatementAssigns view s) c sts ass.flatten
          (c.assign ass.flatten) := by
  induction h with
  | nil => exact ⟨[], [], .nil, areStatements_nil, List.forall_mem_nil _, fun _ _ c => .nil c⟩
  | cons hfirst _ ih =>
    obtain ⟨hline, hlines⟩ := List.forall_mem_cons.1 hlines
    obtain ⟨ts, sts, hread⟩ := hfirst.exists_isRead hline
    obtain ⟨tss, others, hcut, hparsed, hknown, hcarried⟩ := ih hlines
    refine ⟨ts :: tss, sts ++ others, .cons hread.cut hcut, hread.parsed.append hparsed,
      List.forall_mem_append.2 ⟨hread.known, hknown⟩, fun view s c => ?_⟩
    have h := (hread.carriedOut view s c).append (hcarried view s _)
    rwa [Configuration.assign_assign] at h

/-- Nothing forbids to assign to known settings. -/
theorem isReserved_target (k : KnownSetting) : isReserved k.target = false := by
  cases k <;> decide

/-- A script whose lines make assignments has statements that make them, line by line. -/
theorem statementsOf_of_assigns {text : String} {lines : List (List Char)}
    {ass : List (List Assignment)} (hnull : '\x00' ∉ text.toList)
    (hlines : HasLines text.toList lines) (h : List.Forall₂ Assigns lines ass) :
    ∃ sts, SettingsReader.statementsOf text = .ok sts ∧
      ∀ (view : View) (s : SettingsStore) (c : Configuration),
        Configuration.InOrder (Configuration.StatementAssigns view s) c sts ass.flatten
          (c.assign ass.flatten) := by
  obtain ⟨tss, sts, hcut, ⟨hlength, hparsed⟩, hknown, hcarried⟩ :=
    exists_read h hlines.no_break
  refine ⟨sts, ?_, hcarried⟩
  have hstatements : statementsUpTo (tss.flatten.length + 1) tss.flatten = .ok sts := by
    obtain ⟨extra, hextra⟩ := Nat.exists_eq_add_of_le hlength
    have h := hparsed (extra + 1) []
    rw [List.append_nil] at h
    have hfuel : tss.flatten.length + 1 = extra + 1 + sts.length := by omega
    rw [hfuel, h]
    exact congrArg Except.ok (List.append_nil sts)
  have hread : statements text = .ok sts := by
    rw [statements, tokens_of_cutsLine hlines hcut, hstatements]
    refine if_neg ?_
    rw [List.any_eq_true]
    rintro ⟨st, hst, hreserved⟩
    obtain ⟨ks, t, rfl⟩ := hknown st hst
    simp [isReserved_target] at hreserved
  rw [SettingsReader.statementsOf, String.contains_char_eq, if_neg (by simpa using hnull), hread]

end Milp.Settings.Script

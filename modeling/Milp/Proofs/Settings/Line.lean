import Milp.Settings.File
import Milp.Proofs.Text.Trim
import Mathlib.Algebra.Ring.Nat
set_option autoImplicit false

/-! # What plain files say

A plain file falls into lines, which are trimmed. A line that ends with a backslash is joined with the
next logical line, and what a logical line says goes up to a number sign. It is blank, or holds a name
and a text around its first equals sign, or around its first colon if it has no equals sign, or it is
misread. This is the grammar of plain files (`HasLogicalLines`, `Holds`, `IsMisread`), in which every
text can be read. Reading a text gives the settings that its logical lines hold
(`settingsOfText_of_holds`), or the number of the last line of the first logical line that is misread
(`settingsOfText_of_misread`). -/

namespace Milp.Settings

/-! ## Trimmed texts -/

/-- A text without the blanks around it. -/
structure IsTrimmed (s core : List Char) : Prop where
  around : ∃ before after, s = before ++ core ++ after ∧
    (∀ c ∈ before, Text.isBlank c = true) ∧ ∀ c ∈ after, Text.isBlank c = true
  begins : ∀ c ∈ core.head?, Text.isBlank c = false
  ends : ∀ c ∈ core.getLast?, Text.isBlank c = false

theorem IsTrimmed.trimBlanks_eq {s core : List Char} (h : IsTrimmed s core) :
    Text.trimBlanks s = core := by
  obtain ⟨⟨before, after, rfl, hbefore, hafter⟩, hbegins, hends⟩ := h
  rw [Text.trimBlanks, Text.trim_append_right hafter, Text.trim_append_left hbefore]
  cases core with
  | nil => rfl
  | cons c rest =>
    have hfirst : (c :: rest).dropWhile Text.isBlank = c :: rest :=
      List.dropWhile_cons_of_neg (by simp [hbegins c rfl])
    rw [Text.trim_eq_rdropWhile, hfirst, List.rdropWhile_eq_self_iff]
    intro hne
    rw [hends _ (List.getLast?_eq_some_getLast hne)]
    exact Bool.false_ne_true

theorem isTrimmed_trimBlanks (s : List Char) : IsTrimmed s (Text.trimBlanks s) where
  around := by
    have hsplit : s = s.takeWhile Text.isBlank ++ Text.trimBlanks s ++
        ((s.dropWhile Text.isBlank).reverse.takeWhile Text.isBlank).reverse := by
      rw [List.append_assoc, Text.trimBlanks, Text.trim, ← List.reverse_append,
        List.takeWhile_append_dropWhile, List.reverse_reverse, List.takeWhile_append_dropWhile]
    exact ⟨_, _, hsplit, fun c hc => List.mem_takeWhile_imp hc,
      fun c hc => List.mem_takeWhile_imp (List.mem_reverse.1 hc)⟩
  begins c hc := by
    have hprefix : Text.trimBlanks s <+: s.dropWhile Text.isBlank :=
      List.rdropWhile_prefix Text.isBlank _
    obtain ⟨rest, hrest⟩ := List.head?_eq_some_iff.1 hc
    obtain ⟨after, hafter⟩ := hprefix
    rw [hrest, List.cons_append] at hafter
    have hhead := List.head?_dropWhile_not Text.isBlank s
    rw [← hafter] at hhead
    simpa using hhead
  ends _ hc := Text.getLast_trim hc

theorem isTrimmed_iff {s core : List Char} : IsTrimmed s core ↔ Text.trimBlanks s = core :=
  ⟨IsTrimmed.trimBlanks_eq, fun h => h ▸ isTrimmed_trimBlanks s⟩

/-! ## The grammar -/

/-- The lines that a text is made of. Only the last one may lack its end of line, and is not empty
then. -/
inductive HasLines : List Char → List (List Char) → Prop where
  | none : HasLines [] []
  | unended {line : List Char} : line ≠ [] → '\n' ∉ line → HasLines line [line]
  | ended {line rest : List Char} {lines : List (List Char)} :
      '\n' ∉ line → HasLines rest lines → HasLines (line ++ '\n' :: rest) (line :: lines)

/-- A logical line: the number of its physical lines, and their contents together. -/
structure LogicalLine where
  size : Nat
  content : List Char

/-- What a logical line says, up to a comment. -/
def LogicalLine.said (line : LogicalLine) : List Char := line.content.takeWhile (· ≠ '#')

/-- The logical lines into which physical lines are joined. -/
inductive Joins : List (List Char) → List LogicalLine → Prop where
  | none : Joins [] []
  | single {raw core : List Char} {rest : List (List Char)} {lines : List LogicalLine} :
      IsTrimmed raw core → core.getLast? ≠ some '\\' → Joins rest lines →
        Joins (raw :: rest) (⟨1, core⟩ :: lines)
  | joined {raw core : List Char} {rest : List (List Char)} {line : LogicalLine}
      {lines : List LogicalLine} : IsTrimmed raw (core ++ ['\\']) → Joins rest (line :: lines) →
        Joins (raw :: rest) (⟨line.size + 1, core ++ line.content⟩ :: lines)
  /-- There may be nothing left to join a line with. -/
  | last {raw core : List Char} : IsTrimmed raw (core ++ ['\\']) → Joins [raw] [⟨1, core⟩]

/-- The setting that a logical line holds by what it says, if it is not blank. -/
inductive Holds : List Char → Option (String × String) → Prop where
  | nothing {said : List Char} : (∀ c ∈ said, Text.isBlank c = true) → Holds said none
  | equals {a b : List Char} {name text : String} : '=' ∉ a →
      IsTrimmed a name.toList → IsTrimmed b text.toList → Holds (a ++ '=' :: b) (some (name, text))
  | colon {a b : List Char} {name text : String} : '=' ∉ a ++ b → ':' ∉ a →
      IsTrimmed a name.toList → IsTrimmed b text.toList → Holds (a ++ ':' :: b) (some (name, text))

/-- What is not blank and has neither an equals sign nor a colon is no setting. -/
structure IsMisread (said : List Char) : Prop where
  solid : ∃ c ∈ said, Text.isBlank c = false
  noEquals : '=' ∉ said
  noColon : ':' ∉ said

instance (said : List Char) : Decidable (IsMisread said) :=
  decidable_of_iff (said.any (fun c => decide (Text.isBlank c = false)) = true ∧
      '=' ∉ said ∧ ':' ∉ said)
    ⟨fun h => ⟨by simpa using h.1, h.2.1, h.2.2⟩,
      fun h => ⟨by simpa using h.solid, h.noEquals, h.noColon⟩⟩

/-- Every text is made of lines. -/
theorem exists_hasLines (text : List Char) : ∃ raws, HasLines text raws := by
  -- the induction takes off the first line of a text
  induction hlength : text.length using Nat.strong_induction_on generalizing text with
  | _ n ih =>
    by_cases hbreak : '\n' ∈ text
    · obtain ⟨line, rest, rfl, hline⟩ := List.eq_append_cons_of_mem hbreak
      have hshorter : rest.length < n := by
        rw [← hlength, List.length_append, List.length_cons]
        omega
      obtain ⟨raws, hraws⟩ := ih rest.length hshorter rest rfl
      exact ⟨line :: raws, .ended hline hraws⟩
    · cases text with
      | nil => exact ⟨[], .none⟩
      | cons c rest => exact ⟨[c :: rest], .unended (List.cons_ne_nil _ _) hbreak⟩

theorem HasLines.no_break {text : List Char} {lines : List (List Char)} (h : HasLines text lines) :
    ∀ line ∈ lines, '\n' ∉ line := by
  induction h with
  | none => exact List.forall_mem_nil _
  | unended _ hbreak => exact List.forall_mem_singleton.2 hbreak
  | ended hbreak _ ih => exact List.forall_mem_cons.2 ⟨hbreak, ih⟩

/-- Lines with an end of line between any two of them make a text. -/
theorem hasLines_intercalate {lines : List (List Char)} (hbreak : ∀ line ∈ lines, '\n' ∉ line)
    (hlast : lines.getLast? ≠ some []) :
    HasLines (String.ofList (['\n'].intercalate lines)).toList lines := by
  rw [String.toList_ofList]
  induction lines with
  | nil => exact .none
  | cons line rest ih =>
    obtain ⟨hline, hrest⟩ := List.forall_mem_cons.1 hbreak
    cases rest with
    | nil =>
      rw [List.intercalate_singleton]
      exact .unended (fun h => hlast (congrArg some h)) hline
    | cons next rest =>
      rw [List.intercalate_cons_cons, List.append_assoc]
      rw [List.getLast?_cons_cons] at hlast
      exact .ended hline (ih hrest hlast)

/-- All lines are joined into logical lines. -/
theorem exists_joins (raws : List (List Char)) : ∃ lines, Joins raws lines := by
  induction raws with
  | nil => exact ⟨[], .none⟩
  | cons raw rest ih =>
    obtain ⟨lines, hlines⟩ := ih
    have htrim := isTrimmed_trimBlanks raw
    by_cases hcontinued : (Text.trimBlanks raw).getLast? = some '\\'
    · obtain ⟨core, hcore⟩ := List.getLast?_eq_some_iff.1 hcontinued
      rw [hcore] at htrim
      cases hlines with
      | none => exact ⟨_, .last htrim⟩
      | single h₁ h₂ h₃ => exact ⟨_, .joined htrim (.single h₁ h₂ h₃)⟩
      | joined h₁ h₂ => exact ⟨_, .joined htrim (.joined h₁ h₂)⟩
      | last h => exact ⟨_, .joined htrim (.last h)⟩
    · exact ⟨_, .single htrim hcontinued hlines⟩

/-- The logical lines of a text. -/
def HasLogicalLines (text : String) (lines : List LogicalLine) : Prop :=
  ∃ raws, HasLines text.toList raws ∧ Joins raws lines

theorem exists_hasLogicalLines (text : String) : ∃ lines, HasLogicalLines text lines := by
  obtain ⟨raws, hraws⟩ := exists_hasLines text.toList
  obtain ⟨lines, hlines⟩ := exists_joins raws
  exact ⟨lines, raws, hraws, hlines⟩

/-- What is not misread is blank or a setting. -/
theorem exists_holds {said : List Char} (h : ¬IsMisread said) : ∃ held, Holds said held := by
  have hparts (a b : List Char) : IsTrimmed a (String.ofList (Text.trimBlanks a)).toList ∧
      IsTrimmed b (String.ofList (Text.trimBlanks b)).toList := by
    rw [String.toList_ofList, String.toList_ofList]
    exact ⟨isTrimmed_trimBlanks a, isTrimmed_trimBlanks b⟩
  by_cases hblank : ∀ c ∈ said, Text.isBlank c = true
  · exact ⟨none, .nothing hblank⟩
  by_cases hequals : '=' ∈ said
  · obtain ⟨a, b, rfl, ha⟩ := List.eq_append_cons_of_mem hequals
    exact ⟨_, .equals ha (hparts a b).1 (hparts a b).2⟩
  by_cases hcolon : ':' ∈ said
  · obtain ⟨a, b, rfl, ha⟩ := List.eq_append_cons_of_mem hcolon
    have hab : '=' ∉ a ++ b := by
      rw [List.mem_append, List.mem_cons, not_or, not_or] at hequals
      rw [List.mem_append, not_or]
      exact ⟨hequals.1, hequals.2.2⟩
    exact ⟨_, .colon hab ha (hparts a b).1 (hparts a b).2⟩
  · refine absurd ⟨?_, hequals, hcolon⟩ h
    obtain ⟨c, hc⟩ := not_forall.1 hblank
    obtain ⟨hc, hsolid⟩ := Classical.not_imp.1 hc
    exact ⟨c, hc, Bool.eq_false_iff.2 hsolid⟩

/-- There is a first line that is misread, or all lines are blank or settings. -/
theorem misread_or_hold (lines : List LogicalLine) :
    (∃ before line after, lines = before ++ line :: after ∧ (∀ l ∈ before, ¬IsMisread l.said) ∧
      IsMisread line.said) ∨ ∃ held, List.Forall₂ (fun l => Holds l.said) lines held := by
  induction lines with
  | nil => exact .inr ⟨[], .nil⟩
  | cons line rest ih =>
    by_cases hline : IsMisread line.said
    · exact .inl ⟨[], line, rest, rfl, List.forall_mem_nil _, hline⟩
    · rcases ih with ⟨before, bad, after, rfl, hbefore, hbad⟩ | ⟨held, hheld⟩
      · exact .inl ⟨line :: before, bad, after, rfl, List.forall_mem_cons.2 ⟨hline, hbefore⟩, hbad⟩
      · obtain ⟨first, hfirst⟩ := exists_holds hline
        exact .inr ⟨first :: held, .cons hfirst hheld⟩

/-! ## Reading lines -/

theorem linesFrom_append {line : List Char} (h : '\n' ∉ line) (begun rest : List Char) :
    linesFrom begun (line ++ rest) = linesFrom (line.reverse ++ begun) rest := by
  induction line generalizing begun with
  | nil => rfl
  | cons c line ih =>
    rw [List.mem_cons, not_or] at h
    rw [List.cons_append, linesFrom, if_neg (Ne.symm h.1), ih h.2, List.reverse_cons,
      List.append_assoc]
    rfl

theorem HasLines.physicalLines_eq {text : List Char} {raws : List (List Char)}
    (h : HasLines text raws) : physicalLines text = raws := by
  induction h with
  | none => rfl
  | @unended line hne hbreak =>
    have hline := linesFrom_append hbreak [] []
    rw [List.append_nil, List.append_nil] at hline
    rw [physicalLines, hline, linesFrom, if_neg (by simp [hne]), List.reverse_reverse]
  | @ended line rest lines hbreak _ ih =>
    rw [physicalLines, linesFrom_append hbreak, List.append_nil, linesFrom, if_pos rfl,
      List.reverse_reverse]
    exact congrArg (line :: ·) ih

/-- Logical lines, each with the number of its last physical line, where some have come before. -/
def numberedFrom (number : Nat) : List LogicalLine → List (Nat × List Char)
  | [] => []
  | line :: rest => (number + line.size, line.content) :: numberedFrom (number + line.size) rest

/-- What has been continued goes before the first line. -/
def LogicalLine.joinFirst (joined : List Char) : List LogicalLine → List LogicalLine
  | [] => []
  | line :: rest => { line with content := joined ++ line.content } :: rest

theorem LogicalLine.joinFirst_nil (lines : List LogicalLine) : joinFirst [] lines = lines := by
  cases lines <;> rfl

theorem settingsOfLines_cons_congr {ls ms : List (Nat × List Char)}
    (h : settingsOfLines ls = settingsOfLines ms) (l : Nat × List Char) :
    settingsOfLines (l :: ls) = settingsOfLines (l :: ms) := by
  rw [settingsOfLines, settingsOfLines, h]

/-- An empty line can be left out. -/
theorem settingsOfLines_unless_empty (number : Nat) (joined : List Char) :
    settingsOfLines (if joined.isEmpty then [] else [(number, joined)]) =
      settingsOfLines [(number, joined)] := by
  cases joined <;> rfl

/-- The lines that are joined one after the other are the logical lines, as far as settings go. At the
end of a file nothing has been continued that is not joined with a line. -/
theorem Joins.settingsOfLines_eq {raws : List (List Char)} {lines : List LogicalLine}
    (h : Joins raws lines) {joined : List Char} (hjoined : raws = [] → joined = []) (number : Nat) :
    settingsOfLines (logicalLines joined number raws) =
      settingsOfLines (numberedFrom number (LogicalLine.joinFirst joined lines)) := by
  induction h generalizing joined number with
  | none =>
    rw [hjoined rfl]
    rfl
  | @single raw core rest lines hcore hended _ ih =>
    have hrest := ih (show rest = [] → ([] : List Char) = [] from fun _ => rfl) (number + 1)
    rw [LogicalLine.joinFirst_nil] at hrest
    rw [logicalLines, hcore.trimBlanks_eq, if_neg hended]
    exact settingsOfLines_cons_congr hrest _
  | @joined raw core rest line lines hcore hrest ih =>
    have hne : rest = [] → joined ++ core = [] := by
      rintro rfl
      cases hrest
    rw [logicalLines, hcore.trimBlanks_eq, if_pos List.getLast?_concat, List.dropLast_concat,
      ih hne (number + 1)]
    rw [LogicalLine.joinFirst, LogicalLine.joinFirst, numberedFrom, numberedFrom]
    dsimp only
    rw [List.append_assoc, Nat.add_right_comm, Nat.add_assoc number]
  | @last raw core hcore =>
    rw [logicalLines, hcore.trimBlanks_eq]
    rw [if_pos List.getLast?_concat, List.dropLast_concat, logicalLines,
      settingsOfLines_unless_empty]
    rfl

/-! ## Reading settings -/

section

variable {mark : Char} {a b line said : List Char}

theorem all_ne_of_not_mem (h : mark ∉ line) : ∀ c ∈ line, decide (c ≠ mark) = true :=
  fun _ hc => decide_eq_true (ne_of_mem_of_not_mem hc h)

theorem splitAt?_append_cons (h : mark ∉ a) (b : List Char) :
    splitAt? mark (a ++ mark :: b) = some (a, b) := by
  have hall := all_ne_of_not_mem h
  rw [splitAt?, Text.dropWhile_append_of_all hall, List.takeWhile_append_of_pos hall]
  simp

theorem splitAt?_of_not_mem (h : mark ∉ line) : splitAt? mark line = none := by
  rw [splitAt?, List.dropWhile_eq_nil_iff.2 (all_ne_of_not_mem h)]

/-- Around a separator, blanks at the ends of a line make no difference. -/
theorem trimmed_parts (hmark : Text.isBlank mark = false) {name text : String}
    (ha : IsTrimmed a name.toList) (hb : IsTrimmed b text.toList) :
    Text.trimBlanks (a ++ mark :: b) = a.dropWhile Text.isBlank ++ mark :: b.rdropWhile Text.isBlank ∧
      String.ofList (Text.trimBlanks (a.dropWhile Text.isBlank)) = name ∧
      String.ofList (Text.trimBlanks (b.rdropWhile Text.isBlank)) = text := by
  have hname : Text.trimBlanks (a.dropWhile Text.isBlank) = name.toList :=
    (Text.trim_dropWhile _ _).trans ha.trimBlanks_eq
  have htext : Text.trimBlanks (b.rdropWhile Text.isBlank) = text.toList :=
    (Text.trim_rdropWhile _ _).trans hb.trimBlanks_eq
  rw [hname, htext, String.ofList_toList, String.ofList_toList]
  exact ⟨Text.trim_append_cons hmark a b, rfl, rfl⟩

/-- What holds a setting is read as that setting. -/
theorem Holds.settingOf?_eq {setting : String × String} (h : Holds said (some setting)) :
    settingOf? (Text.trimBlanks said) = some setting := by
  cases h with
  | @equals a b name text ha hname htext =>
    have hdropped : '=' ∉ a.dropWhile Text.isBlank := fun h =>
      ha ((List.dropWhile_sublist _).subset h)
    obtain ⟨htrim, hname, htext⟩ := trimmed_parts
      (show Text.isBlank '=' = false by decide) hname htext
    rw [htrim, settingOf?, splitAt?_append_cons hdropped, Option.some_or, Option.map_some]
    dsimp only
    rw [hname, htext]
  | @colon a b name text hequals ha hname htext =>
    have hnone : '=' ∉ Text.trimBlanks (a ++ ':' :: b) := by
      intro h
      rcases List.mem_append.1 (Text.mem_of_mem_trim h) with h | h
      · exact hequals (List.mem_append_left _ h)
      · exact hequals (List.mem_append_right _ ((List.mem_cons.1 h).resolve_left (by decide)))
    have hdropped : ':' ∉ a.dropWhile Text.isBlank := fun h =>
      ha ((List.dropWhile_sublist _).subset h)
    obtain ⟨htrim, hname, htext⟩ := trimmed_parts
      (show Text.isBlank ':' = false by decide) hname htext
    rw [settingOf?, splitAt?_of_not_mem hnone, Option.none_or, htrim,
      splitAt?_append_cons hdropped, Option.map_some]
    dsimp only
    rw [hname, htext]

theorem trimBlanks_eq_nil_iff : Text.trimBlanks said = [] ↔ ∀ c ∈ said, Text.isBlank c = true := by
  constructor
  · intro h
    obtain ⟨before, after, rfl, hbefore, hafter⟩ := (isTrimmed_iff.2 h).around
    rw [List.append_nil]
    exact List.forall_mem_append.2 ⟨hbefore, hafter⟩
  · exact fun h => Text.trim_append_right h []

theorem Holds.blank (h : Holds said none) : ∀ c ∈ said, Text.isBlank c = true := by
  cases h with
  | nothing h => exact h

theorem IsMisread.trimBlanks_ne_nil (h : IsMisread said) : Text.trimBlanks said ≠ [] := by
  intro hnil
  obtain ⟨c, hc, hsolid⟩ := h.solid
  rw [trimBlanks_eq_nil_iff.1 hnil c hc] at hsolid
  cases hsolid

/-- What is misread is read as no setting. -/
theorem IsMisread.settingOf?_eq (h : IsMisread said) : settingOf? (Text.trimBlanks said) = none := by
  have hequals : '=' ∉ Text.trimBlanks said := fun hc => h.noEquals (Text.mem_of_mem_trim hc)
  have hcolon : ':' ∉ Text.trimBlanks said := fun hc => h.noColon (Text.mem_of_mem_trim hc)
  rw [settingOf?, splitAt?_of_not_mem hequals, splitAt?_of_not_mem hcolon]
  rfl

theorem withoutComment_content (line : LogicalLine) :
    withoutComment line.content = Text.trimBlanks line.said := rfl

end

/-- A line that is blank or a setting adds what it holds. -/
theorem settingsOfLines_of_holds {line : LogicalLine} {held : Option (String × String)}
    (h : Holds line.said held) (number : Nat) (rest : List (Nat × List Char)) :
    settingsOfLines ((number, line.content) :: rest) = (held.toList ++ ·) <$> settingsOfLines rest := by
  rw [settingsOfLines, withoutComment_content]
  cases held with
  | none =>
    rw [trimBlanks_eq_nil_iff.2 h.blank]
    exact (id_map _).symm
  | some setting =>
    have hne : ¬(Text.trimBlanks line.said).isEmpty = true := by
      intro hempty
      have hsetting := h.settingOf?_eq
      rw [List.isEmpty_iff.1 hempty] at hsetting
      cases hsetting
    rw [if_neg hne, h.settingOf?_eq]
    rfl

theorem settingsOfLines_of_misread {line : LogicalLine} (h : IsMisread line.said) (number : Nat)
    (rest : List (Nat × List Char)) :
    settingsOfLines ((number, line.content) :: rest) = .error number := by
  rw [settingsOfLines, withoutComment_content,
    if_neg (fun hempty => h.trimBlanks_ne_nil (List.isEmpty_iff.1 hempty)), h.settingOf?_eq]

/-- The settings of lines come in the order of the lines. -/
theorem settingsOfLines_numberedFrom {lines : List LogicalLine}
    {held : List (Option (String × String))}
    (h : List.Forall₂ (fun l => Holds l.said) lines held) (number : Nat) :
    settingsOfLines (numberedFrom number lines) = .ok held.reduceOption := by
  induction h generalizing number with
  | nil => rfl
  | @cons line first rest others hfirst _ ih =>
    rw [numberedFrom, settingsOfLines_of_holds hfirst, ih]
    cases first <;> rfl

/-- The first line that is misread stops the reading. -/
theorem settingsOfLines_first_misread {before : List LogicalLine} {line : LogicalLine}
    (hbefore : ∀ l ∈ before, ¬IsMisread l.said) (hline : IsMisread line.said)
    (after : List LogicalLine) (number : Nat) :
    settingsOfLines (numberedFrom number (before ++ line :: after)) =
      .error (number + ((before ++ [line]).map LogicalLine.size).sum) := by
  induction before generalizing number with
  | nil =>
    rw [List.nil_append, numberedFrom, settingsOfLines_of_misread hline]
    simp
  | cons first rest ih =>
    obtain ⟨hfirst, hrest⟩ := List.forall_mem_cons.1 hbefore
    obtain ⟨held, hheld⟩ := exists_holds hfirst
    rw [List.cons_append, numberedFrom, settingsOfLines_of_holds hheld, ih hrest, List.cons_append,
      List.map_cons, List.sum_cons, Nat.add_assoc]
    rfl

/-! ## Reading texts -/

section

variable {text : String} {lines : List LogicalLine}

theorem HasLogicalLines.settingsOfText_eq (h : HasLogicalLines text lines) :
    settingsOfText text = settingsOfLines (numberedFrom 0 lines) := by
  obtain ⟨raws, hraws, hlines⟩ := h
  rw [settingsOfText, hraws.physicalLines_eq, hlines.settingsOfLines_eq (fun _ => rfl) 0,
    LogicalLine.joinFirst_nil]

/-- A text without misread lines gives the settings that its lines hold. -/
theorem settingsOfText_of_holds (h : HasLogicalLines text lines)
    {held : List (Option (String × String))}
    (hheld : List.Forall₂ (fun l => Holds l.said) lines held) :
    settingsOfText text = .ok held.reduceOption := by
  rw [h.settingsOfText_eq, settingsOfLines_numberedFrom hheld]

/-- Any other text gives the number of the last physical line of the first one that is misread. -/
theorem settingsOfText_of_misread {before after : List LogicalLine} {line : LogicalLine}
    (h : HasLogicalLines text (before ++ line :: after))
    (hbefore : ∀ l ∈ before, ¬IsMisread l.said) (hline : IsMisread line.said) :
    settingsOfText text = .error ((before ++ [line]).map LogicalLine.size).sum := by
  rw [h.settingsOfText_eq, settingsOfLines_first_misread hbefore hline, Nat.zero_add]

end

end Milp.Settings

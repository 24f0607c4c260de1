import Milp.Proofs.Settings.Separator
set_option autoImplicit false

/-! # Lines in pieces

A line may be cut anywhere, with a backslash behind each piece but the last one, as long as no piece
but the first one begins with a blank, which would be trimmed away. Blanks at the end of a piece
stay where they are, and blanks at the end of a logical line never count, so both ways of writing a
line say the same to whatever has been continued before (`interchangeable_inPieces`). Reading either
file sets the same, or fails because of a misread line in both cases (`Session.readPlain_inPieces`).
-/

namespace Milp

open Milp.Action Milp.Settings

namespace Settings

/-! ## Cutting a line -/

/-- A line in pieces: each but the last one has a backslash behind it. -/
def inPieces : List (List Char) → List (List Char)
  | [] => []
  | [piece] => [piece]
  | piece :: rest => (piece ++ ['\\']) :: inPieces rest

/-- A text that does not begin with a blank. -/
def BeginsSolid (s : List Char) : Prop := ∀ c ∈ s.head?, Text.isBlank c = false

instance : (s : List Char) → Decidable (BeginsSolid s)
  | [] => .isTrue fun _ h => nomatch h
  | c :: _ => decidable_of_iff (Text.isBlank c = false)
      ⟨fun h _ hd => Option.some.inj hd ▸ h, fun h => h c rfl⟩

/-- The text of a file with the given lines, of which the last one may have no line end. -/
def textOf (lines : List (List Char)) (ended : Bool) : String :=
  String.ofList (List.intercalate ['\n'] lines ++ if ended then ['\n'] else [])

section

variable {a b joined : List Char} {pieces : List (List Char)}

theorem inPieces_ne_nil (h : pieces ≠ []) : inPieces pieces ≠ [] := by
  fun_cases inPieces pieces with
  | case1 => exact absurd rfl h
  | case2 => exact List.cons_ne_nil _ _
  | case3 => exact List.cons_ne_nil _ _

theorem not_mem_inPieces (h : ∀ piece ∈ pieces, '\n' ∉ piece) :
    ∀ l ∈ inPieces pieces, '\n' ∉ l := by
  fun_induction inPieces pieces with
  | case1 => exact List.forall_mem_nil _
  | case2 => exact h
  | case3 piece rest _ ih =>
    rw [List.forall_mem_cons] at h ⊢
    refine ⟨?_, ih h.2⟩
    rw [List.mem_append, not_or]
    exact ⟨h.1, by decide⟩

theorem BeginsSolid.dropWhile_eq (h : BeginsSolid b) : b.dropWhile Text.isBlank = b := by
  cases b with
  | nil => rfl
  | cons c rest => exact List.dropWhile_cons_of_neg (by simp [h c rfl])

/-- What does not begin with a blank keeps the blanks before it from being trimmed away. -/
theorem BeginsSolid.dropWhile_append (h : BeginsSolid b) (a : List Char) :
    (a ++ b).dropWhile Text.isBlank = a.dropWhile Text.isBlank ++ b := by
  rw [List.dropWhile_append]
  split
  · rename_i ha
    rw [h.dropWhile_eq, List.isEmpty_iff.1 ha, List.nil_append]
  · rfl

theorem beginsSolid_flatten (h : ∀ piece ∈ pieces, BeginsSolid piece) :
    BeginsSolid pieces.flatten := by
  induction pieces with
  | nil => exact fun _ hc => nomatch hc
  | cons piece rest ih =>
    have hrest := ih fun p hp => h p (List.mem_cons_of_mem _ hp)
    cases piece with
    | nil => exact hrest
    | cons c cs => exact h (c :: cs) List.mem_cons_self

/-- Whether a line goes on is seen at its end. -/
theorem BeginsSolid.isContinued_of_append (h : BeginsSolid b)
    (hcontinued : isContinued (a ++ b) = false) : isContinued b = false := by
  cases b with
  | nil => rfl
  | cons c rest =>
    have hc : Text.isBlank c = false := h c rfl
    rw [isContinued, Text.trimBlanks, Text.trim_append_cons hc,
      List.getLast?_append_of_ne_nil _ (List.cons_ne_nil _ _)] at hcontinued
    rwa [isContinued, Text.trimBlanks, ← List.nil_append (c :: rest), Text.trim_append_cons hc,
      List.dropWhile_nil, List.nil_append]

/-! ## What a logical line says -/

/-- Blanks at the end of a line say nothing, whether they are in a comment or not. -/
theorem withoutComment_append_blanks (hb : ∀ c ∈ b, Text.isBlank c = true) (a : List Char) :
    withoutComment (a ++ b) = withoutComment a := by
  have hcomment : ∀ c ∈ b, decide (c ≠ '#') = true := by
    refine fun c hc => decide_eq_true ?_
    rintro rfl
    exact absurd (hb _ hc) (by decide)
  rw [withoutComment, withoutComment, List.takeWhile_append, List.takeWhile_eq_self_iff.2 hcomment]
  split
  · rename_i ha
    rw [List.takeWhile_eq_self_iff.2 (List.takeWhile_eq_self_iff.1
      ((List.takeWhile_prefix _).eq_of_length ha))]
    exact Text.trim_append_right hb _
  · rfl

/-- It makes no difference whether a line is trimmed at its end before it is joined. -/
theorem withoutComment_append_trim (a b : List Char) :
    withoutComment (a ++ Text.trimBlanks b) = withoutComment (a ++ b.dropWhile Text.isBlank) := by
  have hsplit : (b.dropWhile Text.isBlank).rdropWhile Text.isBlank ++
      ((b.dropWhile Text.isBlank).reverse.takeWhile Text.isBlank).reverse =
        b.dropWhile Text.isBlank := by
    rw [List.rdropWhile, ← List.reverse_append, List.takeWhile_append_dropWhile,
      List.reverse_reverse]
  conv_rhs => rw [← hsplit, ← List.append_assoc]
  rw [withoutComment_append_blanks fun c hc => List.mem_takeWhile_imp (List.mem_reverse.1 hc)]
  rfl

/-- A line in pieces is a logical line that says what the whole line says. -/
theorem logicalLines_inPieces (hne : pieces ≠ [])
    (hsolid : ∀ piece ∈ pieces.tail, BeginsSolid piece)
    (hcontinued : isContinued pieces.flatten = false) (joined : List Char) (number : Nat)
    (lines : List (List Char)) :
    ∃ last line, logicalLines joined number (inPieces pieces ++ lines) =
        (last, line) :: logicalLines [] last lines ∧
      withoutComment line = withoutComment (joined ++ Text.trimBlanks pieces.flatten) := by
  induction pieces generalizing joined number with
  | nil => exact absurd rfl hne
  | cons piece rest ih =>
    cases rest with
    | nil =>
      rw [List.flatten_cons, List.flatten_nil, List.append_nil] at hcontinued ⊢
      refine ⟨number + 1, joined ++ Text.trimBlanks piece, ?_, rfl⟩
      rw [inPieces, List.singleton_append, logicalLines]
      exact if_neg (of_decide_eq_false hcontinued)
    | cons next rest =>
      have hrest : ∀ p ∈ next :: rest, BeginsSolid p := hsolid
      have hflat : BeginsSolid (next :: rest).flatten := beginsSolid_flatten hrest
      rw [List.flatten_cons] at hcontinued
      obtain ⟨last, line, hlines, hsaid⟩ := ih (List.cons_ne_nil _ _)
        (fun p hp => hrest p (List.mem_cons_of_mem _ hp)) (hflat.isContinued_of_append hcontinued)
        (joined ++ piece.dropWhile Text.isBlank) (number + 1)
      refine ⟨last, line, ?_, ?_⟩
      · have htrim : Text.trimBlanks (piece ++ ['\\']) =
            piece.dropWhile Text.isBlank ++ ['\\'] := Text.trim_append_cons (by decide) piece []
        rw [inPieces, List.cons_append, logicalLines, htrim]
        · rw [if_pos List.getLast?_concat, List.dropLast_concat]
          exact hlines
        · exact List.cons_ne_nil _ _
      · rw [hsaid, withoutComment_append_trim, withoutComment_append_trim, hflat.dropWhile_eq,
          List.flatten_cons (l := piece), hflat.dropWhile_append, List.append_assoc]

end

/-! ## Physical lines in place of others -/

/-- Logical lines with the same settings, or a misread line in both of them. -/
def Alike (ls ms : List (Nat × List Char)) : Prop :=
  (settingsOfLines ls).toOption = (settingsOfLines ms).toOption

/-- Physical lines that can stand for others at the end of a file, whatever has come before. -/
def Interchangeable (lines others : List (List Char)) : Prop :=
  ∀ joined number count, Alike (logicalLines joined number lines) (logicalLines joined count others)

theorem alike_cons {ls ms : List (Nat × List Char)} {line other : List Char}
    (hsaid : withoutComment line = withoutComment other) (h : Alike ls ms) (number count : Nat) :
    Alike ((number, line) :: ls) ((count, other) :: ms) := by
  rw [Alike, settingsOfLines, settingsOfLines, hsaid]
  split
  · exact h
  · split
    · rfl
    · revert h
      rw [Alike]
      cases settingsOfLines ls <;> cases settingsOfLines ms <;> intro h <;> cases h <;> rfl

namespace Interchangeable

variable {lines others : List (List Char)}

theorem cons (h : Interchangeable lines others) (raw : List Char) :
    Interchangeable (raw :: lines) (raw :: others) := by
  intro joined number count
  rw [logicalLines, logicalLines]
  split
  · exact h _ _ _
  · exact alike_cons rfl (h _ _ _) _ _

theorem append (h : Interchangeable lines others) (before : List (List Char)) :
    Interchangeable (before ++ lines) (before ++ others) := by
  induction before with
  | nil => exact h
  | cons raw rest ih => exact ih.cons raw

protected theorem symm (h : Interchangeable lines others) : Interchangeable others lines :=
  fun joined number count => (h joined count number).symm

protected theorem trans {third : List (List Char)} (h : Interchangeable lines others)
    (h' : Interchangeable others third) : Interchangeable lines third :=
  fun joined number count => (h joined number number).trans (h' joined number count)

/-- The numbers of lines make no difference to their settings. -/
protected theorem refl (lines : List (List Char)) : Interchangeable lines lines := by
  have hend : Interchangeable [] [] := by
    intro joined number count
    rw [logicalLines, logicalLines]
    split
    · rfl
    · exact alike_cons rfl rfl _ _
  have happend := hend.append lines
  rwa [List.append_nil] at happend

/-- An empty line at the end of a file can be left out: what has been continued ends there. -/
theorem empty : Interchangeable [] [[]] := by
  intro joined number count
  have hline : logicalLines joined count [[]] = [(count + 1, joined ++ [])] := rfl
  rw [Alike, logicalLines, settingsOfLines_unless_empty, hline, List.append_nil]
  exact alike_cons rfl rfl _ _

end Interchangeable

/-- A line in pieces can stand for the whole line. -/
theorem interchangeable_inPieces {pieces : List (List Char)} (hne : pieces ≠ [])
    (hsolid : ∀ piece ∈ pieces.tail, BeginsSolid piece)
    (hcontinued : isContinued pieces.flatten = false) (after : List (List Char)) :
    Interchangeable (inPieces pieces ++ after) (pieces.flatten :: after) := by
  intro joined number count
  obtain ⟨last, line, hlines, hsaid⟩ :=
    logicalLines_inPieces hne hsolid hcontinued joined number after
  rw [hlines, logicalLines]
  rw [if_neg (of_decide_eq_false hcontinued)]
  exact alike_cons hsaid (Interchangeable.refl after _ _ _) _ _

/-- The lines of a file can stand for those that it was made of: only an empty one at the end can
get lost, if it has no line end. -/
theorem physicalLines_textOf {lines : List (List Char)} (hne : lines ≠ [])
    (hbreak : ∀ l ∈ lines, '\n' ∉ l) (ended : Bool) :
    Interchangeable (physicalLines (textOf lines ended).toList) lines := by
  rw [textOf, String.toList_ofList]
  induction lines with
  | nil => exact absurd rfl hne
  | cons line rest ih =>
    have hline : '\n' ∉ line := hbreak line List.mem_cons_self
    cases rest with
    | nil =>
      rw [List.intercalate_singleton]
      by_cases hempty : line = []
      · subst hempty
        cases ended
        · exact .empty
        · exact .refl _
      · rw [(hasLines_single hline hempty (by cases ended <;> simp)).physicalLines_eq]
        exact .refl _
    | cons next rest =>
      have hih := ih (List.cons_ne_nil _ _) fun l hl => hbreak l (List.mem_cons_of_mem _ hl)
      rw [List.intercalate_cons_cons, List.append_assoc, List.append_assoc, physicalLines,
        linesFrom_append hline, List.singleton_append, linesFrom, if_pos rfl, List.append_nil,
        List.reverse_reverse]
      exact hih.cons line

/-- Whether a line of a file is written in pieces makes no difference to the settings of the file.
-/
theorem settingsOfText_inPieces {before pieces after : List (List Char)} (hne : pieces ≠ [])
    (hbreak : ∀ l ∈ before ++ pieces ++ after, '\n' ∉ l)
    (hsolid : ∀ piece ∈ pieces.tail, BeginsSolid piece)
    (hcontinued : isContinued pieces.flatten = false) (ended : Bool) :
    (settingsOfText (textOf (before ++ inPieces pieces ++ after) ended)).toOption =
      (settingsOfText (textOf (before ++ pieces.flatten :: after) ended)).toOption := by
  rw [List.forall_mem_append, List.forall_mem_append] at hbreak
  obtain ⟨⟨hbefore, hpieces⟩, hafter⟩ := hbreak
  have hwhole : ∀ l ∈ before ++ pieces.flatten :: after, '\n' ∉ l :=
    List.forall_mem_append.2 ⟨hbefore, List.forall_mem_cons.2 ⟨by simpa using hpieces, hafter⟩⟩
  have hcut : ∀ l ∈ before ++ (inPieces pieces ++ after), '\n' ∉ l :=
    List.forall_mem_append.2
      ⟨hbefore, List.forall_mem_append.2 ⟨not_mem_inPieces hpieces, hafter⟩⟩
  have hpieces := (interchangeable_inPieces hne hsolid hcontinued after).append before
  rw [List.append_assoc]
  exact (((physicalLines_textOf (by simp [inPieces_ne_nil hne]) hcut ended).trans hpieces).trans
    (physicalLines_textOf (by simp) hwhole ended).symm) [] 0 0

end Settings

/-! ## Reading -/

/-- What reading a file does is up to the settings that it has. -/
theorem SettingsReader.perform_readPlain {r : SettingsReader} {w : Surroundings} {path : Value}
    {text : String} {settings : List (String × String)} (hfile : readFile w.files path = .ok text)
    (hsettings : settingsOfText text = .ok settings) (root : Nat) :
    (readPlain root path).perform (r, w) =
      (assignPairs root (settings.map fun s => .tuple [.text s.1, .text s.2])).perform (r, w) := by
  rw [readPlain, perform_get_bind]
  dsimp only
  rw [hfile, perform_bind_of_ok (perform_ofFault_ok _ _), hsettings]

namespace Session

/-- Two ways of changing the settings of a session that come to the same for its settings. -/
theorem onSettings_congr {α : Type} {s : Session} {listener : Value}
    {x y : SettingsReader.Acting α}
    (h : x.perform (⟨s.settings, s.listenerOf listener⟩, s.surroundings) =
      y.perform (⟨s.settings, s.listenerOf listener⟩, s.surroundings)) :
    (onSettings listener x).perform s = (onSettings listener y).perform s := by
  rw [onSettings, onSettings, perform_get_bind, perform_get_bind]
  dsimp only
  rw [h]

/-- A file in which one line is written in pieces is read like the file with the whole line: either
both have the same settings, with the same effect, or both have a misread line and change nothing.
-/
theorem readPlain_inPieces {s : Session} {before pieces after : List (List Char)}
    (hne : pieces ≠ []) (hbreak : ∀ l ∈ before ++ pieces ++ after, '\n' ∉ l)
    (hsolid : ∀ piece ∈ pieces.tail, BeginsSolid piece)
    (hcontinued : isContinued pieces.flatten = false) {ended : Bool} {whole cut : Value}
    (hwhole : SettingsReader.readFile s.files whole =
      .ok (textOf (before ++ pieces.flatten :: after) ended))
    (hcut : SettingsReader.readFile s.files cut =
      .ok (textOf (before ++ inPieces pieces ++ after) ended)) (listener : Value) (root : Nat) :
    let read := fun path => (onSettings listener (SettingsReader.readPlain root path)).perform s
    let wholeText := textOf (before ++ pieces.flatten :: after) ended
    let cutText := textOf (before ++ inPieces pieces ++ after) ended
    (∃ settings, settingsOfText wholeText = .ok settings ∧ settingsOfText cutText = .ok settings ∧
      read cut = read whole) ∨
    ∃ number count, settingsOfText wholeText = .error number ∧
      settingsOfText cutText = .error count ∧
      read whole = (.error (.badSetting number (whole.display s.view)), s) ∧
      read cut = (.error (.badSetting count (cut.display s.view)), s) := by
  intro read wholeText cutText
  have halike : (settingsOfText cutText).toOption = (settingsOfText wholeText).toOption :=
    settingsOfText_inPieces hne hbreak hsolid hcontinued ended
  cases hw : settingsOfText wholeText with
  | ok settings =>
    have hc : settingsOfText cutText = .ok settings := by
      rw [hw] at halike
      revert halike
      cases settingsOfText cutText <;> intro halike <;> cases halike
      rfl
    refine .inl ⟨settings, rfl, hc, onSettings_congr ?_⟩
    exact (SettingsReader.perform_readPlain hcut hc root).trans
      (SettingsReader.perform_readPlain hwhole hw root).symm
  | error number =>
    obtain ⟨count, hc⟩ : ∃ count, settingsOfText cutText = .error count := by
      rw [hw] at halike
      revert halike
      cases settingsOfText cutText with
      | ok settings => exact fun halike => nomatch halike
      | error count => exact fun _ => ⟨count, rfl⟩
    exact .inr ⟨number, count, rfl, hc, onSettings_readPlain_of_error hwhole hw listener root,
      onSettings_readPlain_of_error hcut hc listener root⟩

/-- A session with new settings and two files. -/
def withFiles (whole cut : String) : Session :=
  { withFile whole with
    files := { texts := [(["tmp", "work", "rc"], whole), (["tmp", "work", "cut"], cut)] } }

theorem readFile_withFiles (whole cut : String) :
    SettingsReader.readFile (withFiles whole cut).files (.text "rc") =
        .ok (String.ofList (Files.unifyLines whole.toList)) ∧
      SettingsReader.readFile (withFiles whole cut).files (.text "cut") =
        .ok (String.ofList (Files.unifyLines cut.toList)) := by
  have hwhole : (withFiles whole cut).files.resolve "rc" = .ok ["tmp", "work", "rc"] := by cbv
  have hcut : (withFiles whole cut).files.resolve "cut" = .ok ["tmp", "work", "cut"] := by cbv
  constructor
  · show (withFiles whole cut).files.readLines "rc" = _
    rw [Files.readLines, Files.read, hwhole]
    rfl
  · show (withFiles whole cut).files.readLines "cut" = _
    rw [Files.readLines, Files.read, hcut]
    rfl

/-- A file whose last line is cut inside its name, its value and its comment, and which ends right
behind a backslash. -/
theorem readPlain_inPieces_ending :
    let cutText := "a.b: 1\n solver.time\\\n_limit \\\n\\\n= 3\\\n0  # 5 \\\ns\\\n"
    let s := withFiles "a.b: 1\n solver.time_limit = 30  # 5 s" cutText
    let read := fun path : String =>
      (onSettings .nothing (SettingsReader.readPlain 1 (.text path))).perform s
    settingsOfText cutText = .ok [("a.b", "1"), ("solver.time_limit", "30")] ∧
      read "cut" = read "rc" := by
  intro cutText s read
  let pieces := [" solver.time", "_limit ", "", "= 3", "0  # 5 ", "s", ""].map String.toList
  have hread := readFile_withFiles "a.b: 1\n solver.time_limit = 30  # 5 s" cutText
  have hcut : settingsOfText cutText = .ok [("a.b", "1"), ("solver.time_limit", "30")] := by
    decide +kernel
  refine ⟨hcut, ?_⟩
  rcases @readPlain_inPieces s ["a.b: 1".toList] pieces [] (List.cons_ne_nil _ _)
    (by decide +kernel) (by decide +kernel) (by decide +kernel) false _ _
    (hread.1.trans (by decide +kernel)) (hread.2.trans (by decide +kernel)) .nothing 1
    with ⟨_, _, _, hread⟩ | ⟨_, _, _, herror, _⟩
  · exact hread
  · have htext : textOf (["a.b: 1".toList] ++ inPieces pieces ++ []) false = cutText := by
      decide +kernel
    rw [htext, hcut] at herror
    cases herror

end Session

end Milp

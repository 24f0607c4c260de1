import Milp.Proofs.Settings.Plain
set_option autoImplicit false

/-! # Separators

A key and a text can be written on a line with an equals sign or with a colon between them. An equals
sign anywhere on the line comes before any colon, so a line with an equals sign always reads back
(`Entry.holds_equals`), and one with a colon does if there is no equals sign in the text
(`Entry.holds_colon`). Else the line is divided at the first equals sign of the text
(`Entry.holds_colon_equals`). -/

namespace Milp

open Milp.Action Milp.Settings

namespace Settings

/-! ## Files of one line -/

/-- Whether a physical line goes on with the next one. -/
def isContinued (raw : List Char) : Bool := (Text.trimBlanks raw).getLast? = some '\\'

section

variable {line : List Char}

/-- A line is the only one of its file, whether it is ended or not. -/
theorem hasLines_single (h : '\n' ∉ line) (hne : line ≠ []) {ending : List Char}
    (hending : ending = [] ∨ ending = ['\n']) : HasLines (line ++ ending) [line] := by
  rcases hending with rfl | rfl
  · rw [List.append_nil]
    exact .unended hne h
  · exact .ended h .none

/-- Blanks at the ends of a line do not count. -/
theorem Holds.trimmed {said : List Char} {setting : String × String}
    (h : Holds said (some setting)) : Holds (Text.trimBlanks said) (some setting) := by
  have hstart {a : List Char} {name : String} (ha : IsTrimmed a name.toList) :
      IsTrimmed (a.dropWhile Text.isBlank) name.toList :=
    isTrimmed_iff.2 ((Text.trim_dropWhile _ _).trans ha.trimBlanks_eq)
  have hend {b : List Char} {text : String} (hb : IsTrimmed b text.toList) :
      IsTrimmed (b.rdropWhile Text.isBlank) text.toList :=
    isTrimmed_iff.2 ((Text.trim_rdropWhile _ _).trans hb.trimBlanks_eq)
  have hfirst {a : List Char} {c : Char} (hc : c ∉ a) : c ∉ a.dropWhile Text.isBlank :=
    fun h => hc ((List.dropWhile_sublist _).subset h)
  cases h with
  | @equals a b _ _ ha hname htext =>
    rw [Text.trimBlanks, Text.trim_append_cons (by decide)]
    exact .equals (hfirst ha) (hstart hname) (hend htext)
  | @colon a b _ _ hequals ha hname htext =>
    rw [Text.trimBlanks, Text.trim_append_cons (by decide)]
    rw [List.mem_append, not_or] at hequals
    refine .colon ?_ (hfirst ha) (hstart hname) (hend htext)
    rw [List.mem_append, not_or]
    exact ⟨hfirst hequals.1, fun h => hequals.2 ((List.rdropWhile_prefix _ _).subset h)⟩

/-- A file of one line holds what that line says. -/
theorem settingsOfText_line {setting : String × String} {ending : List Char}
    (hbreak : '\n' ∉ line) (hcomment : '#' ∉ line) (hcontinued : isContinued line = false)
    (hheld : Holds line (some setting)) (hending : ending = [] ∨ ending = ['\n']) :
    settingsOfText (String.ofList (line ++ ending)) = .ok [setting] := by
  have hne : line ≠ [] := by
    rintro rfl
    generalize hnil : ([] : List Char) = said at hheld
    cases hheld with
    | equals => simp at hnil
    | colon => simp at hnil
  have hlines : HasLogicalLines (String.ofList (line ++ ending)) [⟨1, Text.trimBlanks line⟩] := by
    refine ⟨[line], ?_, .single (isTrimmed_trimBlanks line) (of_decide_eq_false hcontinued) .none⟩
    rw [String.toList_ofList]
    exact hasLines_single hbreak hne hending
  have huncommented : (Text.trimBlanks line).takeWhile (· ≠ '#') = Text.trimBlanks line :=
    List.takeWhile_eq_self_iff.2
      (all_ne_of_not_mem fun h => hcomment (Text.mem_of_mem_trim h))
  have hsaid : Holds (LogicalLine.mk 1 (Text.trimBlanks line)).said (some setting) := by
    rw [LogicalLine.said, huncommented]
    exact hheld.trimmed
  exact (settingsOfText_of_holds hlines (.cons hsaid .nil)).trans rfl

end

/-! ## Keys and texts -/

/-- A key and a text for one line of a file, with blanks around the separator. -/
structure Entry where
  key : String
  before : List Char
  after : List Char
  text : String
  key_solid : ∀ c ∈ key.toList, Text.isBlank c = false ∧ c ∉ ['=', ':', '#']
  before_blank : ∀ c ∈ before, Text.isBlank c = true ∧ c ≠ '\n'
  after_blank : ∀ c ∈ after, Text.isBlank c = true ∧ c ≠ '\n'
  text_trimmed : Text.trimBlanks text.toList = text.toList
  text_plain : ∀ c ∈ text.toList, c ∉ ['#', '\n']
  text_ended : text.toList.getLast? ≠ some '\\'

namespace Entry

variable (e : Entry)

/-- The line with a separator. -/
def line (mark : Char) : List Char := e.key.toList ++ e.before ++ mark :: (e.after ++ e.text.toList)

theorem not_mem_start {c : Char} (hc : c ∈ ['=', ':', '#', '\n']) :
    c ∉ e.key.toList ++ e.before := by
  have hsolid : ∀ c ∈ ['=', ':', '#', '\n'],
      ¬(Text.isBlank c = false ∧ c ∉ ['=', ':', '#']) := List.all_iff_forall_prop.1 (by decide)
  have hblank : ∀ c ∈ ['=', ':', '#', '\n'], ¬(Text.isBlank c = true ∧ c ≠ '\n') :=
    List.all_iff_forall_prop.1 (by decide)
  rw [List.mem_append, not_or]
  exact ⟨fun h => hsolid c hc (e.key_solid c h), fun h => hblank c hc (e.before_blank c h)⟩

theorem not_mem_end {c : Char} (hc : c ∈ ['#', '\n']) : c ∉ e.after ++ e.text.toList := by
  have hblank : ∀ c ∈ ['#', '\n'], ¬(Text.isBlank c = true ∧ c ≠ '\n') :=
    List.all_iff_forall_prop.1 (by decide)
  rw [List.mem_append, not_or]
  exact ⟨fun h => hblank c hc (e.after_blank c h), fun h => e.text_plain c h hc⟩

theorem equals_not_mem_end (h : '=' ∉ e.text.toList) : '=' ∉ e.after ++ e.text.toList := by
  rw [List.mem_append, not_or]
  exact ⟨fun hmem => absurd (e.after_blank _ hmem).1 (by decide), h⟩

theorem not_mem_line {c mark : Char} (hc : c ∈ ['#', '\n']) (hmark : mark = '=' ∨ mark = ':') :
    c ∉ e.line mark := by
  have hne : c ≠ mark := by
    have hall : ∀ c ∈ ['#', '\n'], c ≠ '=' ∧ c ≠ ':' := List.all_iff_forall_prop.1 (by decide)
    rcases hmark with rfl | rfl
    · exact (hall c hc).1
    · exact (hall c hc).2
  rw [line, List.mem_append, List.mem_cons, not_or, not_or]
  exact ⟨e.not_mem_start (List.mem_cons_of_mem _ (List.mem_cons_of_mem _ hc)), hne,
    e.not_mem_end hc⟩

/-- No backslash stands at the end of the line, where it would go on. -/
theorem isContinued_line {mark : Char} (hmark : mark = '=' ∨ mark = ':') :
    isContinued (e.line mark) = false := by
  have hsolid : Text.isBlank mark = false := by
    rcases hmark with rfl | rfl <;> decide
  have hlast : (mark :: (e.after ++ e.text.toList).rdropWhile Text.isBlank).getLast? ≠
      some '\\' := by
    rcases List.eq_nil_or_concat e.text.toList with htext | ⟨start, c, htext⟩
    · rw [htext, List.append_nil,
        List.rdropWhile_eq_nil_iff.2 fun c hc => (e.after_blank c hc).1]
      rcases hmark with rfl | rfl <;> decide
    · have hc : Text.isBlank c = false := by
        apply Text.getLast_trim (p := Text.isBlank) (s := e.text.toList)
        rw [← Text.trimBlanks, e.text_trimmed, htext, List.concat_eq_append, List.getLast?_concat]
      have hended := e.text_ended
      rw [htext, List.concat_eq_append, List.getLast?_concat] at hended
      rw [htext, List.concat_eq_append, ← List.append_assoc, Text.rdropWhile_append_cons hc,
        List.rdropWhile_nil, ← List.cons_append, List.getLast?_concat]
      exact hended
  rw [isContinued, line, Text.trimBlanks, Text.trim_append_cons hsolid,
    List.getLast?_append_of_ne_nil _ (List.cons_ne_nil _ _)]
  exact decide_eq_false hlast

theorem trimmed_start : IsTrimmed (e.key.toList ++ e.before) e.key.toList :=
  isTrimmed_iff.2 ((Text.trim_append_right (fun c hc => (e.before_blank c hc).1) _).trans
    (Text.trim_of_solid fun c hc => (e.key_solid c hc).1))

theorem trimmed_end : IsTrimmed (e.after ++ e.text.toList) e.text.toList :=
  isTrimmed_iff.2 ((Text.trim_append_left (fun c hc => (e.after_blank c hc).1) _).trans
    e.text_trimmed)

/-- With an equals sign the key and the text are held as they are. -/
theorem holds_equals : Holds (e.line '=') (some (e.key, e.text)) :=
  .equals (e.not_mem_start (by decide)) e.trimmed_start e.trimmed_end

/-- With a colon the key and the text are held as they are, if there is no equals sign. -/
theorem holds_colon (h : '=' ∉ e.text.toList) : Holds (e.line ':') (some (e.key, e.text)) := by
  refine .colon ?_ (e.not_mem_start (by decide)) e.trimmed_start e.trimmed_end
  rw [List.mem_append, not_or]
  exact ⟨e.not_mem_start (by decide), e.equals_not_mem_end h⟩

/-- With a colon a text is divided at its first equals sign, and the part before belongs to the
name. -/
theorem holds_colon_equals {a b : List Char} (htext : e.text.toList = a ++ '=' :: b)
    (ha : '=' ∉ a) :
    Holds (e.line ':')
      (some (String.ofList (Text.trimBlanks (e.key.toList ++ e.before ++ ':' :: (e.after ++ a))),
        String.ofList (Text.trimBlanks b))) := by
  have hsplit : e.line ':' =
      (e.key.toList ++ e.before ++ ':' :: (e.after ++ a)) ++ '=' :: b := by
    rw [line, htext]
    simp
  have hnone : '=' ∉ e.key.toList ++ e.before ++ ':' :: (e.after ++ a) := by
    rw [List.mem_append, List.mem_cons, List.mem_append (s := e.after), not_or, not_or, not_or]
    exact ⟨e.not_mem_start (by decide), by decide,
      fun hmem => absurd (e.after_blank _ hmem).1 (by decide), ha⟩
  rw [hsplit]
  refine .equals hnone ?_ ?_
  · rw [String.toList_ofList]
    exact isTrimmed_trimBlanks _
  · rw [String.toList_ofList]
    exact isTrimmed_trimBlanks _

/-- A limit on the time with a colon in it. -/
def limit : Entry where
  key := "solver.time_limit"
  before := []
  after := [' ']
  text := "1:30"
  key_solid := List.all_iff_forall_prop.1 (by decide +kernel)
  before_blank := List.all_iff_forall_prop.1 (by decide)
  after_blank := List.all_iff_forall_prop.1 (by decide)
  text_trimmed := by decide +kernel
  text_plain := List.all_iff_forall_prop.1 (by decide +kernel)
  text_ended := by decide +kernel

end Entry

end Settings

/-! ## Reading back -/

namespace Session

/-- A key whose way leads to settings gets the text that is written behind an equals sign, or behind a
colon if there is no equals sign in the text. Behind a colon, a text with an equals sign is divided
there, and what comes before belongs to the name. -/
theorem readPlain_separated {s : Session} (e : Entry) {root i : Nat} {n : SettingsNode}
    (hway : s.settings.follow s.view (.ref (.settings root))
      (SettingsStore.components e.key).dropLast = .ok (.ref (.settings i)))
    (hnode : s.settings.node? i = some n) (hkind : n.kind ≠ .plain) {mark : Char}
    {ending : List Char} (hending : ending = [] ∨ ending = ['\n']) {path : Value}
    (hfile : SettingsReader.readFile s.files path = .ok (String.ofList (e.line mark ++ ending)))
    {listener : Value} (hdeaf : (s.listenerOf listener).isDeaf = false) :
    let read := (onSettings listener (SettingsReader.readPlain root path)).perform s
    let last := (SettingsStore.components e.key).getLast (SettingsStore.components_ne_nil _)
    (mark = '=' ∨ mark = ':' ∧ '=' ∉ e.text.toList →
      ∃ t, read = (.ok (), t) ∧
        t.settings = s.settings.modify i (·.set (.text last) (.text e.text)) ∧
        (t.settings.node? i).bind (·.get? (.text last)) = some (.text e.text)) ∧
    (mark = ':' → ∀ a b, e.text.toList = a ++ '=' :: b → '=' ∉ a →
      ∃ t, read = (.ok (), t) ∧ t.settings = s.settings.applied s.view root
        (String.ofList (Text.trimBlanks (e.key.toList ++ e.before ++ ':' :: (e.after ++ a))),
          String.ofList (Text.trimBlanks b))) := by
  intro read last
  have hread {setting : String × String} (hmark : mark = '=' ∨ mark = ':')
      (hheld : Holds (e.line mark) (some setting)) :
      ∃ t, read = (.ok (), t) ∧ t.settings = s.settings.applied s.view root setting := by
    obtain ⟨t, ht, hset⟩ := onSettings_readPlain_of_ok hdeaf hfile
      (settingsOfText_line (e.not_mem_line (by decide) hmark) (e.not_mem_line (by decide) hmark)
        (e.isContinued_line hmark) hheld hending) root
    rw [List.foldl_cons, List.foldl_nil] at hset
    exact ⟨t, ht, hset⟩
  refine ⟨fun hmark => ?_, fun hmark a b htext ha => ?_⟩
  · have hheld : Holds (e.line mark) (some (e.key, e.text)) := by
      rcases hmark with hmark | ⟨hmark, htext⟩
      · rw [hmark]
        exact e.holds_equals
      · rw [hmark]
        exact e.holds_colon htext
    obtain ⟨t, ht, hset⟩ := hread (hmark.imp_right And.left) hheld
    rw [SettingsStore.applied_of_node hway hnode hkind] at hset
    refine ⟨t, ht, hset, ?_⟩
    rw [hset]
    exact SettingsStore.get?_modify_set hnode _ _
  · have hheld := e.holds_colon_equals htext ha
    rw [← hmark] at hheld
    obtain ⟨t, ht, hset⟩ := hread (.inr hmark) hheld
    rw [hmark] at hset
    exact ⟨t, ht, hset⟩

/-- A text with a colon in it behind a colon. -/
theorem readPlain_separated_colons :
    let s := withFile "solver.time_limit: 1:30"
    ∃ t, (onSettings .nothing (SettingsReader.readPlain 1 (.text "rc"))).perform s = (.ok (), t) ∧
      ((t.settings.node? 0).bind (·.get? (.text "time_limit"))).any (·.same (.text "1:30")) =
        true := by
  intro s
  let e := Entry.limit
  have hfile : SettingsReader.readFile s.files (.text "rc") =
      .ok (String.ofList (e.line ':' ++ [])) :=
    (readFile_withFile _).trans (by decide +kernel)
  have hway : s.settings.follow s.view (.ref (.settings 1))
      (SettingsStore.components e.key).dropLast = .ok (.ref (.settings 0)) := by
    have hcomponents : (SettingsStore.components e.key).dropLast = ["solver"] := by decide +kernel
    rw [hcomponents, SettingsStore.follow, List.foldlM_cons]
    show SettingsStore.setting (.newGeneral 0) "solver" >>= _ = _
    rw [SettingsStore.setting_newGeneral]
    rfl
  have hnode : s.settings.node? 0 = some .newSolver := rfl
  have hdeaf : (s.listenerOf .nothing).isDeaf = false := rfl
  have hlast : (SettingsStore.components e.key).getLast (SettingsStore.components_ne_nil _) =
      "time_limit" := by decide +kernel
  obtain ⟨t, ht, -, hvalue⟩ := (readPlain_separated e hway hnode (by decide) (.inl rfl) hfile
    hdeaf).1 (.inr ⟨rfl, by decide +kernel⟩)
  refine ⟨t, ht, ?_⟩
  rw [← hlast, hvalue]
  rfl

/-- A text with an equals sign behind a colon does not reach its key. -/
theorem colon_equals_misread :
    let s := withFile "solver.agent: a=b"
    ∃ t, (onSettings .nothing (SettingsReader.readPlain 1 (.text "rc"))).perform s = (.ok (), t) ∧
      ((t.settings.node? 0).any fun n => (n.get? (.text "agent")).any (·.same .nothing) &&
        (n.get? (.text "agent: a")).any (·.same (.text "b"))) = true := by
  intro s
  have hsettings : settingsOfText (String.ofList (Files.unifyLines "solver.agent: a=b".toList)) =
      .ok [("solver.agent: a", "b")] := by
    decide +kernel
  have hdeaf : (s.listenerOf .nothing).isDeaf = false := rfl
  obtain ⟨t, ht, hset⟩ := onSettings_readPlain_of_ok hdeaf (readFile_withFile _) hsettings 1
  refine ⟨t, ht, ?_⟩
  rw [hset]
  decide +kernel

end Session

end Milp

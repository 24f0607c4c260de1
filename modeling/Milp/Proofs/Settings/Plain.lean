import Milp.Proofs.Handler
import Milp.Proofs.Settings.Line
import Milp.Proofs.Settings.Way
import Mathlib
set_option autoImplicit false

/-! # Reading plain files

A plain file is read as a whole before anything is set. So either one of its logical lines is misread,
and nothing is changed, or its settings are set in their order, each as far as its name leads to
something (`Session.readPlain_in_order`). -/

namespace Milp

open Milp.Action Milp.Settings

/-! ## Listeners -/

namespace Listener

/-- Whether a listener cannot be told anything. -/
def isDeaf : Listener → Bool
  | .deaf _ _ => true
  | _ => false

/-- A listener whose handler has changed. -/
def told (change : Handler → Handler) : Listener → Listener
  | .handler h inModel => .handler (change h) inModel
  | l => l

theorem told_id (l : Listener) : l.told id = l := by
  cases l <;> rfl

theorem told_told (f g : Handler → Handler) (l : Listener) : (l.told f).told g = l.told (g ∘ f) := by
  cases l <;> rfl

theorem isDeaf_told (f : Handler → Handler) (l : Listener) : (l.told f).isDeaf = l.isDeaf := by
  cases l <;> rfl

theorem of_told {f : Handler → Handler} {l : Listener} {h' : Handler} {inModel : Bool}
    (hl : l.told f = .handler h' inModel) : ∃ h, l = .handler h inModel ∧ f h = h' := by
  cases l with
  | nobody => cases hl
  | deaf truth refusal => cases hl
  | handler h inModel =>
    cases hl
    exact ⟨h, rfl, rfl⟩

end Listener

namespace SettingsReader

variable {r : SettingsReader} {w : Surroundings}

theorem perform_tellIgnored (hdeaf : r.listener.isDeaf = false) (name : Value) :
    ∃ change log, (tellIgnored name).perform (r, w) =
      (.ok (), { r with listener := r.listener.told change }, { w with log }) := by
  obtain ⟨store, listener⟩ := r
  cases listener with
  | nobody => exact ⟨id, w.log, rfl⟩
  | deaf truth refusal => cases hdeaf
  | handler h inModel =>
    obtain ⟨records, hreport⟩ := Handler.perform_report .warning
      (fun view => "Ignoring undefined attribute : " ++ name.display view) h w
    refine ⟨fun h => h.count .warning, w.log ++ records, ?_⟩
    rw [tellIgnored, perform_get_bind]
    dsimp only
    rw [reportTo, perform_get_bind]
    dsimp only
    rw [hreport]
    rfl

/-! ## Settings in order -/

/-- A name is set or passed over, whatever it leads to. -/
theorem perform_assignPair (hview : w.view.OnlyMisses) (hdeaf : r.listener.isDeaf = false)
    (root : Nat) (setting : String × String) :
    ∃ change log, (assignPair root (.text setting.1) (.text setting.2)).perform (r, w) =
      (.ok (), { store := r.store.applied w.view root setting,
                 listener := r.listener.told change }, { w with log }) := by
  rw [assignPair, current, bind_assoc, perform_get_bind, perform_pure_bind, perform_get_bind]
  dsimp only
  rw [SettingsStore.applied]
  cases hassigned : r.store.assignDotted w.view root setting.1 (.text setting.2) with
  | ok store =>
    refine ⟨id, w.log, ?_⟩
    rw [Listener.told_id]
    rfl
  | error f =>
    dsimp only
    rw [if_pos (SettingsStore.assignDotted_kind hview hassigned)]
    exact perform_tellIgnored hdeaf _

/-- Settings are set one after the other. -/
theorem perform_assignPairs (hview : w.view.OnlyMisses) (hdeaf : r.listener.isDeaf = false)
    (root : Nat) (settings : List (String × String)) :
    ∃ change log,
      (assignPairs root (settings.map fun s => .tuple [.text s.1, .text s.2])).perform (r, w) =
        (.ok (), { store := settings.foldl (SettingsStore.applied w.view root) r.store,
                   listener := r.listener.told change }, { w with log }) := by
  induction settings generalizing r w with
  | nil =>
    refine ⟨id, w.log, ?_⟩
    rw [Listener.told_id]
    rfl
  | cons setting rest ih =>
    obtain ⟨change, log, hfirst⟩ := perform_assignPair hview hdeaf root setting
    obtain ⟨change', log', hrest⟩ := ih
      (r := { store := r.store.applied w.view root setting, listener := r.listener.told change })
      (w := { w with log }) hview ((Listener.isDeaf_told _ _).trans hdeaf)
    refine ⟨change' ∘ change, log', ?_⟩
    have hpair : (Value.tuple [.text setting.1, .text setting.2]).elements w.view =
        .ok (.finite [.text setting.1, .text setting.2]) := rfl
    rw [List.map_cons, assignPairs, perform_get_bind]
    dsimp only
    rw [hpair, perform_bind_of_ok (perform_ofFault_ok _ _)]
    dsimp only
    rw [perform_bind_of_ok hfirst, hrest, Listener.told_told]
    rfl

/-- Reading a file sets its settings in order. -/
theorem perform_readPlain_of_ok (hview : w.view.OnlyMisses) (hdeaf : r.listener.isDeaf = false)
    {path : Value} {text : String} {settings : List (String × String)}
    (hfile : readFile w.files path = .ok text) (hsettings : settingsOfText text = .ok settings)
    (root : Nat) :
    ∃ change log, (readPlain root path).perform (r, w) =
      (.ok (), { store := settings.foldl (SettingsStore.applied w.view root) r.store,
                 listener := r.listener.told change }, { w with log }) := by
  rw [readPlain, perform_get_bind]
  dsimp only
  rw [hfile, perform_bind_of_ok (perform_ofFault_ok _ _), hsettings]
  exact perform_assignPairs hview hdeaf root settings

/-- Reading a file changes nothing if a line is misread. -/
theorem perform_readPlain_of_error {path : Value} {text : String} {line : Nat}
    (hfile : readFile w.files path = .ok text) (hline : settingsOfText text = .error line)
    (root : Nat) :
    (readPlain root path).perform (r, w) =
      (.error (.badSetting line (path.display w.view)), r, w) := by
  rw [readPlain, perform_get_bind]
  dsimp only
  rw [hfile, perform_bind_of_ok (perform_ofFault_ok _ _), hline]
  rfl

end SettingsReader

/-! ## In sessions -/

namespace Session

/-- A session with new settings and one file. -/
def withFile (text : String) : Session :=
  { settings := (SettingsStore.addDefault {}).2, files := { texts := [(["tmp", "work", "rc"], text)] } }

theorem readFile_withFile (text : String) :
    SettingsReader.readFile (withFile text).files (.text "rc") =
      .ok (String.ofList (Files.unifyLines text.toList)) := by
  have hplace : (withFile text).files.resolve "rc" = .ok ["tmp", "work", "rc"] := by cbv
  show (withFile text).files.readLines "rc" = _
  rw [Files.readLines, Files.read, hplace]
  rfl

/-- A handler that is put back has changed nothing unless it has changed itself. -/
theorem perform_onHandler {s : Session} {place : HandlerRef} {h : Handler}
    (hplace : s.handlerAt? place = some h) (h' : Handler) :
    ∃ t, (onHandler place (modify fun (_, w) => (h', w))).perform s = (.ok ⟨⟩, t) ∧
      t.settings = s.settings ∧ (h' = h → t = s) := by
  cases place with
  | free i =>
    have hi : s.handlers[i]? = some h := hplace
    refine ⟨{ s with handlers := s.handlers.set i h' }, ?_, rfl, ?_⟩
    · rw [onHandler, onPart, perform_get_bind, hi]
      rfl
    · rintro rfl
      rw [List.getElem?_eq_some_iff] at hi
      obtain ⟨hlt, rfl⟩ := hi
      rw [List.set_getElem_self]
  | ofModel i =>
    obtain ⟨m, hi, rfl⟩ := Option.map_eq_some_iff.1 hplace
    refine ⟨{ s with models := s.models.set i { m with handler := h' } }, ?_, rfl, ?_⟩
    · rw [onHandler, onModel, onPart, perform_get_bind, hi]
      rfl
    · rintro rfl
      rw [List.getElem?_eq_some_iff] at hi
      obtain ⟨hlt, rfl⟩ := hi
      rw [List.set_getElem_self]

theorem handlerAt?_of_listener {s : Session} {place : HandlerRef} {h : Handler} {inModel : Bool}
    (hl : s.listenerOf (.ref (.handler place)) = .handler h inModel) :
    s.handlerAt? place = some h := by
  dsimp only [listenerOf] at hl
  cases hplace : s.handlerAt? place <;> rw [hplace] at hl <;> cases hl
  rfl

theorem handlerAt?_of_listener_model {s : Session} {i : Nat} {h : Handler} {inModel : Bool}
    (hl : s.listenerOf (.ref (.model i)) = .handler h inModel) :
    s.handlerAt? (.ofModel i) = some h := by
  dsimp only [listenerOf] at hl
  rw [handlerAt?]
  cases hi : s.models[i]? <;> rw [hi] at hl <;> cases hl
  rfl

/-- What a listener has been told is kept where it belongs. -/
theorem perform_onSettings {α : Type} {s : Session} {listener : Value}
    {x : SettingsReader.Acting α} {outcome : Except Failure α} {store : SettingsStore}
    {change : Handler → Handler} {log : List LogRecord}
    (h : x.perform ({ store := s.settings, listener := s.listenerOf listener }, s.surroundings) =
      (outcome, { store, listener := (s.listenerOf listener).told change },
        { s.surroundings with log })) :
    ∃ t, (onSettings listener x).perform s = (outcome, t) ∧ t.settings = store ∧
      (change = id → t = { s with settings := store, log }) := by
  have hend (u : Session) : (Action.ofExcept outcome : Acting α).perform u = (outcome, u) := by
    cases outcome <;> rfl
  have hputBack {place : HandlerRef} {h : Handler} (hplace : s.handlerAt? place = some h) :
      ∃ t, (onHandler place (modify fun (_, w) => (change h, w)) >>= fun _ =>
          Action.ofExcept outcome).perform { s with settings := store, log } = (outcome, t) ∧
        t.settings = store ∧ (change = id → t = { s with settings := store, log }) := by
    obtain ⟨t, ht, hsettings, hsame⟩ :=
      perform_onHandler (s := { s with settings := store, log }) (h := h) hplace (change h)
    exact ⟨t, by rw [perform_bind_of_ok ht, hend], hsettings, fun hc => hsame (congrFun hc h)⟩
  rw [onSettings, perform_get_bind]
  dsimp only
  rw [h]
  dsimp only
  rw [perform_set_bind]
  split
  · rename_i htold
    obtain ⟨h, hl, rfl⟩ := Listener.of_told htold
    exact hputBack (handlerAt?_of_listener hl)
  · rename_i htold
    obtain ⟨h, hl, rfl⟩ := Listener.of_told htold
    exact hputBack (handlerAt?_of_listener_model hl)
  · exact ⟨_, hend _, rfl, fun _ => rfl⟩

theorem onSettings_readPlain_of_ok {s : Session} {listener path : Value} {text : String}
    {settings : List (String × String)} (hdeaf : (s.listenerOf listener).isDeaf = false)
    (hfile : SettingsReader.readFile s.files path = .ok text)
    (hsettings : settingsOfText text = .ok settings) (root : Nat) :
    ∃ t, (onSettings listener (SettingsReader.readPlain root path)).perform s = (.ok (), t) ∧
      t.settings = settings.foldl (SettingsStore.applied s.view root) s.settings := by
  obtain ⟨change, log, hset⟩ := SettingsReader.perform_readPlain_of_ok (w := s.surroundings)
    (r := ⟨s.settings, s.listenerOf listener⟩) s.onlyMisses_view hdeaf hfile hsettings root
  obtain ⟨t, ht, hstore, -⟩ := perform_onSettings hset
  exact ⟨t, ht, hstore⟩

theorem onSettings_readPlain_of_error {s : Session} {path : Value} {text : String} {line : Nat}
    (hfile : SettingsReader.readFile s.files path = .ok text)
    (hline : settingsOfText text = .error line) (listener : Value) (root : Nat) :
    (onSettings listener (SettingsReader.readPlain root path)).perform s =
      (.error (.badSetting line (path.display s.view)), s) := by
  have hkept : (SettingsReader.readPlain root path).perform
      (⟨s.settings, s.listenerOf listener⟩, s.surroundings) =
        (.error (.badSetting line (path.display s.view)),
          { store := s.settings, listener := (s.listenerOf listener).told id },
          { s.surroundings with log := s.log }) := by
    rw [Listener.told_id]
    exact SettingsReader.perform_readPlain_of_error hfile hline root
  obtain ⟨t, ht, -, hsame⟩ := perform_onSettings hkept
  rw [ht, hsame rfl]

/-- Reading a plain file changes nothing if one of its logical lines is misread: the first such line
is reported with the number of its last physical line. Else the settings that the lines hold are set in
their order; only a listener that cannot be told anything would get in the way. A name whose way leads
to settings sets its last component there, and one whose way leads nowhere changes nothing. -/
theorem readPlain_in_order {s : Session} {path : Value} {text : String}
    (hfile : SettingsReader.readFile s.files path = .ok text) (listener : Value) (root : Nat) :
    let read := (onSettings listener (SettingsReader.readPlain root path)).perform s
    (∃ lines, HasLogicalLines text lines ∧
      ((∃ before line after, lines = before ++ line :: after ∧ (∀ l ∈ before, ¬IsMisread l.said) ∧
        IsMisread line.said) ∨ ∃ held, List.Forall₂ (fun l => Holds l.said) lines held)) ∧
      (∀ lines, HasLogicalLines text lines →
        (∀ before line after, lines = before ++ line :: after →
          (∀ l ∈ before, ¬IsMisread l.said) → IsMisread line.said →
            read = (.error (.badSetting ((before ++ [line]).map LogicalLine.size).sum
              (path.display s.view)), s)) ∧
        ∀ held, List.Forall₂ (fun l => Holds l.said) lines held →
          (s.listenerOf listener).isDeaf = false →
            ∃ t, read = (.ok (), t) ∧ t.settings =
              held.reduceOption.foldl (SettingsStore.applied s.view root) s.settings) ∧
      (∀ (store : SettingsStore) (i : Nat) (n : SettingsNode) (key value : String),
        store.follow s.view (.ref (.settings root)) (SettingsStore.components key).dropLast =
            .ok (.ref (.settings i)) →
          store.node? i = some n → n.kind ≠ .plain →
            store.applied s.view root (key, value) = store.modify i
              (·.set (.text ((SettingsStore.components key).getLast
                (SettingsStore.components_ne_nil key))) (.text value))) ∧
      ∀ (store : SettingsStore) (setting : String × String) (f : Fault),
        store.follow s.view (.ref (.settings root))
            (SettingsStore.components setting.1).dropLast = .error f →
          store.applied s.view root setting = store := by
  intro read
  obtain ⟨lines, hlines⟩ := exists_hasLogicalLines text
  refine ⟨⟨lines, hlines, misread_or_hold lines⟩, fun lines hlines => ⟨?_, ?_⟩,
    fun _ _ _ _ value hway hnode hkind => SettingsStore.applied_of_node hway hnode hkind value,
    fun _ _ _ => SettingsStore.applied_of_missing⟩
  · rintro before line after rfl hbefore hline
    exact onSettings_readPlain_of_error hfile (settingsOfText_of_misread hlines hbefore hline)
      listener root
  · intro held hheld hdeaf
    exact onSettings_readPlain_of_ok hdeaf hfile (settingsOfText_of_holds hlines hheld) root

/-- Four lines, of which the third one goes on, are three logical lines. -/
theorem hasLogicalLines_four {a b c d x y z w : List Char}
    (hbreak : ∀ l ∈ [a, b, c, d], '\n' ∉ l) (hne : d ≠ []) (ha : Text.trimBlanks a = x)
    (hb : Text.trimBlanks b = y) (hc : Text.trimBlanks c = z ++ ['\\']) (hd : Text.trimBlanks d = w)
    (hended : ∀ l ∈ [x, y, w], l.getLast? ≠ some '\\') :
    HasLogicalLines (String.ofList (['\n'].intercalate [a, b, c, d]))
      [⟨1, x⟩, ⟨1, y⟩, ⟨2, z ++ w⟩] := by
  simp only [List.forall_mem_cons] at hended
  obtain ⟨hx, hy, hw, -⟩ := hended
  exact ⟨[a, b, c, d], hasLines_intercalate hbreak (by simpa using hne),
    .single (isTrimmed_iff.2 ha) hx (.single (isTrimmed_iff.2 hb) hy
      (.joined (isTrimmed_iff.2 hc) (.single (isTrimmed_iff.2 hd) hw .none)))⟩

/-- A file whose third logical line is no setting sets nothing, not even what stands before that
line. In another one a name leads nowhere, and a line goes on. -/
theorem readPlain_in_order_four :
    let read := onSettings .nothing (SettingsReader.readPlain 1 (.text "rc"))
    (let s := withFile "solver.agent = zero\n# a\nsolver.time\\\n_limit 30"
     read.perform s = (.error (.badSetting 4 "rc"), s)) ∧
    let s := withFile "a.b: 1\n# a\nsolver.time_limit = 3\\\n0 # s"
    ∃ t, read.perform s = (.ok (), t) ∧
      ((t.settings.node? 0).bind (·.get? (.text "time_limit"))).any (·.same (.text "30")) = true := by
  intro read
  constructor
  · intro s
    have hfile := (readFile_withFile "solver.agent = zero\n# a\nsolver.time\\\n_limit 30").trans
      (congrArg (fun text => Except.ok (String.ofList text)) (by decide +kernel : _ =
        ['\n'].intercalate ["solver.agent = zero".toList, "# a".toList, "solver.time\\".toList,
          "_limit 30".toList]))
    have hlines := hasLogicalLines_four (a := "solver.agent = zero".toList) (b := "# a".toList)
      (c := "solver.time\\".toList) (d := "_limit 30".toList) (z := "solver.time".toList)
      (by decide +kernel) (by decide +kernel) rfl rfl (by decide +kernel) rfl (by decide +kernel)
    obtain ⟨-, hread, -⟩ := readPlain_in_order hfile .nothing 1
    exact (hread _ hlines).1 [_, _] _ [] rfl (by decide +kernel) (by decide +kernel)
  · intro s
    have hfile := (readFile_withFile "a.b: 1\n# a\nsolver.time_limit = 3\\\n0 # s").trans
      (congrArg (fun text => Except.ok (String.ofList text)) (by decide +kernel : _ =
        ['\n'].intercalate ["a.b: 1".toList, "# a".toList, "solver.time_limit = 3\\".toList,
          "0 # s".toList]))
    have hlines := hasLogicalLines_four (a := "a.b: 1".toList) (b := "# a".toList)
      (c := "solver.time_limit = 3\\".toList) (d := "0 # s".toList)
      (z := "solver.time_limit = 3".toList) (by decide +kernel) (by decide +kernel) rfl rfl
      (by decide +kernel) rfl (by decide +kernel)
    obtain ⟨-, hread, -⟩ := readPlain_in_order hfile .nothing 1
    have hmissing : Holds "a.b: 1".toList (some ("a.b", "1")) :=
      .colon (a := "a.b".toList) (b := " 1".toList) (by decide +kernel) (by decide +kernel)
        (isTrimmed_iff.2 (by decide +kernel)) (isTrimmed_iff.2 (by decide +kernel))
    have hlimit : Holds "solver.time_limit = 30 ".toList (some ("solver.time_limit", "30")) :=
      .equals (a := "solver.time_limit ".toList) (b := " 30 ".toList) (by decide +kernel)
        (isTrimmed_iff.2 (by decide +kernel)) (isTrimmed_iff.2 (by decide +kernel))
    obtain ⟨t, ht, hsettings⟩ := (hread _ hlines).2 _
      (.cons hmissing (.cons (.nothing (List.forall_mem_nil _)) (.cons hlimit .nil))) rfl
    refine ⟨t, ht, ?_⟩
    rw [hsettings]
    decide +kernel

end Session

end Milp

import Milp.Proofs.Engine.Attribute
import Milp.Proofs.Settings.Configuration
import Milp.Proofs.Settings.Plain
import Milp.Proofs.Settings.Script.Statement
set_option autoImplicit false

/-! # Which assignment a setting keeps

Plain files, scripts, quick names and tables of dotted names all assign known settings, each in its
own way. What a file assigns is said of the lines of its text (`SettingsReader.FileAssigns`). Each
source leads from one configuration to the next one (`SettingsReader.Turns`), so that new settings from
files end up with the last value that each known setting was given, files first and quick names after
them (`Session.newSettingsFromFiles_last`). -/

namespace Milp

open Milp.Action Milp.Settings

namespace SettingsReader

variable {s : SettingsStore} {l : Listener} {w : Surroundings} {c d : Configuration}

/-- A reader that has made a configuration of new settings, whatever it has told its listener. -/
def Has (s : SettingsStore) (l : Listener) (w : Surroundings) (c : Configuration)
    (x : SettingsReader × Surroundings) : Prop :=
  ∃ change log, x = (⟨c.above s, l.told change⟩, { w with log })

/-- An action that succeeds and makes one configuration of another. -/
def Turns (s : SettingsStore) (l : Listener) (w : Surroundings) (x : Acting Unit)
    (c d : Configuration) : Prop :=
  Leads (Has s l w c) x (fun _ => Has s l w d) fun _ => False

theorem Turns.bind {x y : Acting Unit} {e : Configuration} (hx : Turns s l w x c d)
    (hy : Turns s l w y d e) : Turns s l w (x >>= fun _ => y) c e :=
  Leads.bind hx fun _ => hy

theorem Turns.exists_perform {x : Acting Unit} (h : Turns s l w x c d)
    (change : Handler → Handler) (log : List LogRecord) :
    ∃ change' log', x.perform (⟨c.above s, l.told change⟩, { w with log }) =
      (.ok (), ⟨d.above s, l.told change'⟩, { w with log := log' }) := by
  have hx := h _ ⟨change, log, rfl⟩
  split at hx
  · rename_i hperform
    obtain ⟨change', log', rfl⟩ := hx
    exact ⟨change', log', hperform⟩
  · exact hx.elim

/-- What an action does is up to the settings, not to what has been told. -/
theorem turns_of_perform {x : Acting Unit}
    (h : ∀ l log, x.perform (⟨c.above s, l⟩, { w with log }) =
      (.ok (), ⟨d.above s, l⟩, { w with log })) : Turns s l w x c d := by
  rintro _ ⟨change, log, rfl⟩
  rw [h]
  exact ⟨change, log, rfl⟩

/-- What is looked up first may be taken for what it is. -/
theorem turns_get_bind {f : SettingsReader × Surroundings → Acting Unit}
    (h : ∀ l' log, Turns s l w (f (⟨c.above s, l'⟩, { w with log })) c d) :
    Turns s l w (get >>= f) c d := by
  rintro _ ⟨change, log, rfl⟩
  rw [perform_get_bind]
  exact h _ _ _ ⟨change, log, rfl⟩

theorem turns_ofFault_bind {α : Type} {x : Except Fault α} {a : α} {f : α → Acting Unit}
    (hx : x = .ok a) (h : Turns s l w (f a) c d) : Turns s l w (ofFault x >>= f) c d := by
  subst hx
  exact Leads.ofFault_bind h

/-! ## Pairs of names and values -/

/-- Entries of a table that make assignments by dotted names. -/
def Dotted (entries : List (Value × Value)) (as : List Assignment) : Prop :=
  (entries.map fun e => (e.1.text?, e.2)) = as.map fun a => (some a.1.dotted, a.2)

theorem assignPair_turns {name : Value} {k : KnownSetting} (hname : name.text? = some k.dotted)
    (v : Value) :
    Turns s l w (assignPair (Configuration.root s) name v) c (c.assign [(k, v)]) := by
  refine turns_of_perform fun l log => ?_
  have hassigned := Configuration.assignDotted_above w.view s c k v
  rw [assignPair, current, bind_assoc, perform_get_bind, perform_pure_bind, perform_get_bind]
  dsimp only
  cases name with
  | text path | textItem path =>
    cases hname
    dsimp only
    rw [hassigned]
    rfl
  | _ => cases hname

theorem assignPairs_turns {entries : List (Value × Value)} {as : List Assignment}
    (h : Dotted entries as) :
    Turns s l w (assignPairs (Configuration.root s) (Value.partOf .items entries)) c
      (c.assign as) := by
  induction entries generalizing as c with
  | nil =>
    cases as with
    | nil => exact turns_of_perform fun _ _ => rfl
    | cons => cases h
  | cons entry rest ih =>
    cases as with
    | nil => cases h
    | cons a as =>
      obtain ⟨name, v⟩ := entry
      rw [Dotted, List.map_cons, List.map_cons, List.cons_eq_cons, Prod.mk.injEq] at h
      obtain ⟨⟨hname, rfl⟩, hrest⟩ := h
      refine turns_get_bind fun _ _ => turns_ofFault_bind rfl ?_
      exact (assignPair_turns hname _).bind (ih hrest)

/-! ## Files -/

/-- What a file assigns, if it exists. A plain file assigns texts to the dotted names that its lines
hold, and a script assigns the literals of its lines to settings. In a script that is written in
another way, statements assign the values of their terms to the settings that they name. -/
inductive FileAssigns (w : Surroundings) (s : SettingsStore) :
    Configuration → String → List Assignment → Configuration → Prop
  | missing {c : Configuration} {path : String} (hfile : w.files.isFile path = false) :
      FileAssigns w s c path [] c
  | plain {c : Configuration} {path text : String} {lines : List LogicalLine}
      {held : List (Option (String × String))} {as : List (KnownSetting × String)}
      (hname : path.endsWith ".py" = false) (htext : w.files.readLines path = .ok text)
      (hlines : HasLogicalLines text lines)
      (hholds : List.Forall₂ (fun l => Holds l.said) lines held)
      (hheld : held.reduceOption = as.map fun a => (a.1.dotted, a.2)) :
      FileAssigns w s c path (as.map fun a => (a.1, .text a.2))
        (c.assign (as.map fun a => (a.1, .text a.2)))
  | script {c : Configuration} {path text : String} {lines : List (List Char)}
      {ass : List (List Assignment)} (hname : path.endsWith ".py" = true)
      (htext : w.files.readLines path = .ok text) (hnull : '\x00' ∉ text.toList)
      (hlines : HasLines text.toList lines) (hassigns : List.Forall₂ Script.Assigns lines ass) :
      FileAssigns w s c path ass.flatten (c.assign ass.flatten)
  | statements {c d : Configuration} {path text : String} {sts : List Script.Statement}
      {as : List Assignment} (hname : path.endsWith ".py" = true)
      (htext : w.files.readLines path = .ok text) (hsts : statementsOf text = .ok sts)
      (hrun : Configuration.InOrder (Configuration.StatementAssigns w.view s) c sts as d) :
      FileAssigns w s c path as d

theorem FileAssigns.values_eq {path : String} {as : List Assignment}
    (h : FileAssigns w s c path as d) : d.values = KnownSetting.assigned c.values as := by
  cases h with
  | missing | plain | script => rfl
  | statements _ _ _ hrun => exact hrun.values_eq Configuration.StatementAssigns.values_eq

theorem isFile_of_readLines {files : Files} {path text : String}
    (h : files.readLines path = .ok text) : files.isFile path = true := by
  rw [Files.readLines, Files.read] at h
  rw [Files.isFile]
  cases hplace : files.resolve path with
  | error f =>
    rw [hplace] at h
    cases h
  | ok names =>
    rw [hplace] at h
    have hread : (files.readAt names >>= fun text =>
        pure (String.ofList (Files.unifyLines text.toList))) = .ok text := h
    rw [Files.readAt] at hread
    cases htext : files.text? names with
    | some text => exact congrArg Option.isSome htext
    | none =>
      rw [htext] at hread
      cases hread

/-- A listener that can be told about a file has no say in the settings. -/
theorem tellReading_turns (hdeaf : l.isDeaf = false) (path : Value) :
    Turns s l w (tellReading path) c c := by
  rintro _ ⟨change, log, rfl⟩
  cases l with
  | nobody => exact ⟨change, log, rfl⟩
  | deaf truth refusal => cases hdeaf
  | handler h inModel =>
    have hreport (path : Value) := Handler.perform_report .info
      (fun view => "Reading settings from " ++ path.display view) (change h) { w with log }
    obtain ⟨records, hreport⟩ := hreport (if inModel then .tuple [path] else path)
    have htold : (tellReading path).perform
        (⟨c.above s, (Listener.handler h inModel).told change⟩, { w with log }) =
          (.ok (), ⟨c.above s, (Listener.handler h inModel).told fun h => (change h).count .info⟩,
            { w with log := log ++ records }) := by
      rw [tellReading, perform_get_bind]
      dsimp only [Listener.told]
      rw [reportTo, perform_get_bind]
      dsimp only
      rw [hreport]
      rfl
    rw [htold]
    exact ⟨_, _, rfl⟩

theorem readPlain_turns {path : String} {text : String} {as : List (KnownSetting × String)}
    (htext : w.files.readLines path = .ok text)
    (hsettings : settingsOfText text = .ok (as.map fun a => (a.1.dotted, a.2))) :
    Turns s l w (readPlain (Configuration.root s) (.text path)) c
      (c.assign (as.map fun a => (a.1, .text a.2))) := by
  have hdotted : Dotted ((as.map fun a => (a.1.dotted, a.2)).map fun e => (.text e.1, .text e.2))
      (as.map fun a => (a.1, .text a.2)) := by
    rw [Dotted, List.map_map, List.map_map, List.map_map]
    rfl
  have hpairs := assignPairs_turns (s := s) (l := l) (w := w) (c := c) hdotted
  rw [Value.partOf, List.map_map] at hpairs
  refine turns_get_bind fun _ _ => turns_ofFault_bind htext ?_
  dsimp only
  rw [hsettings]
  exact hpairs

theorem carryOut_turns {sts : List Script.Statement} {as : List Assignment}
    (hrun : Configuration.InOrder (Configuration.StatementAssigns w.view s) c sts as d) :
    Turns s l w (carryOut (Configuration.root s) sts) c d := by
  refine turns_of_perform fun l log => ?_
  have hperform := Configuration.perform_run hrun
  rw [Configuration.state] at hperform
  rw [carryOut, perform_get_bind]
  dsimp only
  rw [hperform]
  rfl

theorem readScript_turns {path text : String} {sts : List Script.Statement} {as : List Assignment}
    (htext : w.files.readLines path = .ok text) (hsts : statementsOf text = .ok sts)
    (hrun : Configuration.InOrder (Configuration.StatementAssigns w.view s) c sts as d) :
    Turns s l w (readScript (Configuration.root s) (.text path)) c d := by
  refine turns_get_bind fun _ _ => ?_
  refine turns_ofFault_bind (congrArg _ (isFile_of_readLines htext)) ?_
  exact turns_ofFault_bind htext (turns_ofFault_bind hsts (carryOut_turns hrun))

/-- A file that exists is read as its name says, and then the others are. -/
theorem readFiles_cons_turns (hdeaf : l.isDeaf = false) {path text : String} {isScript : Bool}
    (htext : w.files.readLines path = .ok text) (hname : path.endsWith ".py" = isScript)
    {e : Configuration} {paths : List Value}
    (hread : Turns s l w (if isScript then readScript (Configuration.root s) (.text path)
      else readPlain (Configuration.root s) (.text path)) c d)
    (hrest : Turns s l w (readFiles (Configuration.root s) paths) d e) :
    Turns s l w (readFiles (Configuration.root s) (.text path :: paths)) c e := by
  rw [readFiles]
  refine turns_get_bind fun _ _ => ?_
  refine turns_ofFault_bind (congrArg _ (isFile_of_readLines htext)) ?_
  refine (tellReading_turns hdeaf _).bind ?_
  refine turns_ofFault_bind (congrArg _ hname) ?_
  cases isScript
  all_goals exact hread.bind hrest

theorem readFiles_turns (hdeaf : l.isDeaf = false) {paths : List String} {as : List Assignment}
    (h : Configuration.InOrder (FileAssigns w s) c paths as d) :
    Turns s l w (readFiles (Configuration.root s) (paths.map .text)) c d := by
  induction h with
  | nil => exact turns_of_perform fun _ _ => rfl
  | cons hfirst _ ih =>
    cases hfirst with
    | missing hfile =>
      rw [List.map_cons, readFiles]
      exact turns_get_bind fun _ _ => turns_ofFault_bind (congrArg _ hfile) ih
    | plain hname htext hlines hholds hheld =>
      have hsettings := (settingsOfText_of_holds hlines hholds).trans (congrArg _ hheld)
      exact readFiles_cons_turns hdeaf htext hname (readPlain_turns htext hsettings) ih
    | script hname htext hnull hlines hassigns =>
      obtain ⟨sts, hsts, hrun⟩ := Script.statementsOf_of_assigns hnull hlines hassigns
      exact readFiles_cons_turns hdeaf htext hname (readScript_turns htext hsts (hrun _ _ _)) ih
    | statements hname htext hsts hrun =>
      exact readFiles_cons_turns hdeaf htext hname (readScript_turns htext hsts hrun) ih

/-! ## Quick names -/

/-- The entries of a table, which may be kept as a node. -/
def tableOf? (s : SettingsStore) : Value → Option (List (Value × Value))
  | .table entries => some entries
  | .ref (.settings i) => (s.node? i).map (·.entries)
  | _ => none

/-- What a quick name with its value assigns: nothing without a value, a setting by its own quick
name, or settings by their dotted names. -/
inductive QuickAssigns (s : SettingsStore) :
    Configuration → String × Value → List Assignment → Configuration → Prop
  | ignored {c : Configuration} (name : String) : QuickAssigns s c (name, .nothing) [] c
  | setting {c : Configuration} (k : KnownSetting) {v : Value} (hv : v ≠ .nothing) :
      QuickAssigns s c (k.key, v) [(k, v)] (c.assign [(k, v)])
  | override {c : Configuration} {v : Value} {entries : List (Value × Value)}
      {as : List Assignment} (htable : tableOf? s v = some entries) (has : Dotted entries as) :
      QuickAssigns s c ("override", v) as (c.assign as)

theorem QuickAssigns.values_eq {n : String × Value} {as : List Assignment}
    (h : QuickAssigns s c n as d) : d.values = KnownSetting.assigned c.values as := by
  cases h <;> rfl

theorem isOneOf_text (t : String) (words : List String) :
    isOneOf (.text t) words = .ok (decide (t ∈ words)) := by
  induction words with
  | nil => rfl
  | cons word rest ih =>
    have hcons : isOneOf (.text t) (word :: rest) =
        (Value.equals (.text t) (.text word) >>= fun same =>
          if same then pure true else isOneOf (.text t) rest) := rfl
    rw [hcons, Value.equals_text, ih]
    by_cases h : t = word
    · subst h
      simp [bind, Except.bind, pure, Except.pure]
    · simp [bind, Except.bind, h]

/-- A setting is assigned at the node that has it. -/
theorem assign_turns (k : KnownSetting) (v : Value) :
    Turns s l w (assign (Configuration.placeOf s k) (.text k.key) v) c (c.assign [(k, v)]) := by
  refine turns_of_perform fun l log => ?_
  rw [← Configuration.modify_above]
  rfl

theorem assignQuick_turns {k : KnownSetting} (hk : k ≠ .outputLevel) (v : Value) :
    Turns s l w (assignQuick (Configuration.root s) (.text k.key) v) c (c.assign [(k, v)]) := by
  have hassign := assign_turns (s := s) (l := l) (w := w) (c := c) k v
  rw [Configuration.placeOf_of_ne hk] at hassign
  rintro _ ⟨change, log, rfl⟩
  have hchild : (child (.ref (.settings (Configuration.root s))) "solver").perform
      (⟨c.above s, l.told change⟩, { w with log }) =
        (.ok (.ref (.settings s.nodes.length)), ⟨c.above s, l.told change⟩, { w with log }) := by
    rw [child, current, bind_assoc, perform_get_bind, perform_pure_bind, perform_get_bind,
      Configuration.child_root_above]
    rfl
  rw [assignQuick, perform_bind_of_ok hchild]
  exact hassign _ ⟨change, log, rfl⟩

theorem assignNamed_turns (create : Bool) (k : KnownSetting) (v : Value) :
    Turns s l w (assignNamed (Configuration.root s) create (.text k.key) v) c
      (c.assign [(k, v)]) := by
  refine turns_ofFault_bind (isOneOf_text _ _) ?_
  by_cases hk : k = .outputLevel
  · subst hk
    refine turns_ofFault_bind (isOneOf_text _ _) ?_
    exact assign_turns .outputLevel v
  · have hquick : k.key ∈ quickNames := by
      cases k with
      | outputLevel => exact absurd rfl hk
      | _ => decide
    rw [decide_eq_true hquick]
    exact assignQuick_turns hk v

/-- Whoever listens hears nothing of the settings that a table has. -/
theorem override_turns {v : Value} {entries : List (Value × Value)} {as : List Assignment}
    (htable : tableOf? s v = some entries) (has : Dotted entries as) :
    Turns s l w (override (Configuration.root s) v) c (c.assign as) := by
  rintro _ ⟨change, log, rfl⟩
  have hentries : (entriesOf v).perform (⟨c.above s, l.told change⟩, { w with log }) =
      (.ok entries, ⟨c.above s, l.told change⟩, { w with log }) := by
    cases v with
    | table es =>
      cases htable
      rfl
    | ref r =>
      cases r with
      | settings i =>
        obtain ⟨n, hnode, rfl⟩ := Option.map_eq_some_iff.1 htable
        rw [entriesOf, current, bind_assoc, perform_get_bind, perform_pure_bind,
          Configuration.node?_above_of_some hnode]
        rfl
      | _ => cases htable
    | _ => cases htable
  obtain ⟨_, log', hpairs⟩ := (assignPairs_turns (s := s) (l := .nobody) (w := w) (c := c)
    has).exists_perform id log
  rw [override, perform_bind_of_ok hentries, perform_get_bind]
  dsimp only [Listener.told] at hpairs ⊢
  rw [hpairs]
  exact ⟨change, log', rfl⟩

theorem assignNamed_override_turns (create : Bool) {v : Value} {entries : List (Value × Value)}
    {as : List Assignment} (htable : tableOf? s v = some entries) (has : Dotted entries as) :
    Turns s l w (assignNamed (Configuration.root s) create (.text "override") v) c
      (c.assign as) := by
  refine turns_ofFault_bind (isOneOf_text _ _) ?_
  refine turns_ofFault_bind (isOneOf_text _ _) ?_
  refine turns_ofFault_bind (isOneOf_text _ _) ?_
  exact override_turns htable has

theorem assignAll_cons {v : Value} (hv : v ≠ .nothing) (root : Nat) (create : Bool) (name : Value)
    (rest : List (Value × Value)) :
    assignAll root create ((name, v) :: rest) =
      (assignNamed root create name v >>= fun _ => assignAll root create rest) := by
  cases v with
  | nothing => exact absurd rfl hv
  | _ => rfl

theorem ne_nothing_of_tableOf? {v : Value} {entries : List (Value × Value)}
    (h : tableOf? s v = some entries) : v ≠ .nothing := by
  rintro rfl
  cases h

theorem assignAll_turns (create : Bool) {named : List (String × Value)} {as : List Assignment}
    (h : Configuration.InOrder (QuickAssigns s) c named as d) :
    Turns s l w (assignAll (Configuration.root s) create (named.map fun n => (.text n.1, n.2)))
      c d := by
  induction h with
  | nil => exact turns_of_perform fun _ _ => rfl
  | cons hfirst _ ih =>
    cases hfirst with
    | ignored => exact ih
    | setting k hv =>
      rw [List.map_cons, assignAll_cons hv]
      exact (assignNamed_turns create k _).bind ih
    | override htable has =>
      rw [List.map_cons, assignAll_cons (ne_nothing_of_tableOf? htable)]
      exact (assignNamed_override_turns create htable has).bind ih

/-! ## New settings -/

theorem readSettings_turns (hdeaf : l.isDeaf = false) {paths : List String} {as : List Assignment}
    (h : Configuration.InOrder (FileAssigns w s) c paths as d) (searchPath : List String) :
    Turns s l w (readSettings (Configuration.root s) searchPath (.list (paths.map .text))) c d :=
  turns_get_bind fun _ _ => turns_ofFault_bind rfl (readFiles_turns hdeaf h)

/-- New settings as files say, with further assignments by quick names. -/
theorem perform_createFromFiles (hdeaf : l.isDeaf = false) {paths : List String}
    {named : List (String × Value)} {as bs : List Assignment}
    (hfiles : Configuration.InOrder (FileAssigns w s) {} paths as c)
    (hnamed : Configuration.InOrder (QuickAssigns s) c named bs d) (searchPath : List String) :
    ∃ change log, (createFromFiles searchPath (.list (paths.map .text))
        (named.map fun n => (.text n.1, n.2))).perform (⟨s, l⟩, w) =
      (.ok (Configuration.root s), ⟨d.above s, l.told change⟩, { w with log }) := by
  have hcreate : (create []).perform (⟨s, l⟩, w) =
      (.ok (Configuration.root s), ⟨Configuration.above s {}, l⟩, w) := by
    rw [create, current, bind_assoc, perform_get_bind, perform_pure_bind]
    dsimp only
    rw [Configuration.addDefault_eq]
    rfl
  obtain ⟨change, log, hset⟩ := ((readSettings_turns hdeaf hfiles searchPath).bind
    (assignAll_turns false hnamed)).exists_perform id w.log
  rw [Listener.told_id] at hset
  refine ⟨change, log, ?_⟩
  rw [createFromFiles, perform_bind_of_ok hcreate, ← bind_assoc, perform_bind_of_ok hset]
  rfl

end SettingsReader

namespace Session

/-- New settings from files that assign known settings have the last value that each known setting
was given, by the files in their order and then by quick names, and the one from the start if there
is no such value. Nothing else has changed. -/
theorem newSettingsFromFiles_last {s : Session} {named : List (String × Value)}
    {paths : List String} {as bs : List Assignment} {c d : Configuration}
    (hpaths : named.lookup "file_list" = some (.list (paths.map .text)))
    (hdeaf : (s.listenerOf ((named.lookup "logger").getD .nothing)).isDeaf = false)
    (hfiles : Configuration.InOrder (SettingsReader.FileAssigns s.surroundings s.settings) {} paths
      as c)
    (hnamed : Configuration.InOrder (SettingsReader.QuickAssigns s.settings) c
      (named.filter fun n => n.1 ≠ "file_list" ∧ n.1 ≠ "logger") bs d) :
    let root := Configuration.root s.settings
    ∃ t, (newSettingsFromFiles named).perform s = (.ok root, t) ∧
      t.settings = d.above s.settings ∧
      ∀ k : KnownSetting, t.settings.follow t.view (.ref (.settings root)) k.way =
        .ok (KnownSetting.lastOf (as ++ bs) k) := by
  intro root
  obtain ⟨change, log, hcreate⟩ := SettingsReader.perform_createFromFiles hdeaf hfiles hnamed
    s.searchPath
  obtain ⟨t, ht, hsettings, -⟩ := perform_onSettings hcreate
  refine ⟨t, ?_, hsettings, fun k => ?_⟩
  · rw [newSettingsFromFiles, hpaths, perform_get_bind]
    exact ht
  · have hvalues : d.values = KnownSetting.lastOf (as ++ bs) := by
      rw [hnamed.values_eq SettingsReader.QuickAssigns.values_eq,
        hfiles.values_eq SettingsReader.FileAssigns.values_eq, ← KnownSetting.assigned_append,
        ← KnownSetting.assigned_default]
    rw [hsettings, Configuration.follow_way_above, hvalues]

/-- A session with a plain file and a script. -/
def withScript (plain script : String) : Session :=
  { files := { texts := [(["tmp", "work", "rc"], plain), (["tmp", "work", "c.py"], script)] } }

theorem readLines_withScript (plain script : String) :
    (withScript plain script).files.readLines "rc" =
        .ok (String.ofList (Files.unifyLines plain.toList)) ∧
      (withScript plain script).files.readLines "c.py" =
        .ok (String.ofList (Files.unifyLines script.toList)) ∧
      (withScript plain script).files.isFile "no" = false := by
  have hplain : (withScript plain script).files.resolve "rc" = .ok ["tmp", "work", "rc"] := by cbv
  have hscript : (withScript plain script).files.resolve "c.py" = .ok ["tmp", "work", "c.py"] := by
    cbv
  have habsent : (withScript plain script).files.resolve "no" =
      .ok ["tmp", "work", "no"] := by cbv
  refine ⟨?_, ?_, ?_⟩
  · rw [Files.readLines, Files.read, hplain]
    rfl
  · rw [Files.readLines, Files.read, hscript]
    rfl
  · rw [Files.isFile, habsent]
    rfl

/-- A plain file with either separator. -/
def mixedPlain : String := "solver.agent = zero\nsolver.time_limit: 3"

theorem mixedPlain_holds : ∃ lines, HasLogicalLines mixedPlain lines ∧
    List.Forall₂ (fun l => Holds l.said) lines
      [some ("solver.agent", "zero"), some ("solver.time_limit", "3")] := by
  have htext : mixedPlain = String.ofList
      (['\n'].intercalate ["solver.agent = zero".toList, "solver.time_limit: 3".toList]) := by
    decide +kernel
  rw [htext]
  refine ⟨[⟨1, "solver.agent = zero".toList⟩, ⟨1, "solver.time_limit: 3".toList⟩],
    ⟨_, hasLines_intercalate (by decide +kernel) (by decide +kernel), ?_⟩, .cons ?_ (.cons ?_ .nil)⟩
  · exact .single (isTrimmed_iff.2 (by decide +kernel)) (by decide +kernel)
      (.single (isTrimmed_iff.2 (by decide +kernel)) (by decide +kernel) .none)
  · exact .equals (a := "solver.agent ".toList) (b := " zero".toList) (by decide +kernel)
      (isTrimmed_iff.2 (by decide +kernel)) (isTrimmed_iff.2 (by decide +kernel))
  · exact .colon (a := "solver.time_limit".toList) (b := " 3".toList) (by decide +kernel)
      (by decide +kernel) (isTrimmed_iff.2 (by decide +kernel)) (isTrimmed_iff.2 (by decide +kernel))

/-- A script that assigns a text to two settings at once, and has a blank line and a comment. -/
def mixedScript : String :=
  "context.solver.time_limit = context.output_level = 'error'\n\n" ++
    "context.solver.log_output = True\ncontext.solver.mip_gap = 0.25 # s"

theorem mixedScript_assigns : ∃ lines, HasLines mixedScript.toList lines ∧
    List.Forall₂ Script.Assigns lines
      [[(.timeLimit, .text "error"), (.outputLevel, .text "error")], [], [(.logOutput, .bool true)],
        [(.mipGap, .float (Decimal.toDouble false ⟨25, -2⟩))]] := by
  have htext : mixedScript = String.ofList (['\n'].intercalate
      ["context.solver.time_limit = context.output_level = 'error'".toList, [] ++ [],
        "context.solver.log_output = True".toList,
        "context.solver.mip_gap = 0.25 # s".toList]) := by
    decide +kernel
  have hblank : Script.Blanks [] := by decide
  have hnone : Script.IsComment [] := by rintro _ ⟨⟩
  have hquarter : Script.IsNumeral (['0'] ++ '.' :: ['2', '5'])
      (.real (Decimal.toDouble false ⟨25, -2⟩)) :=
    .pointed (by decide) (by decide) (by decide)
  rw [htext]
  refine ⟨_, hasLines_intercalate (by decide +kernel) (by decide +kernel),
    .cons ?_ (.cons (.nothing hblank hnone) (.cons ?_ (.cons ?_ .nil)))⟩
  · exact Script.assigns_usual (by decide +kernel)
      (List.cons_ne_nil KnownSetting.timeLimit [.outputLevel])
      (.text (.inl (.refl '\'')) (by decide +kernel : Script.IsPlainText '\'' "error".toList))
      hblank hnone
  · exact Script.assigns_usual (by decide +kernel) (List.cons_ne_nil KnownSetting.logOutput [])
      .true hblank hnone
  · exact Script.assigns_usual (by decide +kernel) (List.cons_ne_nil KnownSetting.mipGap [])
      (.real hquarter) (by decide : Script.Blanks [' '])
      (by rintro _ ⟨⟩; rfl : Script.IsComment ['#', ' ', 's'])

/-- A plain file, a file that does not exist and a script, with a quick name that comes to nothing,
one that counts, and a table. Two settings are left as the script assigns them. -/
theorem newSettingsFromFiles_last_mixed :
    let s := withScript mixedPlain mixedScript
    let table := Value.table [(.text "output_level", .text "fatal")]
    let named := [("agent", .nothing), ("time_limit", .int 7), ("override", table),
      ("file_list", .list [.text "rc", .text "no", .text "c.py"])]
    ∃ t, (newSettingsFromFiles named).perform s = (.ok 1, t) ∧
      ∀ k : KnownSetting, t.settings.follow t.view (.ref (.settings 1)) k.way =
        .ok (match k with
          | .agent => .text "zero"
          | .logOutput => .bool true
          | .timeLimit => .int 7
          | .mipGap => .float (Decimal.toDouble false ⟨25, -2⟩)
          | .outputLevel => .text "fatal") := by
  intro s table named
  obtain ⟨hplain, hscript, habsent⟩ := readLines_withScript mixedPlain mixedScript
  have hrc : s.files.readLines "rc" = .ok mixedPlain :=
    hplain.trans (congrArg Except.ok (by decide +kernel))
  have hpy : s.files.readLines "c.py" = .ok mixedScript :=
    hscript.trans (congrArg Except.ok (by decide +kernel))
  obtain ⟨_, hlines, hholds⟩ := mixedPlain_holds
  obtain ⟨_, hscriptLines, hassigns⟩ := mixedScript_assigns
  have hheld : [some ("solver.agent", "zero"), some ("solver.time_limit", "3")].reduceOption =
      [(KnownSetting.agent, "zero"), (.timeLimit, "3")].map fun a => (a.1.dotted, a.2) := by
    decide +kernel
  have hfiles : Configuration.InOrder (SettingsReader.FileAssigns s.surroundings s.settings) {}
      ["rc", "no", "c.py"] _ _ :=
    .cons (.plain (by decide +kernel) hrc hlines hholds hheld)
      (.cons (.missing habsent)
        (.cons (.script (by decide +kernel) hpy (by decide +kernel) hscriptLines hassigns)
          (.nil _)))
  have hnamed (c : Configuration) : Configuration.InOrder (SettingsReader.QuickAssigns s.settings) c
      [("agent", .nothing), ("time_limit", .int 7), ("override", table)] _ _ :=
    have hentries : SettingsReader.Dotted [(.text "output_level", .text "fatal")]
      [(.outputLevel, .text "fatal")] := rfl
    .cons (.ignored "agent") (.cons (.setting .timeLimit fun h => nomatch h)
      (.cons (.override rfl hentries) (.nil _)))
  obtain ⟨t, ht, -, hlast⟩ := @newSettingsFromFiles_last s named _ _ _ _ _ rfl rfl hfiles
    (hnamed _)
  refine ⟨t, ht, fun k => (hlast k).trans ?_⟩
  cases k <;> rfl

end Session

end Milp

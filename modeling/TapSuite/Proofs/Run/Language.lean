import Mathlib
import TapSuite.Proofs.Config.Layers
import TapSuite.Proofs.Config.RoundTrip
import TapSuite.Proofs.Run.Contents

/-!
# The language of a run

The language of a run is settled in two places: for the lines of the run and its report, and for the
lines that the engine prints about suites.  Both are the same available language: the one that
serves the last language on the command line, else that in the settings, else the system's.

    resolve (resolve requested) = resolve requested                                (resolve_resolve)
    languages c (language env words) forced (language env words) = (spoken, spoken)   (languages_eq)

A language on the command line leaves that in the settings without any effect.
-/

namespace TapSuite.Locale

theorem resolve_of_mem {requested : String} (h : requested ∈ available) :
    resolve requested = requested := if_pos h

theorem resolve_mem_available (requested : String) : resolve requested ∈ available := by
  unfold resolve
  split
  · assumption
  split
  · assumption
  · decide

/-- An available language serves itself best. -/
theorem resolve_resolve (requested : String) : resolve (resolve requested) = resolve requested :=
  resolve_of_mem (resolve_mem_available requested)

end TapSuite.Locale

namespace TapSuite.Cli

/-! ## Languages -/

/-- The values of the language option among some words, in their order. -/
def languageValues : List String → List String
  | [] => []
  | [word] => (languageIn? word).toList
  | word :: next :: rest =>
    if word = "--lang" then next :: languageValues rest
    else (languageIn? word).toList ++ languageValues (next :: rest)

theorem getLast?_toList_append {α : Type} (a : Option α) (l : List α) :
    (a.toList ++ l).getLast? = l.getLast?.or a := by
  rw [List.getLast?_append]
  cases a <;> rfl

/-- The last of its values is the language that is looked for. -/
theorem languageOption?_eq_getLast? (words : List String) :
    languageOption? words = (languageValues words).getLast? := by
  fun_induction languageOption? words with
  | case1 => rfl
  | case2 word =>
    rw [languageValues]
    cases languageIn? word <;> rfl
  | case3 next rest ih =>
    rw [languageValues, if_pos rfl, ih]
    exact (getLast?_toList_append (some next) _).symm
  | case4 word next rest hne ih =>
    rw [languageValues, if_neg hne, ih, getLast?_toList_append]

/-- The language that a run speaks; `configured` is that of its settings. -/
def spoken (env : Command.Environment) (words : List String) (configured : Option String) :
    String :=
  match languageOption? words, configured with
  | some value, _ => Locale.resolve value
  | none, some configured => Locale.resolve configured
  | none, none => Locale.resolve ((Locale.system? env).getD "en")

theorem spoken_mem_available (env : Command.Environment) (words : List String)
    (configured : Option String) : spoken env words configured ∈ Locale.available := by
  unfold spoken
  split <;> exact Locale.resolve_mem_available _

/-- The run and the lines without a language of their own get the same language. -/
theorem languages_eq (env : Command.Environment) (words : List String) (c : Config) :
    Run.languages c (language env words) (languageOption? words).isSome (language env words) =
      (spoken env words c.language, spoken env words c.language) := by
  unfold Run.languages spoken language
  cases languageOption? words <;> cases c.language <;> rfl

end TapSuite.Cli

namespace TapSuite

/-! ## Settings that differ in their language -/

namespace Run

variable {w w' : Workspace} {p : Workspace.Position} {a : Cli.RunArguments}

theorem settings_mute
    (h : (Config.load w' a.config a.configNamed).map Config.mute =
      (Config.load w a.config a.configNamed).map Config.mute) :
    (settings w' a).map Config.mute = (settings w a).map Config.mute := by
  unfold settings
  obtain ⟨e, hload', hload⟩ | ⟨c', c, hload', hload, hmute⟩ := map_eq_map_iff.mp h
  · rw [hload', hload]
  · have happly := apply_of_mute hmute a.overrides
    rw [hload', hload]
    simp only [validate_of_mute happly]
    cases (c.apply a.overrides).validate a.config with
    | error e => rfl
    | ok _ => exact congrArg Except.ok happly

/-- With a language on the command line, settings that differ in theirs lead to the same run. -/
theorem command_mute (s : Surroundings) (language : String) (h : w'.emptied p = w.emptied p)
    (hsettings : (settings w' a).map Config.mute = (settings w a).map Config.mute) :
    (command s w' a language true).1.emptied p = (command s w a language true).1.emptied p := by
  obtain ⟨e, herror', herror⟩ | ⟨c', c, hok', hok, hmute⟩ := map_eq_map_iff.mp hsettings
  · rw [command_of_settings_error herror', command_of_settings_error herror]
    exact emptied_failed h e
  · have hforced (c : Config) : languages c language true s.locale = (language, s.locale) := by
      unfold languages
      cases c.language <;> rfl
    rw [command_of_settings hok', command_of_settings hok]
    simp only [display, hforced]
    calc (withSettings s w' c' language s.locale).emptied p
        = (withSettings s w' c'.mute language s.locale).emptied p := rfl
      _ = (withSettings s w' c.mute language s.locale).emptied p := by rw [hmute]
      _ = (withSettings s w' c language s.locale).emptied p := rfl
      _ = (withSettings s w c language s.locale).emptied p := emptied_withSettings s c _ _ h

end Run

theorem namesLanguage_table (c : Config) : NamesLanguage c.table := by
  intro v hv
  obtain ⟨_ | language, _⟩ := c <;>
    simp [Config.table, Config.fields, languageFields, Toml.fieldsTable, textField, numberField,
      Toml.Field.row, Toml.Written.ofText] at hv
  exact ⟨language, hv⟩

/-! ## One language -/

namespace Cli

/-- A run speaks one language.  The language is available and serves the last language on the
command line, else that in the settings, else the system's; it is that of the run's own lines, of
its report and of the engine's lines.  With a language on the command line the settings may name any
language or none: the program prints the same and ends the same. -/
theorem run_speaksOneLanguage (s : Surroundings) {words : List String} {arguments : Arguments}
    {a : RunArguments} (hread : Arguments.read words = .ok arguments)
    (hrequest : arguments.request.runArguments? = some a) :
    let env := s.environment
    let s' : Surroundings := { s with locale := language env words, colours := forcesColours env }
    languageOption? words = (languageValues words).getLast? ∧
    (∀ w c kind, Run.settings w a = .ok c → ReporterKind.named c.reporter.name = .ok kind →
      let locale := spoken env words c.language
      let d : Run.Display := ⟨locale, forcesColours env⟩
      let o := Run.after [Run.reporterLine d kind] <|
        Run.pipeline d c (Engine.command (Run.engineSetting s' c locale)) {}
          (kind.reporter d.colours locale c.reporter) w
      locale ∈ Locale.available ∧
        Run.command s' w a (language env words) (languageOption? words).isSome = (o, locale) ∧
        run s w words = endOfRun d.colours o) ∧
    ((languageOption? words).isSome →
      ∀ w w' p text text' t t', w'.emptied p = w.emptied p →
        w.readText a.config = .ok text → w'.readText a.config = .ok text' →
        Toml.parse text = .ok t → Toml.parse text' = .ok t' →
        NamesLanguage t → NamesLanguage t' →
        Toml.without "language" t' = Toml.without "language" t →
        (run s w' words).code = (run s w words).code ∧
          (run s w' words).out = (run s w words).out ∧
          (run s w' words).err = (run s w words).err ∧
          (run s w' words).workspace.emptied p = (run s w words).workspace.emptied p) ∧
    ∀ requested, Locale.resolve requested ∈ Locale.available ∧
      Locale.resolve (Locale.resolve requested) = Locale.resolve requested := by
  intro env s'
  refine ⟨languageOption?_eq_getLast? words, ?_, ?_,
    fun requested => ⟨Locale.resolve_mem_available _, Locale.resolve_resolve _⟩⟩
  · intro w c kind hsettings hkind locale d o
    have hlanguages := languages_eq env words c
    have houtcome : Run.command s' w a (language env words) (languageOption? words).isSome =
        (o, locale) := by
      simp only [Run.command, hsettings]
      rw [show s'.locale = language env words from rfl, hlanguages]
      simp only [Run.withSettings, hkind]
      rfl
    refine ⟨spoken_mem_available env words c.language, houtcome, ?_⟩
    rw [run_eq_endOfRun hread hrequest]
    exact congrArg (fun outcome => endOfRun d.colours outcome.1) houtcome
  · intro hforced w w' p text text' t t' hemptied htext htext' hparse hparse' hnames hnames' h
    have hload : (Config.load w' a.config a.configNamed).map Config.mute =
        (Config.load w a.config a.configNamed).map Config.mute := by
      rw [load_of_readText htext, load_of_readText htext']
      exact ofText_mute a.config (read_mute hparse hparse' hnames hnames' h)
    have hcommand := Run.command_mute s' (language env words) hemptied (Run.settings_mute hload)
    have hended : (run s w' words).emptied p = (run s w words).emptied p := by
      rw [run_eq_endOfRun hread hrequest, run_eq_endOfRun hread hrequest]
      refine emptied_endOfRun _ ?_
      simp only [outcomeOf, hforced]
      exact hcommand
    simp only [Ended.emptied, Ended.mk.injEq] at hended
    exact hended

/-- Settings in English and settings without a language, on a command line with two languages. -/
theorem run_speaksOneLanguage_chinese :
    let english : Config :=
      { language := some "en", suitesDir := "d", suffix := "b", command := "tap" }
    let file (c : Config) : Workspace.Entry := .file (Text.Utf8.encode c.render.toList)
    let holding (c : Config) : Workspace :=
      { entries := [([[0x63]], file c), ([[0x64]], .directory), ([[0x64], [0x62]], .file [])]
        here := [] }
    let w := holding english
    let w' := holding english.mute
    let s : Surroundings :=
      { launch := fun _ _ => .ok { out := [0x6F, 0x6B, 0x20, 0x31, 0x0A], code := some 0 } }
    let words := ["suite-runner", "--lang", "en", "run", "-c", "c", "--lang=zh-CN"]
    let a : RunArguments := { config := "c", configNamed := true }
    Arguments.read words = .ok ⟨some "zh-CN", .run a⟩ ∧
      Run.settings w a = .ok english ∧ Run.settings w' a = .ok english.mute ∧
      (Run.command { s with locale := language [] words } w a (language [] words) true).2 =
        "zh-CN" ∧
      (run s w' words).code = (run s w words).code ∧
      (run s w' words).out = (run s w words).out := by
  intro english file holding w w' s words a
  have hread : Arguments.read words = .ok ⟨some "zh-CN", .run a⟩ := rfl
  have htext (c : Config) : (holding c).readText "c" = .ok c.render := by
    have hplace : ((holding c).emptied [[0x63]]).resolve "c" = .ok [[0x63]] := by cbv
    rw [Workspace.resolve_emptied] at hplace
    exact readText_of_encode hplace rfl
  have hsettings (c : Config) (h : c.violation? = none) : Run.settings (holding c) a = .ok c := by
    refine Run.settings_eq_ok.mpr ⟨c, ?_, rfl, h⟩
    rw [load_of_readText (htext c)]
    exact ofText_eq_ok.mpr
      ⟨read_eq_ok.mpr ⟨c.table, parse_render c, decode_eq_ok.mpr (decodedFrom_table c)⟩, h⟩
  have hspeaks := run_speaksOneLanguage s hread rfl
  have hrun := hspeaks.2.1 w english .html (hsettings english (by decide)) (by decide)
  have hemptied (c : Config) : (holding c).emptied [[0x63]] =
      { entries := [([[0x63]], .file []), ([[0x64]], .directory), ([[0x64], [0x62]], .file [])]
        here := [] } := rfl
  have hsame := hspeaks.2.2.1 rfl w w' [[0x63]] _ _ _ _
    ((hemptied english.mute).trans (hemptied english).symm) (htext english) (htext english.mute)
    (parse_render english) (parse_render english.mute) (namesLanguage_table english)
    (namesLanguage_table english.mute) rfl
  refine ⟨hread, hsettings english (by decide), hsettings english.mute (by decide), ?_, hsame.1,
    hsame.2.1⟩
  exact congrArg Prod.snd hrun.2.1

end Cli

end TapSuite

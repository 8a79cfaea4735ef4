import Mathlib
import TapSuite.Proofs.Config.Layers
import TapSuite.Proofs.Config.RoundTrip
import TapSuite.Proofs.Run.Setup
import TapSuite.Proofs.Workspace.Contents

/-!
# The settings of a run

A run has the settings of its layers: what the command line gives, else what the document gives,
else the defaults.  It has them exactly if the document is accepted, by itself and under the command
line; else the run ends with an error that names the document.

    settings w a = .ok c ↔
      Config.AcceptedUnder a.overrides t ∧ Config.layered a.overrides t = c   (settings_iff_layered)
-/

namespace TapSuite.Run

section

variable {s : Surroundings} {w : Workspace} {a : Cli.RunArguments} {language : String}
  {forced : Bool} {text : String} {t : Toml.Table} {c : Config} {e : SetupError}

theorem settings_iff_layered (htext : w.readText a.config = .ok text)
    (hparse : Toml.parse text = .ok t) (hreporter : Toml.ReportersAreTables t) :
    settings w a = .ok c ↔
      Config.AcceptedUnder a.overrides t ∧ Config.layered a.overrides t = c := by
  simp only [settings_eq_ok, load_of_readText htext, ofText_eq_ok_iff_layered hparse hreporter]
  constructor
  · rintro ⟨d, ⟨⟨hnumbers, htypes⟩, rfl, hown⟩, rfl, hnone⟩
    rw [apply_layered] at hnone ⊢
    exact ⟨⟨hnumbers, htypes, hown, violation?_eq_none_iff_meets.mp hnone⟩, rfl⟩
  · rintro ⟨⟨hnumbers, htypes, hown, hmerged⟩, rfl⟩
    exact ⟨_, ⟨⟨hnumbers, htypes⟩, rfl, hown⟩, apply_layered _ _,
      violation?_eq_none_iff_meets.mpr hmerged⟩

/-- A text with settings is a document. -/
theorem exists_parse_of_settings (htext : w.readText a.config = .ok text)
    (h : settings w a = .ok c) : ∃ t, Toml.parse text = .ok t := by
  obtain ⟨d, hload, -⟩ := settings_eq_ok.mp h
  rw [load_of_readText htext] at hload
  obtain ⟨t, hparse, -⟩ := read_eq_ok.mp (ofText_eq_ok.mp hload).1
  exact ⟨t, hparse⟩

theorem config_of_settings_error (htext : w.readText a.config = .ok text)
    (h : settings w a = .error e) : ∃ problem, e = .config a.config problem := by
  rw [settings_eq_error, load_of_readText htext] at h
  obtain h | ⟨c, -, h⟩ := h
  · exact ofText_eq_error h
  · exact validate_eq_error h

theorem registerAll_eq_error {r : Registry} {paths : List String}
    (h : r.registerAll paths = .error e) : ∃ path, e = .duplicateSuite path := by
  induction paths generalizing r with
  | nil => cases h
  | cons path paths ih =>
    unfold Registry.registerAll at h
    split at h
    · next hregister =>
      cases h
      simp only [Registry.register] at hregister
      split at hregister
      · cases hregister
        exact ⟨path, rfl⟩
      · cases hregister
    · exact ih h

/-- Only the stages that settle the settings fail for want of them. -/
theorem Stage.Fails.ne_config {stage : Stage} (h : stage.Fails s w a e)
    (hload : stage ≠ .load) (hrequirements : stage ≠ .requirements) (origin : String)
    (problem : ConfigProblem) : e ≠ .config origin problem := by
  rintro rfl
  cases stage with
  | load => exact hload rfl
  | requirements => exact hrequirements rfl
  | reporter =>
    obtain ⟨c, -, h⟩ := h
    unfold ReporterKind.named at h
    split at h <;> cases h
  | listing =>
    obtain ⟨c, -, h⟩ := h
    unfold Workspace.discover at h
    split at h <;> cases h
  | registration =>
    obtain ⟨c, suites, -, -, h⟩ := h
    obtain ⟨path, hpath⟩ := registerAll_eq_error h
    cases hpath
  | commandLine =>
    obtain ⟨c, problem, -, -, h⟩ := h
    cases h
  | launch =>
    obtain ⟨c, suites, line, suite, -, -, -, -, h⟩ := h
    obtain ⟨fault, -, h⟩ := Engine.runSuite_eq_error.mp h
    cases h

/-- With its settings, a run does not fail for want of them. -/
theorem ne_config_of_settings (h : settings w a = .ok c) (origin : String)
    (problem : ConfigProblem) :
    (command s w a language forced).1.result ≠ .error (.config origin problem) := by
  intro hresult
  -- such an error could only come from a stage that has already succeeded
  obtain ⟨stage, hgoes⟩ := exists_goes_some hresult
  have hfails := hgoes.failsFirst.1
  have hsucceeds := succeeds_settings (s := s) h
  refine hfails.ne_config ?_ ?_ origin problem rfl
  · rintro rfl
    exact hsucceeds .load (by decide) _ hfails
  · rintro rfl
    exact hsucceeds .requirements (by decide) _ hfails

end

/-- The layers of the settings are merged one setting at a time, and nothing invalid gets through.
A run has settings exactly if its document is accepted, and they are those of the layers; unknown
keys make no difference.  Else the run ends with an error about the settings that names the
document, which it never does when it has them. -/
theorem settings_layered (s : Surroundings) {w : Workspace} {a : Cli.RunArguments} {text : String}
    (language : String) (forced : Bool) (htext : w.readText a.config = .ok text)
    (hreporter : ∀ t, Toml.parse text = .ok t → Toml.ReportersAreTables t) :
    let accepted := ∃ t, Toml.parse text = .ok t ∧ Config.AcceptedUnder a.overrides t
    let run := command s w a language forced
    ((∃ c, settings w a = .ok c) ↔ accepted) ∧
    (∀ t c, Toml.parse text = .ok t → settings w a = .ok c →
      c = Config.layered a.overrides t ∧
        ∃ locale standing, run = (withSettings s w c locale standing, standing)) ∧
    (∀ w' text' t t', w'.readText a.config = .ok text' → Toml.parse text = .ok t →
      Toml.parse text' = .ok t' → Toml.ReportersAreTables t' → allEntriesTyped t = true →
      allEntriesTyped t' = true → knownEntries t' = knownEntries t →
      ∀ c, settings w' a = .ok c ↔ settings w a = .ok c) ∧
    (¬ accepted → ∃ problem, run.1.result = .error (.config a.config problem)) ∧
    (accepted → ∀ origin problem, run.1.result ≠ .error (.config origin problem)) := by
  intro accepted run
  have haccepted : (∃ c, settings w a = .ok c) ↔ accepted := by
    constructor
    · rintro ⟨c, hc⟩
      obtain ⟨t, hparse⟩ := exists_parse_of_settings htext hc
      exact ⟨t, hparse, ((settings_iff_layered htext hparse (hreporter t hparse)).mp hc).1⟩
    · rintro ⟨t, hparse, h⟩
      exact ⟨_, (settings_iff_layered htext hparse (hreporter t hparse)).mpr ⟨h, rfl⟩⟩
  refine ⟨haccepted, ?_, ?_, ?_, ?_⟩
  · intro t c hparse hc
    refine ⟨((settings_iff_layered htext hparse (hreporter t hparse)).mp hc).2.symm,
      (languages c language forced s.locale).1, (languages c language forced s.locale).2, ?_⟩
    simp only [run, command, hc]
  · -- both sides of acceptance are read off the known entries
    intro w' text' t t' htext' hparse hparse' hreporter' hnumbers hnumbers' hknown c
    rw [settings_iff_layered htext hparse (hreporter t hparse),
      settings_iff_layered htext' hparse' hreporter']
    have hlayered (o : Overrides) : Config.layered o t' = Config.layered o t := by
      rw [← layered_knownEntries o t', hknown, layered_knownEntries]
    have htypes : RightTypes t' ↔ RightTypes t := by
      rw [← rightTypes_knownEntries t', hknown, rightTypes_knownEntries]
    simp only [Config.acceptedUnder_iff, hlayered, htypes, hnumbers, hnumbers']
  · intro hnot
    cases hsettings : settings w a with
    | ok c => exact absurd (haccepted.mp ⟨c, hsettings⟩) hnot
    | error e =>
      obtain ⟨problem, rfl⟩ := config_of_settings_error htext hsettings
      refine ⟨problem, ?_⟩
      simp only [run, command_of_settings_error hsettings]
      rfl
  · intro hok origin problem
    obtain ⟨c, hc⟩ := haccepted.mpr hok
    exact ne_config_of_settings hc origin problem

/-- A document with a setting, an unknown key and a part of the reporter's table, under a command
line with two settings. -/
theorem settings_layered_partly :
    let fields := [numberField "jobs" 2 (by decide), numberField "x" 1 (by decide)]
    let inner := [textField "name" "spec" (by decide)]
    let text := String.ofList (Toml.sectionsText fields "reporter" inner)
    let w : Workspace :=
      { entries := [([[0x63]], .file (Text.Utf8.encode text.toList))], here := [] }
    let a : Cli.RunArguments :=
      { config := "c", overrides := { suffix := some ".sh", reporter := some "json" } }
    w.readText "c" = .ok text ∧
      settings w a = .ok { suffix := ".sh", jobs := 2, reporter := { name := "json" } } := by
  intro fields inner text w a
  let t : Toml.Table :=
    [("jobs", .integer 2), ("x", .integer 1), ("reporter", .table [("name", .text "spec")])]
  have hplace : (w.emptied [[0x63]]).resolve "c" = .ok [[0x63]] := by cbv
  rw [Workspace.resolve_emptied] at hplace
  have htext : w.readText "c" = .ok text := readText_of_encode hplace rfl
  have hparse : Toml.parse text = .ok t :=
    Toml.parse_sections (by decide) (by decide) (by decide) (by decide)
  have hreporter : Toml.ReportersAreTables t := by
    intro v hv
    simp [t] at hv
    exact ⟨_, hv⟩
  have hreporter' (t' : Toml.Table) (hparse' : Toml.parse text = .ok t') :
      Toml.ReportersAreTables t' := by
    cases hparse.symm.trans hparse'
    exact hreporter
  obtain ⟨hsettings, hlayered, -⟩ := settings_layered (w := w) (a := a)
    { launch := fun _ _ => .error .notFound } "en" false htext hreporter'
  have haccepted : Config.AcceptedUnder a.overrides t := by
    refine ⟨by decide, ?_, violation?_eq_none_iff_meets.mp (by decide),
      violation?_eq_none_iff_meets.mp (by decide)⟩
    simp [RightTypes, t, settingTypes, Wanted.Fits, Toml.Value.IsBelow, Toml.Value.IsText,
      List.lookup_cons]
  obtain ⟨c, hc⟩ := hsettings.mpr ⟨t, hparse, haccepted⟩
  rw [hc, (hlayered t c hparse hc).1]
  exact ⟨htext, rfl⟩

end TapSuite.Run

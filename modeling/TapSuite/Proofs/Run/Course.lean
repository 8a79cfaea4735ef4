import TapSuite.Proofs.Run.Verdict
import TapSuite.Run.Stages

/-!
# The course of a run

A run goes through its stages one after the other.  A stage that fails ends it, with the lines of
the stages before; if none fails, the run has a verdict.  Which of this happens, and with which
outcome, is all that a run can do.

    ∃ ending, Goes s w a language forced ending (command s w a language forced).1     (exists_goes)
-/

namespace TapSuite.Run

/-! ## Pipelines -/

theorem after_after {α : Type} (before lines : List String) (o : RunOutcome α) :
    after before (after lines o) = after (before ++ lines) o := by
  simp only [after, List.append_assoc]

section Pipelines

variable {σ : Type} {d : Display} {c : Config} {engine : Engine σ} {start state : σ}
  {w : Workspace} {suites : List SuiteFile} {e : SetupError}

theorem pipeline_of_listing (reporter : Reporter)
    (h : w.discover c.suitesDir c.suffix = .error e) :
    pipeline d c engine start reporter w = after [discoveringLine d c.suitesDir] (failed w e) := by
  rw [pipeline, h]

theorem pipeline_of_registration (reporter : Reporter)
    (hdiscovered : w.discover c.suitesDir c.suffix = .ok suites)
    (h : engine.addAll start (suites.map (·.path)) = .error e) :
    pipeline d c engine start reporter w =
      after [discoveringLine d c.suitesDir, foundLine d c.suffix suites] (failed w e) := by
  rw [pipeline, hdiscovered]
  simp only [h, after_after, List.singleton_append]

/-- With all suites registered, the engine runs once, and nothing is printed before its lines but
what was found. -/
theorem pipeline_of_registered (reporter : Reporter)
    (hdiscovered : w.discover c.suitesDir c.suffix = .ok suites)
    (h : engine.addAll start (suites.map (·.path)) = .ok state) :
    pipeline d c engine start reporter w =
      after [discoveringLine d c.suitesDir, foundLine d c.suffix suites]
        (execute d engine reporter c.failureExitCode w state) := by
  rw [pipeline, hdiscovered]
  simp only [h, after_after, List.singleton_append]

theorem execute_of_error (reporter : Reporter) (failureCode : UInt8)
    (h : (engine.run state).result = .error e) :
    execute d engine reporter failureCode w state =
      after (engine.run state).lines
        { failed w e with started := some (engine.run state).started } := by
  rw [execute, h]

theorem execute_of_summary (reporter : Reporter) (failureCode : UInt8) {summary : Summary}
    (h : (engine.run state).result = .ok summary) :
    execute d engine reporter failureCode w state =
      after (engine.run state).lines
        { conclude d reporter failureCode w summary with
          started := some (engine.run state).started } := by
  rw [execute, h]

/-- A pipeline that ends with an error does the same with every reporter: none of them runs. -/
theorem pipeline_of_error {reporter : Reporter}
    (h : (pipeline d c engine start reporter w).result = .error e) (other : Reporter) :
    pipeline d c engine start other w = pipeline d c engine start reporter w := by
  cases hdiscovered : w.discover c.suitesDir c.suffix with
  | error e' => rw [pipeline_of_listing _ hdiscovered, pipeline_of_listing _ hdiscovered]
  | ok suites =>
    cases hadded : engine.addAll start (suites.map (·.path)) with
    | error e' =>
      rw [pipeline_of_registration _ hdiscovered hadded,
        pipeline_of_registration _ hdiscovered hadded]
    | ok state =>
      rw [pipeline_of_registered _ hdiscovered hadded] at h
      rw [pipeline_of_registered _ hdiscovered hadded,
        pipeline_of_registered _ hdiscovered hadded]
      cases hrun : (engine.run state).result with
      | error e' => rw [execute_of_error _ _ hrun, execute_of_error _ _ hrun]
      | ok summary =>
        rw [execute_of_summary _ _ hrun] at h
        cases h

end Pipelines

/-! ## Courses -/

/-- What a run has before its engine runs: settings, a reporter, and suites that are found and
registered. -/
structure Prepared (w : Workspace) (a : Cli.RunArguments) (c : Config) (kind : ReporterKind)
    (suites : List SuiteFile) (r : Registry) : Prop where
  settings : settings w a = .ok c
  reporter : ReporterKind.named c.reporter.name = .ok kind
  discovered : w.discover c.suitesDir c.suffix = .ok suites
  registered : ({} : Registry).registerAll (suites.map (·.path)) = .ok r

section

variable (s : Surroundings) (w : Workspace) (a : Cli.RunArguments) (language : String)
  (forced : Bool)

/-- How a run with some settings prints its own lines. -/
def display (c : Config) : Display := ⟨(languages c language forced s.locale).1, s.colours⟩

def engineOf (c : Config) : Engine.Setting :=
  engineSetting s c (languages c language forced s.locale).2

/-- The lines of a run up to its engine's. -/
def openingLines (d : Display) (c : Config) (kind : ReporterKind) (suites : List SuiteFile) :
    List String :=
  [reporterLine d kind, discoveringLine d c.suitesDir, foundLine d c.suffix suites]

/-- How a run goes: the stage that ends it, with its error, if one does, and the outcome. -/
inductive Goes : Option (Stage × SetupError) → RunOutcome (Summary × ExitStatus) → Prop where
  | load {e : SetupError} (h : Config.load w a.config a.configNamed = .error e) :
    Goes (some (.load, e)) (failed w e)
  | requirements {c : Config} {e : SetupError}
    (hload : Config.load w a.config a.configNamed = .ok c)
    (h : (c.apply a.overrides).validate a.config = .error e) :
    Goes (some (.requirements, e)) (failed w e)
  | reporter {c : Config} {e : SetupError} (hsettings : settings w a = .ok c)
    (h : ReporterKind.named c.reporter.name = .error e) : Goes (some (.reporter, e)) (failed w e)
  | listing {c : Config} {kind : ReporterKind} {e : SetupError} (hsettings : settings w a = .ok c)
    (hreporter : ReporterKind.named c.reporter.name = .ok kind)
    (h : w.discover c.suitesDir c.suffix = .error e) :
    Goes (some (.listing, e))
      (after [reporterLine (display s language forced c) kind,
        discoveringLine (display s language forced c) c.suitesDir] (failed w e))
  | registration {c : Config} {kind : ReporterKind} {suites : List SuiteFile} {e : SetupError}
    (hsettings : settings w a = .ok c) (hreporter : ReporterKind.named c.reporter.name = .ok kind)
    (hdiscovered : w.discover c.suitesDir c.suffix = .ok suites)
    (h : ({} : Registry).registerAll (suites.map (·.path)) = .error e) :
    Goes (some (.registration, e))
      (after (openingLines (display s language forced c) c kind suites) (failed w e))
  | commandLine {c : Config} {kind : ReporterKind} {suites : List SuiteFile} {r : Registry}
    {problem : EngineProblem} (hprepared : Prepared w a c kind suites r)
    (h : Command.parse s.environment c.command = .error problem) :
    Goes (some (.commandLine, .engine problem))
      (after (openingLines (display s language forced c) c kind suites)
        { failed w (.engine problem) with started := some [] })
  | launch {c : Config} {kind : ReporterKind} {suites : List SuiteFile} {r : Registry}
    {line : Command.Line} {e : SetupError} (hprepared : Prepared w a c kind suites r)
    (hline : Command.parse s.environment c.command = .ok line)
    (h : (Engine.runSuites (engineOf s language forced c) line suites).result = .error e) :
    Goes (some (.launch, e))
      (after (openingLines (display s language forced c) c kind suites ++
          (Engine.runSuites (engineOf s language forced c) line suites).lines)
        { failed w e with started := some suites })
  | verdict {c : Config} {kind : ReporterKind} {suites : List SuiteFile} {r : Registry}
    {line : Command.Line} {summary : Summary} (hprepared : Prepared w a c kind suites r)
    (hline : Command.parse s.environment c.command = .ok line)
    (h : (Engine.runSuites (engineOf s language forced c) line suites).result = .ok summary) :
    Goes none
      (after (openingLines (display s language forced c) c kind suites ++
          (Engine.runSuites (engineOf s language forced c) line suites).lines)
        { conclude (display s language forced c)
            (kind.reporter s.colours (display s language forced c).locale c.reporter)
            c.failureExitCode w summary with
          started := some suites })

end

section Courses

variable {s : Surroundings} {w : Workspace} {a : Cli.RunArguments} {language : String}
  {forced : Bool} {c : Config} {kind : ReporterKind} {suites : List SuiteFile} {r : Registry}

theorem command_of_settings_error {e : SetupError} (h : settings w a = .error e) :
    (command s w a language forced).1 = failed w e := by
  rw [command, h]

theorem command_of_settings (h : settings w a = .ok c) :
    (command s w a language forced).1 =
      withSettings s w c (display s language forced c).locale
        (languages c language forced s.locale).2 := by
  rw [command, h]
  rfl

/-- With its settings and a reporter, the run is a pipeline after the line that names the
reporter. -/
theorem command_of_reporter (hsettings : settings w a = .ok c)
    (h : ReporterKind.named c.reporter.name = .ok kind) :
    let d := display s language forced c
    (command s w a language forced).1 =
      after [reporterLine d kind]
        (pipeline d c (Engine.command (engineOf s language forced c)) {}
          (kind.reporter s.colours d.locale c.reporter) w) := by
  rw [command_of_settings hsettings]
  simp only [withSettings, h]
  rfl

theorem Prepared.command (h : Prepared w a c kind suites r) :
    let d := display s language forced c
    (command s w a language forced).1 =
      after (openingLines d c kind suites)
        (execute d (Engine.command (engineOf s language forced c))
          (kind.reporter s.colours d.locale c.reporter) c.failureExitCode w r) := by
  intro d
  rw [command_of_reporter h.settings h.reporter, pipeline_of_registered _ h.discovered
    ((Engine.addAll_command _ _ _).trans h.registered), after_after]
  rfl

/-- The engine of a prepared run runs all suites that were found. -/
theorem Prepared.run (h : Prepared w a c kind suites r) {line : Command.Line}
    (hline : Command.parse s.environment c.command = .ok line) :
    Engine.runRegistered (engineOf s language forced c) r =
      Engine.runSuites (engineOf s language forced c) line suites := by
  have hparse : Command.parse (engineOf s language forced c).environment
    (engineOf s language forced c).command = .ok line := hline
  rw [Engine.runRegistered_of_parse hparse, suites_of_registered h.discovered h.registered]

theorem run_of_problem (r : Registry) {problem : EngineProblem}
    (h : Command.parse s.environment c.command = .error problem) :
    Engine.runRegistered (engineOf s language forced c) r =
      { result := .error (.engine problem) } := by
  have hparse : Command.parse (engineOf s language forced c).environment
    (engineOf s language forced c).command = .error problem := h
  rw [Engine.runRegistered, hparse]

theorem settings_eq_error {e : SetupError} :
    settings w a = .error e ↔ Config.load w a.config a.configNamed = .error e ∨
      ∃ c, Config.load w a.config a.configNamed = .ok c ∧
        (c.apply a.overrides).validate a.config = .error e := by
  unfold settings
  cases Config.load w a.config a.configNamed with
  | error e' => simp
  | ok c =>
    cases hvalid : (c.apply a.overrides).validate a.config with
    | error e' => simp [hvalid]
    | ok u => simp [hvalid]

/-- Where there is no file of settings and none was asked for, the settings are the defaults as the
command line changes them. -/
theorem settings_of_absent (hnamed : a.configNamed = false) (habsent : w.holds a.config = false)
    (hvalid : (Config.apply {} a.overrides).validate a.config = .ok ()) :
    settings w a = .ok (Config.apply {} a.overrides) := by
  have hload : Config.load w a.config a.configNamed = .ok {} := by
    rw [Config.load, hnamed, habsent]
    rfl
  rw [settings, hload]
  simp only [hvalid]

/-- A course leads to the outcome of the run. -/
theorem Goes.outcome {ending : Option (Stage × SetupError)}
    {o : RunOutcome (Summary × ExitStatus)} (h : Goes s w a language forced ending o) :
    (command s w a language forced).1 = o := by
  cases h with
  | load h => exact command_of_settings_error (settings_eq_error.mpr (.inl h))
  | requirements hload h =>
    exact command_of_settings_error (settings_eq_error.mpr (.inr ⟨_, hload, h⟩))
  | reporter hsettings h =>
    rw [command_of_settings hsettings, withSettings, h]
  | listing hsettings hreporter h =>
    rw [command_of_reporter hsettings hreporter, pipeline_of_listing _ h, after_after]
    rfl
  | registration hsettings hreporter hdiscovered h =>
    rw [command_of_reporter hsettings hreporter, pipeline_of_registration _ hdiscovered
      ((Engine.addAll_command _ _ _).trans h), after_after]
    rfl
  | @commandLine c kind suites r problem hprepared h =>
    have hrun : (Engine.command (engineOf s language forced c)).run r = _ := run_of_problem r h
    rw [hprepared.command, execute, hrun]
    rfl
  | @launch c kind suites r line e hprepared hline h =>
    have hrun : (Engine.command (engineOf s language forced c)).run r = _ := hprepared.run hline
    rw [hprepared.command, execute, hrun, h, after_after]
    rfl
  | @verdict c kind suites r line summary hprepared hline h =>
    have hrun : (Engine.command (engineOf s language forced c)).run r = _ := hprepared.run hline
    rw [hprepared.command, execute, hrun, h, after_after]
    rfl

variable (s w a language forced) in
/-- Every run takes one of the courses. -/
theorem exists_goes : ∃ ending, Goes s w a language forced ending
    (command s w a language forced).1 := by
  suffices h : ∃ ending o, Goes s w a language forced ending o by
    obtain ⟨ending, o, h⟩ := h
    exact ⟨ending, h.outcome ▸ h⟩
  cases hsettings : settings w a with
  | error e =>
    rcases settings_eq_error.mp hsettings with hload | ⟨c, hload, hvalid⟩
    · exact ⟨_, _, .load hload⟩
    · exact ⟨_, _, .requirements hload hvalid⟩
  | ok c =>
  cases hreporter : ReporterKind.named c.reporter.name with
  | error e => exact ⟨_, _, .reporter hsettings hreporter⟩
  | ok kind =>
  cases hdiscovered : w.discover c.suitesDir c.suffix with
  | error e => exact ⟨_, _, .listing hsettings hreporter hdiscovered⟩
  | ok suites =>
  cases hregistered : ({} : Registry).registerAll (suites.map (·.path)) with
  | error e => exact ⟨_, _, .registration hsettings hreporter hdiscovered hregistered⟩
  | ok r =>
  have hprepared : Prepared w a c kind suites r :=
    ⟨hsettings, hreporter, hdiscovered, hregistered⟩
  cases hline : Command.parse s.environment c.command with
  | error problem => exact ⟨_, _, .commandLine hprepared hline⟩
  | ok line =>
  cases hrun : (Engine.runSuites (engineOf s language forced c) line suites).result with
  | error e => exact ⟨_, _, .launch hprepared hline hrun⟩
  | ok summary => exact ⟨_, _, .verdict hprepared hline hrun⟩

end Courses

end TapSuite.Run

import TapSuite.Proofs.Results
import TapSuite.Run.Command

/-!
# The steps of a run

The run subcommand is a chain of steps: settings, reporter, listing, registration, engine.  Its
result is that of the chain; what is printed and reported on the way does not show in it.
-/

namespace TapSuite

namespace Engine

theorem addAll_command (s : Setting) (r : Registry) (paths : List String) :
    (command s).addAll r paths = r.registerAll paths := by
  induction paths generalizing r with
  | nil => rfl
  | cons path paths ih =>
    have hadd : (command s).addFile r path = r.register path := rfl
    rw [Engine.addAll, Registry.registerAll, hadd]
    cases r.register path with
    | error e => rfl
    | ok r => exact ih r

end Engine

theorem Registry.suites_of_registerAll {r r' : Registry} {paths : List String}
    (h : r.registerAll paths = .ok r') : r'.suites = r.suites ++ paths.map SuiteFile.ofPath := by
  induction paths generalizing r with
  | nil =>
    cases h
    simp
  | cons path paths ih =>
    unfold Registry.registerAll at h
    split at h
    · cases h
    next next hnext =>
    simp only [Registry.register] at hnext
    split at hnext
    · cases hnext
    cases hnext
    rw [ih h]
    simp

theorem Workspace.ofPath_of_mem_discover {w : Workspace} {dir suffix : String}
    {suites : List SuiteFile} (h : w.discover dir suffix = .ok suites) :
    ∀ suite ∈ suites, SuiteFile.ofPath suite.path = suite := by
  intro suite hsuite
  unfold Workspace.discover at h
  split at h
  · cases h
  cases h
  obtain ⟨name, -, hname⟩ := List.mem_filterMap.mp hsuite
  simp only [Workspace.suite?] at hname
  split at hname
  · cases hname
  split at hname
  · split at hname
    · cases hname
      rfl
    · cases hname
  · cases hname

namespace Run

/-- The registry holds the suites that were discovered. -/
theorem suites_of_registered {w : Workspace} {dir suffix : String} {suites : List SuiteFile}
    (hdiscovered : w.discover dir suffix = .ok suites)
    {r : Registry} (hr : ({} : Registry).registerAll (suites.map (·.path)) = .ok r) :
    r.suites = suites := by
  rw [Registry.suites_of_registerAll hr, List.map_map, List.nil_append]
  exact (List.map_congr_left (Workspace.ofPath_of_mem_discover hdiscovered)).trans (List.map_id _)

theorem result_execute {σ : Type} (d : Display) (engine : Engine σ) (reporter : Reporter)
    (failureCode : UInt8) (w : Workspace) (state : σ) :
    (execute d engine reporter failureCode w state).result = (do
      let summary ← (engine.run state).result
      .ok (summary, .ofFailures summary.failures failureCode)) := by
  simp only [execute]
  cases (engine.run state).result with
  | error e => rfl
  | ok summary => rfl

/-- A pipeline is a chain of steps; what it prints and reports does not show in its result. -/
theorem result_pipeline {σ : Type} (d : Display) (c : Config) (engine : Engine σ) (start : σ)
    (reporter : Reporter) (w : Workspace) :
    (pipeline d c engine start reporter w).result = (do
      let suites ← w.discover c.suitesDir c.suffix
      let state ← engine.addAll start (suites.map (·.path))
      let summary ← (engine.run state).result
      .ok (summary, .ofFailures summary.failures c.failureExitCode)) := by
  unfold pipeline
  cases w.discover c.suitesDir c.suffix with
  | error e => rfl
  | ok suites =>
    simp only [after, ok_bind]
    cases engine.addAll start (suites.map (·.path)) with
    | error e => rfl
    | ok state => exact result_execute d engine reporter c.failureExitCode w state

theorem result_withSettings (s : Surroundings) (w : Workspace) (c : Config)
    (locale standing : String) :
    (withSettings s w c locale standing).result = (do
      let _ ← ReporterKind.named c.reporter.name
      let suites ← w.discover c.suitesDir c.suffix
      let r ← ({} : Registry).registerAll (suites.map (·.path))
      let summary ← (Engine.runRegistered (engineSetting s c standing) r).result
      .ok (summary, .ofFailures summary.failures c.failureExitCode)) := by
  simp only [withSettings]
  cases ReporterKind.named c.reporter.name with
  | error e => rfl
  | ok kind =>
    change (pipeline _ c _ _ _ w).result = _
    rw [result_pipeline]
    simp only [Engine.addAll_command]
    rfl

/-- The result of the run subcommand is that of a chain of steps. -/
theorem result_command (s : Surroundings) (w : Workspace) (a : Cli.RunArguments)
    (language : String) (forced : Bool) :
    (command s w a language forced).1.result = (do
      let c ← settings w a
      let _ ← ReporterKind.named c.reporter.name
      let suites ← w.discover c.suitesDir c.suffix
      let r ← ({} : Registry).registerAll (suites.map (·.path))
      let standing := (languages c language forced s.locale).2
      let summary ← (Engine.runRegistered (engineSetting s c standing) r).result
      .ok (summary, .ofFailures summary.failures c.failureExitCode)) := by
  unfold command
  cases settings w a with
  | error e => rfl
  | ok c => exact result_withSettings s w c _ _

end Run

end TapSuite

import TapSuite.Cli.Run
import TapSuite.Proofs.Run.Course
import TapSuite.Proofs.Workspace.Contents

/-!
# Runs do not read files

Once its settings are loaded, a run reads no file: it finds the suites by their names, and the
engine starts them by their paths.  So with the same settings it does the same in two workspaces
that differ in the contents of one file only.

    w'.emptied p = w.emptied p →
      (withSettings s w' c locale standing).emptied p =
        (withSettings s w c locale standing).emptied p                       (emptied_withSettings)
-/

namespace TapSuite

/-! ## Outcomes but for one file -/

/-- The outcome of a report, with nothing in the file at a position. -/
def ReportOutcome.emptied (o : ReportOutcome) (p : Workspace.Position) : ReportOutcome :=
  { o with workspace := o.workspace.emptied p }

/-- The outcome of a run, with nothing in the file at a position. -/
def RunOutcome.emptied {α : Type} (o : RunOutcome α) (p : Workspace.Position) : RunOutcome α :=
  { o with workspace := o.workspace.emptied p }

/-- The end of the program, with nothing in the file at a position. -/
def Cli.Ended.emptied (e : Cli.Ended) (p : Workspace.Position) : Cli.Ended :=
  { e with workspace := e.workspace.emptied p }

variable {w w' : Workspace} {p : Workspace.Position}

theorem emptied_ofFile {r r' : Except ArtifactError String × Workspace}
    (h : r'.1 = r.1 ∧ r'.2.emptied p = r.2.emptied p) :
    (ReportOutcome.ofFile r').emptied p = (ReportOutcome.ofFile r).emptied p := by
  obtain ⟨result, left⟩ := r
  obtain ⟨result', left'⟩ := r'
  obtain ⟨rfl, hleft⟩ := h
  cases result' <;> simpa [ReportOutcome.ofFile, ReportOutcome.emptied] using hleft

/-- No reporter reads a file. -/
theorem emptied_reporter (h : w'.emptied p = w.emptied p) (colours : Bool) (locale : String)
    (options : ReporterConfig) (kind : ReporterKind) (summary : Summary) :
    (kind.reporter colours locale options summary w').emptied p =
      (kind.reporter colours locale options summary w).emptied p := by
  cases kind with
  | spec => simpa [ReporterKind.reporter, ReportOutcome.emptied] using h
  | html => exact emptied_ofFile (Workspace.writeArtifact_of_emptied h _ _ _)
  | json => exact emptied_ofFile (Workspace.writeArtifact_of_emptied h _ _ _)

namespace Run

theorem emptied_after {α : Type} (lines : List String) (o : RunOutcome α) :
    (after lines o).emptied p = after lines (o.emptied p) := rfl

theorem emptied_failed {α : Type} (h : w'.emptied p = w.emptied p) (e : SetupError) :
    (failed w' e : RunOutcome α).emptied p = (failed w e).emptied p := by
  simp only [failed, RunOutcome.emptied, h]

section Pipelines

variable {d : Display} {reporter : Reporter}

theorem emptied_conclude {summary : Summary} (failureCode : UInt8)
    (h : (reporter summary w').emptied p = (reporter summary w).emptied p) :
    (conclude d reporter failureCode w' summary).emptied p =
      (conclude d reporter failureCode w summary).emptied p := by
  simp only [ReportOutcome.emptied, ReportOutcome.mk.injEq] at h
  obtain ⟨hlines, hresult, hleft⟩ := h
  simp only [conclude, reportLines, RunOutcome.emptied, hlines, hresult, hleft]

/-- The engine never sees the workspace, so only the report could tell two of them apart. -/
theorem emptied_execute {σ : Type} (engine : Engine σ) (failureCode : UInt8) (state : σ)
    (h : w'.emptied p = w.emptied p)
    (hreporter : ∀ summary, (reporter summary w').emptied p = (reporter summary w).emptied p) :
    (execute d engine reporter failureCode w' state).emptied p =
      (execute d engine reporter failureCode w state).emptied p := by
  let started (o : RunOutcome (Summary × ExitStatus)) : RunOutcome (Summary × ExitStatus) :=
    after (engine.run state).lines { o with started := some (engine.run state).started }
  cases hrun : (engine.run state).result with
  | error e =>
    rw [execute_of_error _ _ hrun, execute_of_error _ _ hrun]
    exact congrArg started (emptied_failed h e)
  | ok summary =>
    rw [execute_of_summary _ _ hrun, execute_of_summary _ _ hrun]
    exact congrArg started (emptied_conclude failureCode (hreporter summary))

theorem emptied_pipeline {σ : Type} (c : Config) (engine : Engine σ) (start : σ)
    (h : w'.emptied p = w.emptied p)
    (hreporter : ∀ summary, (reporter summary w').emptied p = (reporter summary w).emptied p) :
    (pipeline d c engine start reporter w').emptied p =
      (pipeline d c engine start reporter w).emptied p := by
  -- the suites are those that are found where the file is empty
  have hfound : w'.discover c.suitesDir c.suffix = w.discover c.suitesDir c.suffix := by
    rw [← Workspace.discover_emptied w' p, h, Workspace.discover_emptied]
  simp only [pipeline, hfound, emptied_after]
  cases w.discover c.suitesDir c.suffix with
  | error e => exact congrArg (after _) (emptied_failed h e)
  | ok suites =>
    simp only [emptied_after]
    cases engine.addAll start (suites.map (·.path)) with
    | error e => exact congrArg (after _ <| after _ ·) (emptied_failed h e)
    | ok state =>
      exact congrArg (after _ <| after _ ·) (emptied_execute engine _ state h hreporter)

end Pipelines

theorem emptied_withSettings (s : Surroundings) (c : Config) (locale standing : String)
    (h : w'.emptied p = w.emptied p) :
    (withSettings s w' c locale standing).emptied p =
      (withSettings s w c locale standing).emptied p := by
  unfold withSettings
  cases ReporterKind.named c.reporter.name with
  | error e => exact emptied_failed h e
  | ok kind =>
    have hreporter := emptied_reporter h s.colours locale c.reporter kind
    exact congrArg (after _) (emptied_pipeline c _ _ h hreporter)

end Run

namespace Cli

/-- What is left in the file is not seen in the end of a run. -/
theorem emptied_endOfRun {o o' : RunOutcome (Summary × ExitStatus)} (colours : Bool)
    (h : o'.emptied p = o.emptied p) :
    (endOfRun colours o').emptied p = (endOfRun colours o).emptied p := by
  simp only [RunOutcome.emptied, RunOutcome.mk.injEq] at h
  obtain ⟨hout, herr, -, hleft, hresult⟩ := h
  simp only [endOfRun, hout, herr, hresult]
  cases o.result <;> simpa [Ended.emptied] using hleft

end Cli

end TapSuite

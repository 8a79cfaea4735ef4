import TapSuite.Proofs.Run.Course

/-!
# Reports and the verdict

A run comes to the same end whatever its reporter does.  A run that ends with an error does not ask
its reporter at all.  In any other run the report stands between lines that do not depend on it: its
own lines and, if it returned a path, the line about that file.  If it fails, there is one line on
the error stream.

    (pipeline d c engine start reporter' w).result = (pipeline d c engine start reporter w).result
                                                                            (pipeline_anyReporter)
-/

namespace TapSuite.Run

/-! ## What a report adds -/

/-- Whether a run is made up of a report and of lines before and after it.  Only a report that
returned a path has the line about its file, and only one that failed has a line on the error
stream. -/
structure Surrounds (d : Display) (before after : List String) (report : ReportOutcome)
    {α : Type} (o : RunOutcome α) : Prop where
  written : ∀ path, report.result = .ok (some path) →
    o.out = before ++ report.lines ++
      ["", Locale.say d.locale "report.written" [("path", path)]] ++ after
  unwritten : (∀ path, report.result ≠ .ok (some path)) →
    o.out = before ++ report.lines ++ after
  refused : ∀ e, report.result = .error e → o.err = [writeFailedLine d e]
  unrefused : (∀ e, report.result ≠ .error e) → o.err = []
  workspace : o.workspace = report.workspace

section Reports

variable {d : Display} {before lines : List String}

/-- The lines that a report leads to. -/
theorem reportLines_cases (report : ReportOutcome) :
    (∃ path, report.result = .ok (some path) ∧ reportLines d report =
      (report.lines ++ ["", Locale.say d.locale "report.written" [("path", path)]], [])) ∨
    (report.result = .ok none ∧ reportLines d report = (report.lines, [])) ∨
    ∃ e, report.result = .error e ∧
      reportLines d report = (report.lines, [writeFailedLine d e]) := by
  unfold reportLines
  cases report.result with
  | error e => exact .inr (.inr ⟨e, rfl, rfl⟩)
  | ok path? =>
    cases path? with
    | none => exact .inr (.inl ⟨rfl, by simp only [writtenLines, List.append_nil]⟩)
    | some path => exact .inl ⟨path, rfl, rfl⟩

/-- What follows when the engine has run: the table, the report and the verdict. -/
theorem surrounds_conclude (reporter : Reporter) (failureCode : UInt8) (w : Workspace)
    (summary : Summary) :
    Surrounds d (Report.table d.colours d.locale summary)
      (verdictLines d summary (.ofFailures summary.failures failureCode)) (reporter summary w)
      (conclude d reporter failureCode w summary) := by
  rcases reportLines_cases (d := d) (reporter summary w) with
    ⟨path, hresult, hlines⟩ | ⟨hresult, hlines⟩ | ⟨e, hresult, hlines⟩
  all_goals
    constructor
    all_goals simp [conclude, hlines, hresult]

theorem Surrounds.after {following : List String} {report : ReportOutcome} {α : Type}
    {o : RunOutcome α} (h : Surrounds d before following report o) :
    Surrounds d (lines ++ before) following report (after lines o) where
  written path hpath := by simp only [Run.after, h.written path hpath, List.append_assoc]
  unwritten hnone := by simp only [Run.after, h.unwritten hnone, List.append_assoc]
  refused := h.refused
  unrefused := h.unrefused
  workspace := h.workspace

end Reports

/-! ## Any reporter -/

section Runs

variable {σ : Type} {d : Display} {c : Config} {engine : Engine σ} {start state : σ}
  {w : Workspace} {suites : List SuiteFile}

/-- The suites that are started do not depend on the reporter. -/
theorem started_pipeline (reporter reporter' : Reporter) :
    (pipeline d c engine start reporter' w).started =
      (pipeline d c engine start reporter w).started := by
  cases hdiscovered : w.discover c.suitesDir c.suffix with
  | error e => rw [pipeline_of_listing _ hdiscovered, pipeline_of_listing _ hdiscovered]
  | ok suites =>
    cases hadded : engine.addAll start (suites.map (·.path)) with
    | error e =>
      rw [pipeline_of_registration _ hdiscovered hadded,
        pipeline_of_registration _ hdiscovered hadded]
    | ok state =>
      rw [pipeline_of_registered _ hdiscovered hadded, pipeline_of_registered _ hdiscovered hadded]
      rfl

/-- A run with a result has come to its report. -/
theorem exists_surrounds {reporter : Reporter} {summary : Summary} {status : ExitStatus}
    (h : (pipeline d c engine start reporter w).result = .ok (summary, status)) :
    ∃ before following, ∀ reporter' : Reporter,
      Surrounds d before following (reporter' summary w)
        (pipeline d c engine start reporter' w) := by
  simp only [result_pipeline, bind_eq_ok] at h
  obtain ⟨suites, hdiscovered, state, hadded, summary', hrun, hresult⟩ := h
  cases hresult
  refine ⟨[discoveringLine d c.suitesDir, foundLine d c.suffix suites] ++
      (engine.run state).lines ++ Report.table d.colours d.locale summary,
    verdictLines d summary (.ofFailures summary.failures c.failureExitCode), fun reporter' => ?_⟩
  rw [pipeline_of_registered _ hdiscovered hadded, execute_of_summary _ _ hrun, after_after]
  have hconclude := surrounds_conclude (d := d) reporter' c.failureExitCode w summary
  -- which suites were started is no matter of what is printed
  have hstarted : Surrounds d _ _ (reporter' summary w)
      { conclude d reporter' c.failureExitCode w summary with
        started := some (engine.run state).started } :=
    ⟨hconclude.written, hconclude.unwritten, hconclude.refused, hconclude.unrefused,
      hconclude.workspace⟩
  exact hstarted.after

end Runs

/-- No reporter has a say in the verdict, whatever it writes and however it fails: with another one
a run has the same result, error or not, and starts the same suites.  A run that ends with an error
is the same altogether.  Any other run prints the same lines before the report and the same lines
after it. -/
theorem pipeline_anyReporter {σ : Type} (d : Display) (c : Config) (engine : Engine σ) (start : σ)
    (w : Workspace) :
    (∀ reporter reporter' : Reporter,
      (pipeline d c engine start reporter' w).result =
        (pipeline d c engine start reporter w).result ∧
      (pipeline d c engine start reporter' w).started =
        (pipeline d c engine start reporter w).started) ∧
    (∀ reporter e, (pipeline d c engine start reporter w).result = .error e →
      ∀ reporter', pipeline d c engine start reporter' w = pipeline d c engine start reporter w) ∧
    ∀ reporter summary status,
      (pipeline d c engine start reporter w).result = .ok (summary, status) →
      ∃ before following, ∀ reporter' : Reporter,
        Surrounds d before following (reporter' summary w)
          (pipeline d c engine start reporter' w) := by
  refine ⟨fun reporter reporter' => ⟨?_, started_pipeline reporter reporter'⟩, ?_, ?_⟩
  · rw [result_pipeline, result_pipeline]
  · exact fun reporter e h reporter' => pipeline_of_error h reporter'
  · exact fun reporter summary status => exists_surrounds

/-- After a suite that failed, a reporter that cannot write its report and one that is content lead
to the same exit status, and so do two reporters that are never asked. -/
theorem pipeline_anyReporter_refused :
    let d : Display := ⟨"en", false⟩
    let w : Workspace :=
      { entries := [([[0x64]], .directory), ([[0x64], [0x62]], .file [])], here := [] }
    let c : Config := { suitesDir := "d", suffix := "b", failureExitCode := 3 }
    let summary : Summary := .of {} {} [{ suite := ⟨"d/b", "b"⟩, failures := 1, exitCode := none }]
    let engine : Engine Nat := ⟨fun n _ => .ok (n + 1), fun _ => { result := .ok summary }⟩
    let full : Engine Nat := ⟨fun _ path => .error (.duplicateSuite path), engine.run⟩
    let refuses : Reporter := fun _ w => { result := .error (.other "disk full"), workspace := w }
    let writes : Reporter := fun _ w => { result := .ok (some "out/r"), workspace := w }
    (pipeline d c engine 0 refuses w).result = .ok (summary, .testsFailed 3) ∧
      (pipeline d c engine 0 writes w).result = .ok (summary, .testsFailed 3) ∧
      (pipeline d c engine 0 refuses w).err = [writeFailedLine d (.other "disk full")] ∧
      (pipeline d c engine 0 writes w).err = [] ∧
      (∃ before following, (pipeline d c engine 0 refuses w).out = before ++ following ∧
        (pipeline d c engine 0 writes w).out =
          before ++ ["", Locale.say "en" "report.written" [("path", "out/r")]] ++ following) ∧
      (pipeline d c full 0 writes w).result = .error (.duplicateSuite "d/b") ∧
      pipeline d c full 0 refuses w = pipeline d c full 0 writes w := by
  intro d w c summary engine full refuses writes
  have hdiscovered : w.discover "d" "b" = .ok [⟨"d/b", "b"⟩] := by cbv
  have hresult : (pipeline d c engine 0 refuses w).result = .ok (summary, .testsFailed 3) := by
    rw [result_pipeline, hdiscovered]
    rfl
  have herror : (pipeline d c full 0 writes w).result = .error (.duplicateSuite "d/b") := by
    rw [result_pipeline, hdiscovered]
    rfl
  obtain ⟨hsame, -, hsurrounds⟩ := pipeline_anyReporter d c engine 0 w
  obtain ⟨before, following, h⟩ := hsurrounds _ _ _ hresult
  have hunwritten := (h refuses).unwritten fun _ hpath => by cases hpath
  have hwritten := (h writes).written "out/r" rfl
  refine ⟨hresult, (hsame refuses writes).1.trans hresult, (h refuses).refused _ rfl,
    (h writes).unrefused (fun _ herr => by cases herr), ⟨before, following, ?_, ?_⟩, herror, ?_⟩
  · simpa [refuses] using hunwritten
  · simpa [writes] using hwritten
  · exact (pipeline_anyReporter d c full 0 w).2.1 _ _ herror _

end TapSuite.Run

import Mathlib
import TapSuite.Cli.Run
import TapSuite.Proofs.Config.ExitCode
import TapSuite.Proofs.Engine.Failures
import TapSuite.Proofs.Run.Steps

/-!
# The exit code of a run

A run that is set up has a verdict, and its exit code is 0 exactly if all its suites pass.  Else it
is the exit code in the settings, which is never 0.  A run that is not set up ends with code 2.

    SetUp s w a c suites line → runFailures s.launch line suites < UInt64.size →
      ∃ summary status, (command s w a language forced).1.result = .ok (summary, status) ∧
        Truthful s.launch line suites c.failureExitCode summary status        (exitCode_truthful)
-/

namespace TapSuite.Run

/-! ## Settings of a run -/

theorem settings_eq_ok {w : Workspace} {a : Cli.RunArguments} {c : Config} :
    settings w a = .ok c ↔
      ∃ d, Config.load w a.config a.configNamed = .ok d ∧ d.apply a.overrides = c ∧
        c.violation? = none := by
  unfold settings
  constructor
  · intro h
    split at h
    · cases h
    next d hload =>
    split at h
    · cases h
    next hvalid =>
    cases h
    exact ⟨d, hload, rfl, validate_eq_ok.mp hvalid⟩
  · rintro ⟨d, hload, rfl, hnone⟩
    rw [hload]
    simp only [validate_eq_ok.mpr hnone]

/-! ## Runs that are set up -/

/-- What a run needs for a verdict: settings, a reporter, suites that are found and registered, and
an interpreter that can be launched for each of them. -/
structure SetUp (s : Surroundings) (w : Workspace) (a : Cli.RunArguments) (c : Config)
    (suites : List SuiteFile) (line : Command.Line) : Prop where
  settings : settings w a = .ok c
  reporter : ∃ kind, ReporterKind.named c.reporter.name = .ok kind
  discovered : w.discover c.suitesDir c.suffix = .ok suites
  registered : ∃ r, ({} : Registry).registerAll (suites.map (·.path)) = .ok r
  commandLine : Command.parse s.environment c.command = .ok line
  launches : ∀ suite ∈ suites, Engine.Launches s.launch line suite

section Runs

variable {s : Surroundings} {w : Workspace} {a : Cli.RunArguments} {language : String}
  {forced : Bool} {c : Config} {suites : List SuiteFile} {line : Command.Line}

/-- A run that is set up has the results of its suites in their order. -/
theorem SetUp.result (h : SetUp s w a c suites line) :
    ∃ results : List SuiteResult, suites.map (Engine.runSuite s.launch line) = results.map .ok ∧
      let summary := Summary.of s.startedAt s.duration results
      (command s w a language forced).1.result =
        .ok (summary, .ofFailures summary.failures c.failureExitCode) := by
  obtain ⟨results, hresults⟩ := Engine.exists_results h.launches
  obtain ⟨kind, hkind⟩ := h.reporter
  obtain ⟨r, hr⟩ := h.registered
  refine ⟨results, hresults, ?_⟩
  rw [← suites_of_registered h.discovered hr] at hresults
  have hengine := Engine.result_of_results
    (s := engineSetting s c (languages c language forced s.locale).2) h.commandLine hresults
  rw [result_command, h.settings, ok_bind, hkind, ok_bind, h.discovered, ok_bind, hr, ok_bind]
  exact congrArg (· >>= _) hengine

/-- A run that has a verdict is set up. -/
theorem setUp_of_result {o : Summary × ExitStatus}
    (h : (command s w a language forced).1.result = .ok o) :
    ∃ c suites line, SetUp s w a c suites line := by
  simp only [result_command, bind_eq_ok] at h
  obtain ⟨c, hsettings, kind, hkind, suites, hdiscovered, r, hr, summary, hsummary, -⟩ := h
  obtain ⟨line, hline, hlaunches⟩ := Engine.launches_of_result hsummary
  rw [suites_of_registered hdiscovered hr] at hlaunches
  exact ⟨c, suites, line, hsettings, ⟨kind, hkind⟩, hdiscovered, ⟨r, hr⟩, hline, hlaunches⟩

/-! ## Verdicts -/

/-- Whether a summary and an exit status tell which suites pass: the exit code is 0 if all of them
do, and else it is that for failures, and there are suites to name as failed. -/
structure Truthful (launch : Process.Launcher) (line : Command.Line) (suites : List SuiteFile)
    (failureCode : UInt8) (summary : Summary) (status : ExitStatus) : Prop where
  zero_iff : status.code = 0 ↔ ∀ suite ∈ suites, Engine.Passes launch line suite
  otherwise : (¬ ∀ suite ∈ suites, Engine.Passes launch line suite) →
    summary.failedSuites ≠ [] ∧ status.code = failureCode

theorem code_ofFailures_eq_zero {failures : UInt64} {failureCode : UInt8} (h : failureCode ≠ 0) :
    (ExitStatus.ofFailures failures failureCode).code = 0 ↔ failures = 0 := by
  unfold ExitStatus.ofFailures
  split
  · next hzero => exact ⟨fun _ => hzero, fun _ => rfl⟩
  · next hne => exact ⟨fun hcode => absurd hcode h, fun hzero => absurd hzero hne⟩

theorem total_eq_zero {figure : SuiteResult → Nat} {suites : List SuiteResult}
    (h : ∀ r ∈ suites, figure r = 0) : total figure suites = 0 := by
  induction suites with
  | nil => rfl
  | cons r suites ih =>
    obtain ⟨hr, hrest⟩ := List.forall_mem_cons.mp h
    rw [total, hr, ih hrest]

theorem failedSuites_ne_nil {summary : Summary}
    (h : total (·.failures.toNat) summary.suites ≠ 0) : summary.failedSuites ≠ [] := by
  intro hnone
  refine h (total_eq_zero fun r hr => ?_)
  have hpassed := List.filter_eq_nil_iff.mp hnone r hr
  have hzero : r.failures = 0 := by simpa [SuiteResult.isFailure] using hpassed
  rw [hzero]
  rfl

theorem truthful_of_results {results : List SuiteResult} {startedAt : Timestamp} {duration : Span}
    {failureCode : UInt8} (hcode : failureCode ≠ 0)
    (hresults : suites.map (Engine.runSuite s.launch line) = results.map .ok)
    (hlaunches : ∀ suite ∈ suites, Engine.Launches s.launch line suite)
    (hlt : Engine.runFailures s.launch line suites < UInt64.size) :
    let summary := Summary.of startedAt duration results
    Truthful s.launch line suites failureCode summary
      (.ofFailures summary.failures failureCode) := by
  intro summary
  have htotal := Engine.total_failures hresults hlt
  -- the sum in words is the number of failures itself, so it is 0 only if all suites pass
  have hfailures : summary.failures.toNat = Engine.runFailures s.launch line suites := by
    rw [Engine.toNat_failures_of (by rwa [htotal]), htotal]
  have hzero : summary.failures = 0 ↔ ∀ suite ∈ suites, Engine.Passes s.launch line suite := by
    rw [← Engine.runFailures_eq_zero hlaunches, ← hfailures, ← UInt64.toNat_inj]
    rfl
  refine ⟨(code_ofFailures_eq_zero hcode).trans hzero, fun hnot => ⟨?_, ?_⟩⟩
  · apply failedSuites_ne_nil
    rw [show summary.suites = results from rfl, htotal]
    exact fun h => hnot ((Engine.runFailures_eq_zero hlaunches).mp h)
  · rw [ExitStatus.ofFailures, if_neg fun h => hnot (hzero.mp h)]
    rfl

theorem exitCode_of_settings (h : settings w a = .ok c) :
    (1 ≤ c.failureExitCode.toNat ∧ c.failureExitCode.toNat ≤ 255) ∧ c.failureExitCode ≠ 0 := by
  obtain ⟨d, -, -, hnone⟩ := settings_eq_ok.mp h
  exact ⟨exitCode_of_violation? hnone, (violation?_eq_none.mp hnone).2⟩

end Runs

end TapSuite.Run

namespace TapSuite.Cli

/-! ## The exit code of the program -/

/-- The arguments of the run that a command line asks for, if it asks for one. -/
def Request.runArguments? : Request → Option RunArguments
  | .bare => some {}
  | .run a => some a
  | .init _ _ => none

/-- The run that a command line asks for with some arguments, as the program does it. -/
def outcomeOf (s : Surroundings) (w : Workspace) (words : List String) (a : RunArguments) :
    RunOutcome (Summary × ExitStatus) :=
  let locale := language s.environment words
  let s := { s with locale, colours := forcesColours s.environment }
  (Run.command s w a locale (languageOption? words).isSome).1

theorem run_eq_endOfRun {s : Surroundings} {w : Workspace} {words : List String}
    {arguments : Arguments} {a : RunArguments} (hread : Arguments.read words = .ok arguments)
    (hrequest : arguments.request.runArguments? = some a) :
    run s w words = endOfRun (forcesColours s.environment) (outcomeOf s w words a) := by
  simp only [run, hread, outcomeOf]
  cases hcase : arguments.request with
  | bare =>
    rw [hcase] at hrequest
    cases hrequest
    rfl
  | run b =>
    rw [hcase] at hrequest
    cases hrequest
    rfl
  | init path nonInteractive =>
    rw [hcase] at hrequest
    cases hrequest

theorem code_endOfRun_of_ok {colours : Bool} {o : RunOutcome (Summary × ExitStatus)}
    {summary : Summary} {status : ExitStatus} (h : o.result = .ok (summary, status)) :
    (endOfRun colours o).code = status.code := by
  rw [endOfRun, h]

theorem code_endOfRun_of_error {colours : Bool} {o : RunOutcome (Summary × ExitStatus)}
    {e : SetupError} (h : o.result = .error e) : (endOfRun colours o).code = 2 := by
  rw [endOfRun, h]
  rfl

end TapSuite.Cli

namespace TapSuite.Run

/-- The exit code never lies.  A run has a result exactly if it is set up, and then its status is
truthful, with a code for failures between 1 and 255.  In a document that code may be any integer
between 1 and 255 and no other, and it is taken as it is, whatever the command line gives.  The
program ends with the code of the status, or with code 2 if the run has no result. -/
theorem exitCode_truthful (s : Surroundings) (w : Workspace) (a : Cli.RunArguments)
    (language : String) (forced : Bool) :
    ((∃ o, (command s w a language forced).1.result = .ok o) ↔
      ∃ c suites line, SetUp s w a c suites line) ∧
    (∀ c suites line, SetUp s w a c suites line →
      Engine.runFailures s.launch line suites < UInt64.size →
      (1 ≤ c.failureExitCode.toNat ∧ c.failureExitCode.toNat ≤ 255) ∧
      ∃ summary status, (command s w a language forced).1.result = .ok (summary, status) ∧
        Truthful s.launch line suites c.failureExitCode summary status) ∧
    (∀ text origin t n, Toml.parse text = .ok t →
      t.lookup "failure_exit_code" = some (.integer n) →
      ((∃ c, Config.ofText text origin = .ok c) ↔
        (1 ≤ n ∧ n ≤ 255) ∧ Config.Accepted (Toml.without "failure_exit_code" t)) ∧
      ∀ c, Config.ofText text origin = .ok c → (c.failureExitCode.toNat : Int) = n) ∧
    (∀ (n : Int) origin,
      (∃ c, Config.ofText ("failure_exit_code" ++ " = " ++ toString n ++ "\n") origin = .ok c) ↔
        1 ≤ n ∧ n ≤ 255) ∧
    (∀ c, settings w a = .ok c → ∃ d, Config.load w a.config a.configNamed = .ok d ∧
      c = d.apply a.overrides ∧ c.failureExitCode = d.failureExitCode) ∧
    (∀ words arguments, Cli.Arguments.read words = .ok arguments →
      arguments.request.runArguments? = some a →
      (∀ e, (Cli.outcomeOf s w words a).result = .error e → (Cli.run s w words).code = 2) ∧
      ∀ summary status, (Cli.outcomeOf s w words a).result = .ok (summary, status) →
        (Cli.run s w words).code = status.code) := by
  refine ⟨⟨fun ⟨_, h⟩ => setUp_of_result h, ?_⟩, ?_, ?_, ofText_integer_isOk_iff, ?_, ?_⟩
  · rintro ⟨c, suites, line, h⟩
    obtain ⟨results, -, hresult⟩ := h.result
    exact ⟨_, hresult⟩
  · intro c suites line h hlt
    obtain ⟨results, hresults, hresult⟩ := h.result
    obtain ⟨hrange, hne⟩ := exitCode_of_settings h.settings
    exact ⟨hrange, _, _, hresult, truthful_of_results hne hresults h.launches hlt⟩
  · intro text origin t n hparse hn
    have hkeys := Toml.nodup_keys_parse hparse
    refine ⟨(ofText_isOk_iff hparse origin).trans (accepted_iff hkeys hn), fun c hc => ?_⟩
    obtain ⟨t', hparse', hdecode⟩ := read_eq_ok.mp (ofText_eq_ok.mp hc).1
    cases hparse.symm.trans hparse'
    exact ((decode_eq_ok.mp hdecode).exitCode hn).2
  · intro c hsettings
    obtain ⟨d, hload, rfl, -⟩ := settings_eq_ok.mp hsettings
    exact ⟨d, hload, rfl, failureExitCode_apply d a.overrides⟩
  · intro words arguments hread hrequest
    rw [Cli.run_eq_endOfRun hread hrequest]
    exact ⟨fun _ => Cli.code_endOfRun_of_error, fun _ _ => Cli.code_endOfRun_of_ok⟩

/-- A suite that is killed after a passed test makes the program end with the code in the file. -/
theorem exitCode_truthful_killed :
    let file : Bytes :=
      [0x66, 0x61, 0x69, 0x6C, 0x75, 0x72, 0x65, 0x5F, 0x65, 0x78, 0x69, 0x74, 0x5F, 0x63, 0x6F,
        0x64, 0x65, 0x20, 0x3D, 0x20, 0x33, 0x0A]
    let w : Workspace :=
      { entries := [([[0x63]], .file file), ([[0x64]], .directory), ([[0x64], [0x62]], .file [])]
        here := [] }
    let s : Surroundings :=
      { launch := fun _ _ => .ok { out := [0x6F, 0x6B, 0x20, 0x31, 0x0A], code := none } }
    let words :=
      ["suite-runner", "run", "-c", "c", "-d", "d", "--suffix", "b", "--command", "tap"]
    let a : Cli.RunArguments :=
      { config := "c", configNamed := true
        overrides := { suitesDir := some "d", suffix := some "b", command := some "tap" } }
    let c : Config :=
      { suitesDir := "d", suffix := "b", command := "tap", failureExitCode := 3 }
    Cli.Arguments.read words = .ok ⟨none, .run a⟩ ∧
      SetUp s w a c [⟨"d/b", "b"⟩] ⟨"tap", []⟩ ∧
      Engine.runFailures s.launch ⟨"tap", []⟩ [⟨"d/b", "b"⟩] < UInt64.size ∧
      (Cli.run s w words).code = 3 := by
  intro file w s words a c
  have hread : Cli.Arguments.read words = .ok ⟨none, .run a⟩ := rfl
  have hholds : w.holds "c" = true := by cbv
  have htext : w.readText "c" = .ok "failure_exit_code = 3\n" := by cbv
  have hparse := Toml.parse_integer "failure_exit_code" (by decide) (by decide) 3
  have hload : Config.load w "c" true = .ok { failureExitCode := 3 } := by
    rw [Config.load, if_pos hholds, htext]
    refine ofText_eq_ok.mpr ⟨read_eq_ok.mpr ⟨_, hparse, decode_eq_ok.mpr ?_⟩, by decide⟩
    exact ⟨by decide, rfl, rfl, rfl, rfl, rfl, rfl, rfl⟩
  have hsettings : settings w a = .ok c := settings_eq_ok.mpr ⟨_, hload, rfl, by decide⟩
  have hdiscovered : w.discover "d" "b" = .ok [⟨"d/b", "b"⟩] := by cbv
  have hline : Command.parse [] "tap" = .ok ⟨"tap", []⟩ := by rfl
  have hsetUp (locale : String) (colours : Bool) :
      SetUp { s with locale, colours } w a c [⟨"d/b", "b"⟩] ⟨"tap", []⟩ :=
    ⟨hsettings, ⟨.html, by decide⟩, hdiscovered, ⟨_, rfl⟩, hline, fun _ _ => ⟨_, rfl⟩⟩
  have hfailures : Engine.runFailures s.launch ⟨"tap", []⟩ [⟨"d/b", "b"⟩] = 1 := by cbv
  have hlt : Engine.runFailures s.launch ⟨"tap", []⟩ [⟨"d/b", "b"⟩] < UInt64.size := by
    rw [hfailures]
    decide
  have hkilled : ¬ ∀ suite ∈ [⟨"d/b", "b"⟩], Engine.Passes s.launch ⟨"tap", []⟩ suite := by
    intro h
    obtain ⟨done, hdone, hclean⟩ := h _ (List.mem_singleton_self _)
    cases hdone
    cases hclean.endsWell
  obtain ⟨-, -, -, -, -, hprogram⟩ := exitCode_truthful s w a "en" false
  obtain ⟨-, hverdict, -⟩ := exitCode_truthful
    { s with
      locale := Cli.language s.environment words
      colours := Cli.forcesColours s.environment } w a (Cli.language s.environment words)
    (Cli.languageOption? words).isSome
  obtain ⟨-, summary, status, hresult, htruthful⟩ := hverdict c _ _ (hsetUp _ _) hlt
  have hcode := (hprogram words _ hread rfl).2 summary status hresult
  exact ⟨hread, hsetUp s.locale s.colours, hlt, hcode.trans (htruthful.otherwise hkilled).2⟩

end TapSuite.Run

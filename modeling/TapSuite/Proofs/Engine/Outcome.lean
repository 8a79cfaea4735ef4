import TapSuite.Proofs.Engine.Order
import TapSuite.Proofs.Results

/-!
# What a run tells

A run of the command engine succeeds exactly if all interpreters can be launched.  Then it tells the
results of the suites in the order of their registration; else it tells of a suite whose interpreter
cannot be launched.  Neither the number of jobs nor the order in which they come to an end shows.

    Command.parse s.environment s.command = .ok line →
      Tells s line r.suites (runRegistered s r).result                               (run_anyOrder)
-/

namespace TapSuite

/-! ## Apart from times -/

/-- What can be seen of a completed program, apart from the time that it took. -/
def Process.Completed.seen (done : Process.Completed) : String × Option Int :=
  (done.output, done.code)

/-- A result without the time that it took. -/
def SuiteResult.untimed (r : SuiteResult) : SuiteResult := { r with duration := {} }

def Summary.untimed (summary : Summary) : Summary :=
  { summary with
    startedAt := {}
    duration := {}
    suites := summary.suites.map SuiteResult.untimed }

theorem total_map_untimed (suites : List SuiteResult) :
    total (·.failures.toNat) (suites.map SuiteResult.untimed) =
      total (·.failures.toNat) suites := by
  induction suites with
  | nil => rfl
  | cons r suites ih => rw [List.map_cons, total, total, ih, SuiteResult.untimed]

theorem total_eq_of_untimed {suites suites' : List SuiteResult}
    (h : suites'.map SuiteResult.untimed = suites.map SuiteResult.untimed) :
    total (·.failures.toNat) suites' = total (·.failures.toNat) suites := by
  rw [← total_map_untimed, h, total_map_untimed]

theorem untimed_of {startedAt startedAt' : Timestamp} {duration duration' : Span}
    {suites suites' : List SuiteResult}
    (h : suites'.map SuiteResult.untimed = suites.map SuiteResult.untimed) :
    (Summary.of startedAt' duration' suites').untimed =
      (Summary.of startedAt duration suites).untimed := by
  simp only [Summary.untimed, Summary.of, h, total_eq_of_untimed h]

namespace Engine

/-! ## Running a suite -/

/-- Whether the interpreter of a suite can be launched. -/
def Launches (launch : Process.Launcher) (line : Command.Line) (suite : SuiteFile) : Prop :=
  ∃ done, launch line.program (line.args ++ [suite.path]) = .ok done

section Suites

variable {launch : Process.Launcher} {line : Command.Line} {suite : SuiteFile}
  {suites : List SuiteFile} {results : List SuiteResult}

theorem runSuite_eq_ok {r : SuiteResult} :
    runSuite launch line suite = .ok r ↔
      ∃ done, launch line.program (line.args ++ [suite.path]) = .ok done ∧
        suiteResult suite done = r := by
  unfold runSuite
  cases launch line.program (line.args ++ [suite.path]) with
  | ok done => simp
  | error fault => simp

theorem runSuite_eq_error {e : SetupError} :
    runSuite launch line suite = .error e ↔
      ∃ fault, launch line.program (line.args ++ [suite.path]) = .error fault ∧
        .engine (.launch line.program suite.path fault) = e := by
  unfold runSuite
  cases launch line.program (line.args ++ [suite.path]) with
  | ok done => simp
  | error fault => simp

/-- A suite whose interpreter cannot be launched has an error. -/
theorem exists_error (h : ¬ Launches launch line suite) :
    ∃ e, runSuite launch line suite = .error e := by
  cases hrun : runSuite launch line suite with
  | error e => exact ⟨e, rfl⟩
  | ok r =>
    obtain ⟨done, hdone, -⟩ := runSuite_eq_ok.mp hrun
    exact absurd ⟨done, hdone⟩ h

/-- If all interpreters can be launched, every suite has a result. -/
theorem exists_results (h : ∀ suite ∈ suites, Launches launch line suite) :
    ∃ results : List SuiteResult, suites.map (runSuite launch line) = results.map .ok := by
  induction suites with
  | nil => exact ⟨[], rfl⟩
  | cons suite suites ih =>
    obtain ⟨⟨done, hdone⟩, hrest⟩ := List.forall_mem_cons.mp h
    obtain ⟨results, hresults⟩ := ih hrest
    exact ⟨suiteResult suite done :: results, by
      rw [List.map_cons, List.map_cons, runSuite_eq_ok.mpr ⟨done, hdone, rfl⟩, hresults]⟩

theorem suites_of_results (h : suites.map (runSuite launch line) = results.map .ok) :
    results.map (·.suite) = suites := by
  replace h := forall₂_of_results h
  induction h with
  | nil => rfl
  | cons hr _ ih =>
    obtain ⟨done, -, rfl⟩ := runSuite_eq_ok.mp hr
    rw [List.map_cons, ih, suiteResult]

end Suites

/-! ## What a run of some suites tells -/

/-- What a run of some suites tells: the results of the suites in their order, if all interpreters
can be launched, and else the error of a suite whose interpreter cannot. -/
structure Tells (s : Setting) (line : Command.Line) (suites : List SuiteFile)
    (result : Except SetupError Summary) : Prop where
  ok_iff : (∃ summary, result = .ok summary) ↔ ∀ suite ∈ suites, Launches s.launch line suite
  results : ∀ summary, result = .ok summary →
    suites.map (runSuite s.launch line) = summary.suites.map .ok
  /-- No result goes to another suite. -/
  attributed : ∀ summary, result = .ok summary → summary.suites.map (·.suite) = suites
  failures : ∀ summary, result = .ok summary →
    total (·.failures.toNat) summary.suites < UInt64.size →
    summary.failures.toNat = total (·.failures.toNat) summary.suites
  launch_error : (∃ suite ∈ suites, ¬ Launches s.launch line suite) →
    ∃ suite ∈ suites, ∃ fault,
      s.launch line.program (line.args ++ [suite.path]) = .error fault ∧
      result = .error (.engine (.launch line.program suite.path fault))

theorem toNat_failures_of {startedAt : Timestamp} {duration : Span} {suites : List SuiteResult}
    (h : total (·.failures.toNat) suites < UInt64.size) :
    (Summary.of startedAt duration suites).failures.toNat = total (·.failures.toNat) suites := by
  rw [Summary.of]
  exact UInt64.toNat_ofNat_of_lt' h

section Tells

variable {s : Setting} {line : Command.Line} {suites : List SuiteFile}

/-- What is told if every suite has a result. -/
theorem tells_of_results {startedAt : Timestamp} {duration : Span} {results : List SuiteResult}
    (hlaunches : ∀ suite ∈ suites, Launches s.launch line suite)
    (hresults : suites.map (runSuite s.launch line) = results.map .ok) :
    Tells s line suites (.ok (.of startedAt duration results)) := by
  constructor
  · exact ⟨fun _ => hlaunches, fun _ => ⟨_, rfl⟩⟩
  · intro summary hsummary
    cases hsummary
    exact hresults
  · intro summary hsummary
    cases hsummary
    exact suites_of_results hresults
  · intro summary hsummary hlt
    cases hsummary
    exact toNat_failures_of hlt
  · rintro ⟨suite, hsuite, hnot⟩
    exact absurd (hlaunches suite hsuite) hnot

/-- What is told if the interpreter of some suite cannot be launched. -/
theorem tells_of_fault {suite : SuiteFile} {fault : Fault} (hsuite : suite ∈ suites)
    (hfault : s.launch line.program (line.args ++ [suite.path]) = .error fault) :
    Tells s line suites (.error (.engine (.launch line.program suite.path fault))) := by
  constructor
  · constructor
    · rintro ⟨summary, hsummary⟩
      cases hsummary
    · intro hlaunches
      obtain ⟨done, hdone⟩ := hlaunches suite hsuite
      cases hfault.symm.trans hdone
  · intro summary hsummary
    cases hsummary
  · intro summary hsummary
    cases hsummary
  · intro summary hsummary
    cases hsummary
  · exact fun _ => ⟨suite, hsuite, fault, hfault, rfl⟩

/-- Whatever the order in which the jobs come to an end, the run tells the same. -/
theorem tells_summaryOf {order : List Job} (hperm : order.Perm (jobsFrom s line 0 suites)) :
    Tells s line suites (summaryOf s order) := by
  by_cases hall : ∀ suite ∈ suites, Launches s.launch line suite
  · obtain ⟨results, hresults⟩ := exists_results hall
    rw [summaryOf_of_results hperm hresults]
    exact tells_of_results hall hresults
  -- whichever job brings its error first, that error belongs to one of the suites
  · have hsome : ∃ suite ∈ suites, ¬ Launches s.launch line suite := by
      simpa using hall
    have herror : ∃ suite ∈ suites, ∃ e, runSuite s.launch line suite = .error e := by
      obtain ⟨suite, hsuite, hnot⟩ := hsome
      exact ⟨suite, hsuite, exists_error hnot⟩
    obtain ⟨suite, hsuite, e, he, hsummary⟩ := summaryOf_of_error hperm herror
    obtain ⟨fault, hfault, rfl⟩ := runSuite_eq_error.mp he
    rw [hsummary]
    exact tells_of_fault hsuite hfault

end Tells

theorem tells_runSuites (s : Setting) (line : Command.Line) (suites : List SuiteFile) :
    Tells s line suites (runSuites s line suites).result := by
  obtain ⟨order, hperm, hresult⟩ := exists_order s line suites
  rw [hresult]
  exact tells_summaryOf hperm

/-! ## Other schedules -/

/-- Whether two settings run the same command line, and programs do the same in both, apart from the
time that they take.  The number of jobs and the choices of the schedule may differ. -/
structure Setting.RunsLike (s' s : Setting) : Prop where
  command : s'.command = s.command
  environment : s'.environment = s.environment
  launch : ∀ program args,
    (s'.launch program args).map (·.seen) = (s.launch program args).map (·.seen)

theorem untimed_suiteResult {suite : SuiteFile} {done done' : Process.Completed}
    (h : done'.seen = done.seen) :
    (suiteResult suite done').untimed = (suiteResult suite done).untimed := by
  obtain ⟨houtput, hcode⟩ := Prod.mk.inj h
  simp only [suiteResult, SuiteResult.untimed, Process.Completed.success, houtput, hcode]

/-- Where programs do the same, suites have the same results. -/
theorem exists_results_like {launch launch' : Process.Launcher} {line : Command.Line}
    {suites : List SuiteFile} {results : List SuiteResult}
    (hlaunch : ∀ program args,
      (launch' program args).map (·.seen) = (launch program args).map (·.seen))
    (h : suites.map (runSuite launch line) = results.map .ok) :
    ∃ results' : List SuiteResult, suites.map (runSuite launch' line) = results'.map .ok ∧
      results'.map SuiteResult.untimed = results.map SuiteResult.untimed := by
  replace h := forall₂_of_results h
  induction h with
  | nil => exact ⟨[], rfl, rfl⟩
  | @cons suite r suites results hr _ ih =>
    obtain ⟨done, hdone, rfl⟩ := runSuite_eq_ok.mp hr
    obtain ⟨results', hresults', huntimed⟩ := ih
    have hlike := hlaunch line.program (line.args ++ [suite.path])
    rw [hdone] at hlike
    obtain ⟨done', hdone', hseen⟩ := map_eq_ok.mp hlike
    refine ⟨suiteResult suite done' :: results', ?_, ?_⟩
    · rw [List.map_cons, List.map_cons, runSuite_eq_ok.mpr ⟨done', hdone', rfl⟩, hresults']
    · rw [List.map_cons, List.map_cons, untimed_suiteResult hseen, huntimed]

theorem runRegistered_of_parse {s : Setting} {line : Command.Line}
    (h : Command.parse s.environment s.command = .ok line) (r : Registry) :
    runRegistered s r = runSuites s line r.suites := by
  rw [runRegistered, h]

theorem result_of_results {s : Setting} {line : Command.Line} {r : Registry}
    {results : List SuiteResult} (hline : Command.parse s.environment s.command = .ok line)
    (h : r.suites.map (runSuite s.launch line) = results.map .ok) :
    (runRegistered s r).result = .ok (.of s.startedAt s.duration results) := by
  obtain ⟨order, hperm, hresult⟩ := exists_order s line r.suites
  rw [runRegistered_of_parse hline, hresult, summaryOf_of_results hperm h]

/-- Only a run whose interpreters can all be launched has a summary. -/
theorem launches_of_result {s : Setting} {r : Registry} {summary : Summary}
    (h : (runRegistered s r).result = .ok summary) :
    ∃ line, Command.parse s.environment s.command = .ok line ∧
      ∀ suite ∈ r.suites, Launches s.launch line suite := by
  cases hline : Command.parse s.environment s.command with
  | error e =>
    rw [runRegistered, hline] at h
    cases h
  | ok line =>
    rw [runRegistered_of_parse hline] at h
    exact ⟨line, rfl, (tells_runSuites s line r.suites).ok_iff.mp ⟨summary, h⟩⟩

/-- A run of some suites has a summary only if all of them have results. -/
theorem exists_results_of_summary {s : Setting} {line : Command.Line} {suites : List SuiteFile}
    {summary : Summary} (h : (runSuites s line suites).result = .ok summary) :
    ∀ suite ∈ suites, ∃ r, runSuite s.launch line suite = .ok r := by
  intro suite hsuite
  obtain ⟨done, hdone⟩ := (tells_runSuites s line suites).ok_iff.mp ⟨summary, h⟩ suite hsuite
  exact ⟨_, runSuite_eq_ok.mpr ⟨done, hdone, rfl⟩⟩

/-- The error of a run of some suites is that of one of them. -/
theorem exists_error_of_error {s : Setting} {line : Command.Line} {suites : List SuiteFile}
    {e : SetupError} (h : (runSuites s line suites).result = .error e) :
    ∃ suite ∈ suites, runSuite s.launch line suite = .error e := by
  have htells := tells_runSuites s line suites
  have hnot : ¬ ∀ suite ∈ suites, Launches s.launch line suite := by
    intro hall
    obtain ⟨summary, hsummary⟩ := htells.ok_iff.mpr hall
    cases h.symm.trans hsummary
  obtain ⟨suite, hsuite, fault, hfault, herror⟩ := htells.launch_error (by simpa using hnot)
  cases h.symm.trans herror
  exact ⟨suite, hsuite, runSuite_eq_error.mpr ⟨fault, hfault, rfl⟩⟩

/-- A run tells the results in the order of registration, in whatever order the suites come to an
end; and a run with another schedule, such as one with a single job, has the same summary. -/
theorem run_anyOrder {s : Setting} {line : Command.Line}
    (hline : Command.parse s.environment s.command = .ok line) (r : Registry) :
    (∀ order, order.Perm (jobsFrom s line 0 r.suites) → Tells s line r.suites (summaryOf s order)) ∧
      Tells s line r.suites (runRegistered s r).result ∧
      ∀ s' : Setting, s'.RunsLike s → ∀ summary, (runRegistered s r).result = .ok summary →
        ∃ summary', (runRegistered s' r).result = .ok summary' ∧
          summary'.untimed = summary.untimed := by
  obtain ⟨order, hperm, hresult⟩ := exists_order s line r.suites
  rw [runRegistered_of_parse hline, hresult]
  refine ⟨fun _ => tells_summaryOf, tells_summaryOf hperm, ?_⟩
  intro s' hlike summary hsummary
  have hlaunches := (tells_summaryOf hperm).ok_iff.mp ⟨summary, hsummary⟩
  obtain ⟨results, hresults⟩ := exists_results hlaunches
  rw [summaryOf_of_results hperm hresults] at hsummary
  cases hsummary
  have hline' : Command.parse s'.environment s'.command = .ok line := by
    rw [hlike.environment, hlike.command, hline]
  obtain ⟨results', hresults', huntimed⟩ := exists_results_like hlike.launch hresults
  exact ⟨_, result_of_results hline' hresults', untimed_of huntimed⟩

theorem run_anyOrder_reversed :
    let s : Setting :=
      { command := "tap -q"
        jobs := 2
        environment := []
        launch := fun _ args => .ok { code := if args = ["-q", "b"] then none else some 0 }
        choices := [1]
        locale := "en" }
    let r : Registry := ⟨[⟨"a", "a"⟩, ⟨"b", "b"⟩], []⟩
    Command.parse s.environment s.command = .ok ⟨"tap", ["-q"]⟩ ∧
      ∃ summary, (runRegistered s r).result = .ok summary ∧
        summary.suites.map (·.suite) = [⟨"a", "a"⟩, ⟨"b", "b"⟩] ∧
        ∃ summary', (runRegistered { s with jobs := 1 } r).result = .ok summary' ∧
          summary'.untimed = summary.untimed := by
  intro s r
  have hline : Command.parse [] "tap -q" = .ok ⟨"tap", ["-q"]⟩ := by rfl
  obtain ⟨-, htells, hlike⟩ := run_anyOrder (s := s) hline r
  obtain ⟨summary, hsummary⟩ := htells.ok_iff.mpr fun suite _ => ⟨_, rfl⟩
  exact ⟨hline, summary, hsummary, htells.attributed summary hsummary,
    hlike { s with jobs := 1 } ⟨rfl, rfl, fun _ _ => rfl⟩ summary hsummary⟩

end Engine

end TapSuite

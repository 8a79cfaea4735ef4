import Mathlib
import TapSuite.Proofs.Engine.Failures
import TapSuite.Proofs.Suite.Counts

/-!
# The figures of a run

The counts of a suite make up the number of its cases.  Its failures are its failed cases; without
one, it has one failure if it broke off and none else.  So the failures of a run are its failed
cases and the suites that broke off without one, and the suites that failed are those with either.

    (runRegistered s r).result = .ok summary →
      summary.totalCases + summary.suites.length < UInt64.size → summary.AddsUp      (run_addsUp)

The bound keeps every sum within a word: no suite has more failures than cases, but for the one that
broke off.
-/

namespace TapSuite

/-! ## Figures that add up -/

/-- Whether a suite broke off: its output bails out, or its interpreter did not end well. -/
def SuiteResult.BrokeOff (r : SuiteResult) : Prop :=
  (Tap.parse r.output).bailedOut = true ∨ r.exitCode ≠ some 0

instance (r : SuiteResult) : Decidable r.BrokeOff := inferInstanceAs (Decidable (_ ∨ _))

/-- Whether the figures of a suite add up. -/
structure SuiteResult.AddsUp (r : SuiteResult) : Prop where
  outcomes : r.count .passed + r.count .failed + r.count .skipped + r.count .todo = r.cases.length
  failures : r.failures.toNat =
    if 0 < r.count .failed then r.count .failed else if r.BrokeOff then 1 else 0
  bounded : r.failures.toNat ≤ max 1 r.cases.length

/-- Whether the figures of a run add up. -/
structure Summary.AddsUp (s : Summary) : Prop where
  suites : ∀ r ∈ s.suites, r.AddsUp
  outcomes : s.count .passed + s.count .failed + s.count .skipped + s.count .todo = s.totalCases
  failures : s.failures.toNat =
    s.count .failed + s.suites.countP fun r => r.count .failed = 0 ∧ r.BrokeOff
  failed : s.failedSuites =
    s.suites.filter fun r => (∃ c ∈ r.cases, c.outcome = .failed) ∨ r.BrokeOff

namespace SuiteResult

variable {r : SuiteResult}

theorem count_outcomes (r : SuiteResult) :
    r.count .passed + r.count .failed + r.count .skipped + r.count .todo = r.cases.length :=
  countP_outcomes r.cases

theorem count_pos_iff : 0 < r.count .failed ↔ ∃ c ∈ r.cases, c.outcome = .failed := by
  simp only [count, List.countP_pos_iff, decide_eq_true_eq]

/-- The failures beyond the failed cases. -/
theorem AddsUp.failures_eq_add (h : r.AddsUp) : r.failures.toNat =
    r.count .failed + if r.count .failed = 0 ∧ r.BrokeOff then 1 else 0 := by
  rw [h.failures]
  by_cases hfailed : r.count .failed = 0
  · simp [hfailed]
  · rw [if_pos (Nat.pos_of_ne_zero hfailed), if_neg fun hboth => hfailed hboth.1, Nat.add_zero]

theorem AddsUp.isFailure_iff (h : r.AddsUp) :
    r.isFailure = true ↔ (∃ c ∈ r.cases, c.outcome = .failed) ∨ r.BrokeOff := by
  have hzero : r.isFailure = true ↔ r.failures.toNat ≠ 0 := by
    rw [isFailure, decide_eq_true_eq, ne_eq, ne_eq, ← UInt64.toNat_inj]
    rfl
  rw [hzero, h.failures, ← count_pos_iff]
  split
  · next hpos => simp [hpos, Nat.pos_iff_ne_zero.mp hpos]
  · next hnone => simp [hnone]

end SuiteResult

namespace Engine

/-! ## A suite -/

section Suites

variable {suite : SuiteFile} {done : Process.Completed}

variable (suite done) in
/-- The failed cases of a suite are the failed leaves of its report. -/
theorem count_failed_suiteResult :
    (suiteResult suite done).count .failed = (Tap.parse done.output).failedCount := by
  rw [SuiteResult.count, suiteResult, Tap.Report.cases, Tap.Report.failedCount, List.countP_map]
  rfl

theorem brokeOff_suiteResult : (suiteResult suite done).BrokeOff ↔
    (Tap.parse done.output).bailedOut = true ∨ done.success = false := by
  simp only [SuiteResult.BrokeOff, suiteResult, Process.Completed.success, decide_eq_false_iff_not,
    ne_eq]

theorem failureCount_le (report : Tap.Report) (success : Bool) :
    failureCount report success ≤ max 1 report.failedCount := by
  unfold failureCount
  split
  · exact Nat.le_max_left _ _
  · exact Nat.le_max_right _ _

theorem addsUp_suiteResult (h : (suiteResult suite done).cases.length + 1 < UInt64.size) :
    (suiteResult suite done).AddsUp := by
  have hcount := count_failed_suiteResult suite done
  have hcases : (suiteResult suite done).count .failed ≤ (suiteResult suite done).cases.length :=
    List.countP_le_length
  have hle := failureCount_le (Tap.parse done.output) done.success
  have hfailures : (suiteResult suite done).failures.toNat =
      failureCount (Tap.parse done.output) done.success := by
    rw [failures_suiteResult, toNat_failuresOf (by omega)]
  refine ⟨SuiteResult.count_outcomes _, ?_, by omega⟩
  rw [hfailures, hcount, failureCount]
  by_cases hnone : (Tap.parse done.output).failedCount = 0
  · simp only [hnone, brokeOff_suiteResult, true_and, Nat.lt_irrefl, if_false]
  · rw [if_neg fun hboth => hnone hboth.1, if_pos (Nat.pos_of_ne_zero hnone)]

end Suites

/-! ## A run -/

/-- Whether a result is what a suite's interpreter led to. -/
def Records (launch : Process.Launcher) (line : Command.Line) (suite : SuiteFile)
    (r : SuiteResult) : Prop :=
  ∃ done, launch line.program (line.args ++ [suite.path]) = .ok done ∧ r.suite = suite ∧
    r.cases = (Tap.parse done.output).cases ∧ r.output = done.output ∧ r.exitCode = done.code

theorem records_of_runSuite {launch : Process.Launcher} {line : Command.Line} {suite : SuiteFile}
    {r : SuiteResult} (h : runSuite launch line suite = .ok r) : Records launch line suite r := by
  obtain ⟨done, hdone, rfl⟩ := runSuite_eq_ok.mp h
  exact ⟨done, hdone, rfl, rfl, rfl, rfl⟩

/-- The results of suites add up in a summary of them. -/
theorem addsUp_of_suites {summary : Summary} (hsuites : ∀ r ∈ summary.suites, r.AddsUp)
    (hsum : total (·.failures.toNat) summary.suites < UInt64.size →
      summary.failures.toNat = total (·.failures.toNat) summary.suites)
    (hlt : summary.totalCases + summary.suites.length < UInt64.size) : summary.AddsUp := by
  have htotal : total (·.failures.toNat) summary.suites =
      summary.count .failed + summary.suites.countP fun r => r.count .failed = 0 ∧ r.BrokeOff := by
    refine total_eq_add_countP fun r hr => ?_
    simpa using (hsuites r hr).failures_eq_add
  have hfailed := count_le_totalCases summary .failed
  have hbroke : (summary.suites.countP fun r => r.count .failed = 0 ∧ r.BrokeOff) ≤
      summary.suites.length := List.countP_le_length
  refine ⟨hsuites, ?_, by rw [hsum (by omega), htotal], ?_⟩
  · simp only [count_eq_countP, totalCases_eq_length, countP_outcomes]
  · refine List.filter_congr fun r hr => ?_
    rw [Bool.eq_iff_iff, decide_eq_true_eq]
    exact (hsuites r hr).isFailure_iff

/-- The numbers of a run add up, whatever its suites print and however their interpreters end. -/
theorem run_addsUp {s : Setting} {r : Registry} {summary : Summary}
    (h : ((command s).run r).result = .ok summary)
    (hlt : summary.totalCases + summary.suites.length < UInt64.size) :
    summary.AddsUp ∧
      ∃ line, Command.parse s.environment s.command = .ok line ∧
        List.Forall₂ (Records s.launch line) r.suites summary.suites := by
  have hrun : (runRegistered s r).result = .ok summary := h
  obtain ⟨line, hline, -⟩ := launches_of_result hrun
  rw [runRegistered_of_parse hline] at hrun
  have htells := tells_runSuites s line r.suites
  have hresults := htells.results summary hrun
  refine ⟨addsUp_of_suites ?_ (htells.failures summary hrun) hlt, line, hline,
    (forall₂_of_results hresults).imp fun _ _ => records_of_runSuite⟩
  intro result hresult
  have hmem : Except.ok result ∈ r.suites.map (runSuite s.launch line) := by
    rw [hresults]
    exact List.mem_map_of_mem hresult
  obtain ⟨suite, -, hsuite⟩ := List.mem_map.mp hmem
  obtain ⟨done, -, rfl⟩ := runSuite_eq_ok.mp hsuite
  have hcases := length_cases_le_totalCases hresult
  have hpos := List.length_pos_of_mem hresult
  exact addsUp_suiteResult (by omega)

/-- A suite with two failed leaves, one that bails out after a passed test, and one that is killed
after a test that is still to be done. -/
theorem run_addsUp_mixed :
    let s : Setting :=
      { command := "tap"
        jobs := 2
        environment := []
        launch := fun _ args =>
          if args = ["a"] then
            .ok { out := Text.Utf8.encode "not ok 1\n  not ok 1\nok 2\nok 3 # SKIP\n".toList }
          else if args = ["b"] then .ok { out := Text.Utf8.encode "ok 1\nBail out!\n".toList }
          else .ok { out := Text.Utf8.encode "not ok 1 # TODO\n".toList, code := none }
        locale := "en" }
    let r : Registry := ⟨[⟨"a", "a"⟩, ⟨"b", "b"⟩, ⟨"c", "c"⟩], []⟩
    ∃ summary, ((command s).run r).result = .ok summary ∧
      summary.totalCases + summary.suites.length < UInt64.size ∧ summary.AddsUp ∧
      summary.totalCases = 5 ∧ summary.count .failed = 2 ∧ summary.failures.toNat = 4 := by
  intro s r
  have hline : Command.parse [] "tap" = .ok ⟨"tap", []⟩ := by rfl
  obtain ⟨results, hresults⟩ : ∃ results : List SuiteResult,
      r.suites.map (runSuite s.launch ⟨"tap", []⟩) = results.map .ok ∧
        total (·.cases.length) results = 5 ∧ total (·.count .failed) results = 2 ∧
        results.length = 3 ∧ total (·.failures.toNat) results = 4 :=
    ⟨[_, _, _], rfl, by cbv, by cbv, rfl, by cbv⟩
  obtain ⟨hsuites, hcases, hfailed, hlength, hfailures⟩ := hresults
  have hrun : ((command s).run r).result = .ok (.of {} {} results) :=
    result_of_results hline hsuites
  have hlt : total (·.cases.length) results + results.length < UInt64.size := by
    rw [hcases, hlength]
    decide
  refine ⟨_, hrun, hlt, (run_addsUp hrun hlt).1, hcases, hfailed, ?_⟩
  rw [toNat_failures_of (by rw [hfailures]; decide), hfailures]

end Engine

end TapSuite

import TapSuite.Proofs.Engine.Outcome

/-!
# Failures

A suite has no failures exactly if it is clean: no leaf of its report has failed, its output does
not bail out, and its interpreter ends well.  The failures of a run are those of its suites, as long
as they fit into a word.

    failureCount report success < UInt64.size →
      (failuresOf report success).toNat = failureCount report success         (toNat_failuresOf)
-/

namespace TapSuite.Engine

/-! ## Failures of a suite -/

/-- The number of failures of a suite, whatever its size. -/
def failureCount (report : Tap.Report) (success : Bool) : Nat :=
  if report.failedCount = 0 ∧ (report.bailedOut ∨ success = false) then 1 else report.failedCount

theorem failedCount_le_failureCount (report : Tap.Report) (success : Bool) :
    report.failedCount ≤ failureCount report success := by
  unfold failureCount
  split
  · next h => omega
  · exact Nat.le_refl _

/-- A number of failures that fits into a word is counted as it is. -/
theorem toNat_failuresOf {report : Tap.Report} {success : Bool}
    (h : failureCount report success < UInt64.size) :
    (failuresOf report success).toNat = failureCount report success := by
  have hlt : report.failedCount < UInt64.size :=
    Nat.lt_of_le_of_lt (failedCount_le_failureCount report success) h
  have hcount : (UInt64.ofNat report.failedCount).toNat = report.failedCount :=
    UInt64.toNat_ofNat_of_lt' hlt
  have hzero : UInt64.ofNat report.failedCount = 0 ↔ report.failedCount = 0 := by
    rw [← UInt64.toNat_inj, hcount]
    rfl
  unfold failuresOf failureCount
  simp only [hzero]
  split
  · rfl
  · exact hcount

theorem failures_suiteResult (suite : SuiteFile) (done : Process.Completed) :
    (suiteResult suite done).failures = failuresOf (Tap.parse done.output) done.success := by
  rw [suiteResult]

/-- Whether what a suite's interpreter has done shows no failure. -/
structure Clean (done : Process.Completed) : Prop where
  leaves : ∀ p ∈ (Tap.parse done.output).leaves, p.outcome ≠ .failed
  goesOn : (Tap.parse done.output).bailedOut = false
  endsWell : done.code = some 0

theorem failedCount_eq_zero {report : Tap.Report} :
    report.failedCount = 0 ↔ ∀ p ∈ report.leaves, p.outcome ≠ .failed := by
  simp only [Tap.Report.failedCount, List.countP_eq_zero, decide_eq_true_eq, ne_eq]

theorem failureCount_eq_zero {done : Process.Completed} :
    failureCount (Tap.parse done.output) done.success = 0 ↔ Clean done := by
  unfold failureCount
  split
  · next h =>
    constructor
    · intro hone
      exact absurd hone Nat.one_ne_zero
    · intro hclean
      rcases h.2 with hbail | hcode
      · rw [hclean.goesOn] at hbail
        cases hbail
      · rw [Process.Completed.success, hclean.endsWell] at hcode
        cases hcode
  · next h =>
    constructor
    · intro hzero
      have hgood : (Tap.parse done.output).bailedOut = false ∧ done.success = true := by
        simpa [hzero] using h
      exact ⟨failedCount_eq_zero.mp hzero, hgood.1, of_decide_eq_true hgood.2⟩
    · exact fun hclean => failedCount_eq_zero.mpr hclean.leaves

/-! ## Failures of a run -/

section Runs

variable (launch : Process.Launcher) (line : Command.Line)

/-- Whether a suite is run and shows no failure. -/
def Passes (suite : SuiteFile) : Prop :=
  ∃ done, launch line.program (line.args ++ [suite.path]) = .ok done ∧ Clean done

/-- The number of failures of a suite that is run. -/
def suiteFailures (suite : SuiteFile) : Nat :=
  match launch line.program (line.args ++ [suite.path]) with
  | .ok done => failureCount (Tap.parse done.output) done.success
  | .error _ => 0

def runFailures : List SuiteFile → Nat
  | [] => 0
  | suite :: rest => suiteFailures launch line suite + runFailures rest

variable {launch line}

theorem suiteFailures_eq_zero {suite : SuiteFile} (h : Launches launch line suite) :
    suiteFailures launch line suite = 0 ↔ Passes launch line suite := by
  obtain ⟨done, hdone⟩ := h
  unfold suiteFailures Passes
  rw [hdone]
  simp only [failureCount_eq_zero, Except.ok.injEq, exists_eq_left']

/-- A run has no failures exactly if all suites pass. -/
theorem runFailures_eq_zero {suites : List SuiteFile}
    (h : ∀ suite ∈ suites, Launches launch line suite) :
    runFailures launch line suites = 0 ↔ ∀ suite ∈ suites, Passes launch line suite := by
  induction suites with
  | nil => exact ⟨fun _ _ hmem => (List.not_mem_nil hmem).elim, fun _ => rfl⟩
  | cons suite suites ih =>
    obtain ⟨hsuite, hrest⟩ := List.forall_mem_cons.mp h
    rw [runFailures, Nat.add_eq_zero_iff, suiteFailures_eq_zero hsuite, ih hrest,
      List.forall_mem_cons]

theorem total_failures {suites : List SuiteFile} {results : List SuiteResult}
    (h : suites.map (runSuite launch line) = results.map .ok)
    (hlt : runFailures launch line suites < UInt64.size) :
    total (·.failures.toNat) results = runFailures launch line suites := by
  replace h := forall₂_of_results h
  induction h with
  | nil => rfl
  | @cons suite r suites results hr _ ih =>
    obtain ⟨done, hdone, rfl⟩ := runSuite_eq_ok.mp hr
    have hsum : runFailures launch line (suite :: suites) =
        failureCount (Tap.parse done.output) done.success + runFailures launch line suites := by
      rw [runFailures, suiteFailures, hdone]
    -- what bounds the whole run bounds this suite and the rest of the run
    rw [hsum] at hlt ⊢
    rw [total, failures_suiteResult, toNat_failuresOf (by omega), ih (by omega)]

end Runs

end TapSuite.Engine

import Mathlib.Data.List.Forall2
import Mathlib.Data.List.Nodup
import TapSuite.Engine.Command
import TapSuite.Proofs.Engine.Schedule

/-!
# The order of completion does not show

The jobs of a run come to an end in some order.  Whatever it is, the summary lists the results of
the suites in the order of the suites, as if they had run one after the other.  If suites have
errors instead, the run fails with one of these errors.  The lines of the run are those of its
suites, in an order that the schedule settles.

    order.Perm (jobsFrom s line 0 suites) → suites.map (runSuite s.launch line) = results.map .ok →
      summaryOf s order = .ok (.of s.startedAt s.duration results)          (summaryOf_of_results)

    (runSuites s line suites).lines.Perm (suites.flatMap (suiteLines s line))
                                                                          (lines_runSuites_perm)
-/

namespace TapSuite.Engine

/-! ## Results of jobs -/

/-- A job's result with the job's index, if the job has one. -/
def Job.indexed? (job : Job) : Option (Nat × SuiteResult) :=
  job.result.toOption.map (job.index, ·)

/-- If every job has a result, all of them are collected. -/
theorem collect_of_ok {jobs : List Job} (h : ∀ job ∈ jobs, ∃ r, job.result = .ok r) :
    collect jobs = .ok (jobs.filterMap Job.indexed?) := by
  induction jobs with
  | nil => rfl
  | cons job jobs ih =>
    obtain ⟨r, hr⟩ := h job List.mem_cons_self
    have hjob : job.indexed? = some (job.index, r) := by rw [Job.indexed?, hr]; rfl
    rw [collect, hr, ih fun j hj => h j (List.mem_cons_of_mem _ hj), List.filterMap_cons_some hjob]
    rfl

/-- If some job has an error, the error of a job is what is collected. -/
theorem collect_of_error {jobs : List Job} (h : ∃ job ∈ jobs, ∃ e, job.result = .error e) :
    ∃ job ∈ jobs, ∃ e, job.result = .error e ∧ collect jobs = .error e := by
  induction jobs with
  | nil =>
    obtain ⟨job, hjob, -⟩ := h
    cases hjob
  | cons job jobs ih =>
    cases hr : job.result with
    | error e =>
      refine ⟨job, List.mem_cons_self, e, hr, ?_⟩
      rw [collect, hr]
    | ok r =>
      have hrest : ∃ job ∈ jobs, ∃ e, job.result = .error e := by
        obtain ⟨j, hj, e, he⟩ := h
        rcases List.mem_cons.mp hj with rfl | hj
        · rw [hr] at he
          cases he
        · exact ⟨j, hj, e, he⟩
      obtain ⟨j, hj, e, he, hcollect⟩ := ih hrest
      refine ⟨j, List.mem_cons_of_mem _ hj, e, he, ?_⟩
      rw [collect, hr, hcollect]
      rfl

/-- Results in any order are brought into the order of their indices. -/
theorem inOrder_of_perm {results sorted : List (Nat × SuiteResult)} (hperm : results.Perm sorted)
    (hsorted : sorted.Pairwise fun a b => a.1 < b.1) : inOrder results = sorted.map (·.2) := by
  have hnodup : (sorted.map (·.1)).Nodup := List.pairwise_map.mpr (hsorted.imp Nat.ne_of_lt)
  have hmem : ∀ a, a ∈ results.mergeSort (fun a b => a.1 ≤ b.1) → a ∈ sorted := fun a ha =>
    hperm.subset ((List.mergeSort_perm _ _).subset ha)
  have hmerged : (results.mergeSort fun a b => a.1 ≤ b.1).Pairwise fun a b => a.1 ≤ b.1 := by
    have htrans : ∀ a b c : Nat × SuiteResult, decide (a.1 ≤ b.1) = true →
        decide (b.1 ≤ c.1) = true → decide (a.1 ≤ c.1) = true :=
      fun a b c => by simpa using Nat.le_trans
    have htotal : ∀ a b : Nat × SuiteResult,
        (decide (a.1 ≤ b.1) || decide (b.1 ≤ a.1)) = true :=
      fun a b => by simpa using Nat.le_total _ _
    simpa using List.pairwise_mergeSort htrans htotal results
  -- no index occurs twice, so there is only one order that the indices allow
  have heq : results.mergeSort (fun a b => a.1 ≤ b.1) = sorted := by
    refine ((List.mergeSort_perm _ _).trans hperm).eq_of_pairwise ?_ hmerged
      (hsorted.imp Nat.le_of_lt)
    intro a b ha hb hab hba
    exact List.inj_on_of_nodup_map hnodup (hmem a ha) hb (Nat.le_antisymm hab hba)
  rw [inOrder, heq]

/-! ## Jobs of suites -/

theorem mem_jobsFrom {s : Setting} {line : Command.Line} {job : Job} {i : Nat}
    {suites : List SuiteFile} (h : job ∈ jobsFrom s line i suites) :
    i ≤ job.index ∧ job.suite ∈ suites ∧ job.result = runSuite s.launch line job.suite := by
  induction suites generalizing i with
  | nil => cases h
  | cons suite suites ih =>
    rcases List.mem_cons.mp h with rfl | h
    · exact ⟨Nat.le_refl _, List.mem_cons_self, rfl⟩
    · obtain ⟨hindex, hsuite, hresult⟩ := ih h
      exact ⟨Nat.le_of_succ_le hindex, List.mem_cons_of_mem _ hsuite, hresult⟩

theorem exists_job_of_mem (s : Setting) (line : Command.Line) (i : Nat) {suite : SuiteFile}
    {suites : List SuiteFile} (h : suite ∈ suites) :
    ∃ job ∈ jobsFrom s line i suites, job.result = runSuite s.launch line suite := by
  induction suites generalizing i with
  | nil => cases h
  | cons first suites ih =>
    rcases List.mem_cons.mp h with rfl | h
    · exact ⟨_, List.mem_cons_self, rfl⟩
    · obtain ⟨job, hjob, hresult⟩ := ih (i + 1) h
      exact ⟨job, List.mem_cons_of_mem _ hjob, hresult⟩

/-- Jobs are counted in the order of their suites. -/
theorem pairwise_jobsFrom (s : Setting) (line : Command.Line) (i : Nat) (suites : List SuiteFile) :
    (jobsFrom s line i suites).Pairwise fun a b => a.index < b.index := by
  induction suites generalizing i with
  | nil => exact .nil
  | cons suite suites ih => exact .cons (fun job hjob => (mem_jobsFrom hjob).1) (ih (i + 1))

/-- If all suites have results, each of them has the one at its place. -/
theorem forall₂_of_results {launch : Process.Launcher} {line : Command.Line}
    {suites : List SuiteFile} {results : List SuiteResult}
    (h : suites.map (runSuite launch line) = results.map .ok) :
    List.Forall₂ (fun suite r => runSuite launch line suite = .ok r) suites results := by
  rw [← List.forall₂_eq_eq_eq] at h
  exact List.forall₂_map_right_iff.mp (List.forall₂_map_left_iff.mp h)

theorem results_jobsFrom {s : Setting} {line : Command.Line} {suites : List SuiteFile}
    {results : List SuiteResult} (i : Nat)
    (h : suites.map (runSuite s.launch line) = results.map .ok) :
    ((jobsFrom s line i suites).filterMap Job.indexed?).map (·.2) = results := by
  replace h := forall₂_of_results h
  induction h generalizing i with
  | nil => rfl
  | @cons suite r suites results hr _ ih =>
    have hjob : Job.indexed? ⟨i, suite, runSuite s.launch line suite⟩ = some (i, r) := by
      rw [Job.indexed?, hr]
      rfl
    rw [jobsFrom, List.filterMap_cons_some hjob, List.map_cons, ih]

/-! ## Lines of suites -/

/-- The lines about a suite: it starts and, if its interpreter can be launched, it has a result. -/
def suiteLines (s : Setting) (line : Command.Line) (suite : SuiteFile) : List String :=
  runningLine s suite ::
    match runSuite s.launch line suite with
    | .ok r => [resultLine s r]
    | .error _ => []

theorem flatMap_jobsFrom (s : Setting) (line : Command.Line) (i : Nat) (suites : List SuiteFile) :
    ((jobsFrom s line i suites).flatMap fun job =>
        [.started job, .finished job].flatMap (eventLines s)) =
      suites.flatMap (suiteLines s line) := by
  induction suites generalizing i with
  | nil => rfl
  | cons suite suites ih =>
    rw [jobsFrom, List.flatMap_cons, List.flatMap_cons, ih (i + 1), List.flatMap_cons,
      List.flatMap_cons, List.flatMap_nil, List.append_nil]
    rfl

/-- Whatever the schedule, a run prints the lines about its suites and no others. -/
theorem lines_runSuites_perm (s : Setting) (line : Command.Line) (suites : List SuiteFile) :
    (runSuites s line suites).lines.Perm (suites.flatMap (suiteLines s line)) := by
  rw [← flatMap_jobsFrom s line 0, ← List.flatMap_assoc]
  exact (events_perm (max s.jobs 1) s.choices [] (jobsFrom s line 0 suites)).flatMap_right _

/-! ## Summaries -/

/-- What becomes of jobs that come to an end in some order. -/
def summaryOf (s : Setting) (order : List Job) : Except SetupError Summary :=
  (collect order).map fun results => .of s.startedAt s.duration (inOrder results)

/-- The jobs of a run come to an end in one of the orders of the suites' jobs. -/
theorem exists_order (s : Setting) (line : Command.Line) (suites : List SuiteFile) :
    ∃ order, order.Perm (jobsFrom s line 0 suites) ∧
      (runSuites s line suites).result = summaryOf s order :=
  ⟨_, finished_events_perm (max s.jobs 1) s.choices [] (jobsFrom s line 0 suites), rfl⟩

section Orders

variable {s : Setting} {line : Command.Line} {suites : List SuiteFile} {order : List Job}

/-- If every suite has a result, the summary lists them in the order of the suites. -/
theorem summaryOf_of_results (hperm : order.Perm (jobsFrom s line 0 suites))
    {results : List SuiteResult} (h : suites.map (runSuite s.launch line) = results.map .ok) :
    summaryOf s order = .ok (.of s.startedAt s.duration results) := by
  have hok : ∀ job ∈ order, ∃ r, job.result = .ok r := by
    intro job hjob
    obtain ⟨-, hsuite, hresult⟩ := mem_jobsFrom (hperm.subset hjob)
    have hmem := List.mem_map_of_mem (f := runSuite s.launch line) hsuite
    rw [h] at hmem
    obtain ⟨r, -, hr⟩ := List.mem_map.mp hmem
    exact ⟨r, by rw [hresult, hr]⟩
  have hsorted : ((jobsFrom s line 0 suites).filterMap Job.indexed?).Pairwise
      fun a b => a.1 < b.1 := by
    refine (pairwise_jobsFrom s line 0 suites).filterMap _ ?_
    intro a b hlt x hx y hy
    obtain ⟨r, -, rfl⟩ := Option.map_eq_some_iff.mp hx
    obtain ⟨r', -, rfl⟩ := Option.map_eq_some_iff.mp hy
    exact hlt
  have hresults : inOrder (order.filterMap Job.indexed?) = results := by
    rw [inOrder_of_perm (hperm.filterMap _) hsorted, results_jobsFrom 0 h]
  rw [summaryOf, collect_of_ok hok, ← hresults]
  rfl

/-- If some suite has none, the error is that of a suite. -/
theorem summaryOf_of_error (hperm : order.Perm (jobsFrom s line 0 suites))
    (h : ∃ suite ∈ suites, ∃ e, runSuite s.launch line suite = .error e) :
    ∃ suite ∈ suites, ∃ e,
      runSuite s.launch line suite = .error e ∧ summaryOf s order = .error e := by
  obtain ⟨suite, hsuite, e, he⟩ := h
  obtain ⟨job, hjob, hresult⟩ := exists_job_of_mem s line 0 hsuite
  obtain ⟨job', hjob', e', he', hcollect⟩ :=
    collect_of_error ⟨job, hperm.symm.subset hjob, e, hresult.trans he⟩
  obtain ⟨-, hsuite', hresult'⟩ := mem_jobsFrom (hperm.subset hjob')
  refine ⟨job'.suite, hsuite', e', hresult'.symm.trans he', ?_⟩
  rw [summaryOf, hcollect]
  rfl

end Orders

end TapSuite.Engine

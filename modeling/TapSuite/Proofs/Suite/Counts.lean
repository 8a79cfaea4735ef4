import TapSuite.Suite.Summary

/-!
# Counts of cases

The figures of a summary are sums over its suites.  They are also figures of the list of all cases,
and the counts of the four outcomes make up its length.

    s.count o = (s.suites.flatMap (·.cases)).countP (·.outcome = o)              (count_eq_countP)
-/

namespace TapSuite

/-! ## Sums over suites -/

/-- A sum over suites of what holds for their cases is one over all cases. -/
theorem total_countP (p : Case → Bool) (rs : List SuiteResult) :
    total (fun r => r.cases.countP p) rs = (rs.flatMap (·.cases)).countP p := by
  induction rs with
  | nil => rfl
  | cons r rs ih => rw [total, ih, List.flatMap_cons, List.countP_append]

/-- A figure that is greater by one for some suites has a sum that is greater by their number. -/
theorem total_eq_add_countP {figure base : SuiteResult → Nat} {p : SuiteResult → Bool}
    {rs : List SuiteResult} (h : ∀ r ∈ rs, figure r = base r + if p r then 1 else 0) :
    total figure rs = total base rs + rs.countP p := by
  induction rs with
  | nil => rfl
  | cons r rs ih =>
    obtain ⟨hr, hrest⟩ := List.forall_mem_cons.mp h
    rw [total, total, hr, ih hrest, List.countP_cons]
    omega

theorem count_eq_countP (s : Summary) (o : Outcome) :
    s.count o = (s.suites.flatMap (·.cases)).countP (·.outcome = o) :=
  total_countP _ s.suites

theorem totalCases_eq_length (s : Summary) :
    s.totalCases = (s.suites.flatMap (·.cases)).length := by
  rw [← List.countP_true, ← total_countP, Summary.totalCases]
  simp only [List.countP_true]

theorem length_cases_le_totalCases {s : Summary} {r : SuiteResult} (h : r ∈ s.suites) :
    r.cases.length ≤ s.totalCases := by
  obtain ⟨before, after, hsplit⟩ := List.append_of_mem h
  rw [totalCases_eq_length, hsplit, List.flatMap_append, List.flatMap_cons]
  simp only [List.length_append]
  omega

theorem count_le_totalCases (s : Summary) (o : Outcome) : s.count o ≤ s.totalCases := by
  rw [count_eq_countP, totalCases_eq_length]
  exact List.countP_le_length

/-! ## Outcomes -/

/-- Every case has one of the four outcomes. -/
theorem countP_outcomes (cs : List Case) :
    cs.countP (·.outcome = .passed) + cs.countP (·.outcome = .failed) +
      cs.countP (·.outcome = .skipped) + cs.countP (·.outcome = .todo) = cs.length := by
  induction cs with
  | nil => rfl
  | cons c cs ih =>
    simp only [List.countP_cons, List.length_cons]
    cases c.outcome
    all_goals
      simp only [decide_true, reduceCtorEq, decide_false, if_true, Bool.false_eq_true, if_false]
      omega

end TapSuite

import TapSuite.Proofs.Json.RoundTrip
import TapSuite.Proofs.Suite.Counts
import TapSuite.Report.JsonReader
import TapSuite.Report.Reporter

/-!
# The JSON report read back

The file that the report is written to, and the same report without spaces, are parsed to one
value, and a reader of that value finds the results of the suites as they were, in order, and the
statistics of just these results.

    parse? (pretty s.report) = parse? (compact s.report) = some v
    readReport? v = some (stats of s, s.suites)                              (report_readBack)

The counts of the report are sums over the suites; those of the reader are taken over all cases.
-/

namespace TapSuite

open Json

/-! ## Parts read back -/

theorem word?_count (n : UInt64) : (Value.count n.toNat).word? = some n := by
  have hlt : n.toNat < UInt64.size := n.toNat_lt
  have hnatural : (Value.count n.toNat).natural? = some n.toNat := rfl
  rw [Value.word?, hnatural]
  simp [hlt]

theorem mapM_map {α β : Type} {write : α → β} {read : β → Option α}
    (h : ∀ a, read (write a) = some a) (l : List α) : (l.map write).mapM read = some l := by
  induction l with
  | nil => rfl
  | cons a l ih => rw [List.map_cons, List.mapM_cons, h, ih]; rfl

theorem ofJson?_span (d : Span) : Span.ofJson? d.toJson = some d := by
  have hseconds := word?_count d.seconds
  have hnanos : (Value.count d.nanos.val).natural? = some d.nanos.val := rfl
  have hlt : d.nanos.val < 1000000000 := d.nanos.isLt
  simp only [Span.ofJson?, Span.toJson, Value.record?, ↓reduceIte, List.map_cons, List.map_nil,
    hseconds, hnanos, Option.bind_eq_bind, Option.bind_some, dif_pos hlt]

theorem ofJson?_suiteFile (f : SuiteFile) : SuiteFile.ofJson? f.toJson = some f := by
  simp only [SuiteFile.ofJson?, SuiteFile.toJson, Value.record?, ↓reduceIte, List.map_cons,
    List.map_nil, Value.text?, Option.bind_eq_bind, Option.bind_some]

theorem ofWord?_word (o : Outcome) : Outcome.ofWord? o.word = some o := by
  cases o <;> rfl

theorem ofJson?_case (c : Case) : Case.ofJson? c.toJson = some c := by
  simp only [Case.ofJson?, Case.toJson, Value.record?, ↓reduceIte, List.map_cons, List.map_nil,
    Value.text?, ofWord?_word, Option.bind_eq_bind, Option.bind_some]

theorem readExitCodeJson?_exitCodeJson (code : Option Int) :
    readExitCodeJson? (exitCodeJson code) = some code := by
  cases code <;> rfl

/-- The result of a suite is read back. -/
theorem ofJson?_suiteResult (r : SuiteResult) : SuiteResult.ofJson? r.toJson = some r := by
  have hcases : (Value.array (r.cases.map Case.toJson)).list? Case.ofJson? = some r.cases :=
    mapM_map ofJson?_case r.cases
  simp only [SuiteResult.ofJson?, SuiteResult.toJson, Value.record?, ↓reduceIte,
    List.map_cons, List.map_nil, ofJson?_suiteFile, hcases, word?_count,
    readExitCodeJson?_exitCodeJson, Value.text?, ofJson?_span, Option.bind_eq_bind,
    Option.bind_some]

/-- The statistics of a run, with each count taken over all its cases. -/
def Summary.runStats (s : Summary) : RunStats where
  start := s.startedAt.internet
  milliseconds := 1000 * s.duration.seconds.toNat + s.duration.nanos.val / 1000000
  suites := s.suites.length
  tests := (s.suites.flatMap (·.cases)).length
  passes := (s.suites.flatMap (·.cases)).countP (·.outcome = .passed)
  failures := s.failures
  skipped := (s.suites.flatMap (·.cases)).countP (·.outcome = .skipped)
  todo := (s.suites.flatMap (·.cases)).countP (·.outcome = .todo)

theorem ofJson?_stats (s : Summary) : RunStats.ofJson? s.stats = some s.runStats := by
  have hnatural (n : Nat) : (Value.count n).natural? = some n := rfl
  simp only [RunStats.ofJson?, Summary.stats, Value.record?, ↓reduceIte, List.map_cons,
    List.map_nil, Value.text?, hnatural, word?_count, totalCases_eq_length, count_eq_countP,
    Option.bind_eq_bind, Option.bind_some]
  rfl

theorem readReport?_report (s : Summary) : readReport? s.report = some (s.runStats, s.suites) := by
  have hresults : (Value.array (s.suites.map SuiteResult.toJson)).list? SuiteResult.ofJson? =
      some s.suites := mapM_map ofJson?_suiteResult s.suites
  simp only [readReport?, Summary.report, Value.record?, ↓reduceIte, List.map_cons, List.map_nil,
    ofJson?_stats, hresults, Option.bind_eq_bind, Option.bind_some]

/-! ## The report read back -/

/-- What the reporter writes to its file and the report without spaces are parsed to one value, and
from that value the statistics and the results of the run are read back. -/
theorem report_readBack (s : Summary) :
    ∃ text v,
      (∀ colours locale options w, ReporterKind.json.reporter colours locale options s w =
        .ofFile (w.writeArtifact options.reportDir (options.reportFilename ++ ".json") text)) ∧
      parse? text = some v ∧ parse? (compact s.report) = some v ∧
      readReport? v = some (s.runStats, s.suites) :=
  ⟨pretty s.report, s.report, fun _ _ _ _ => rfl, parse?_pretty s.report, parse?_compact s.report,
    readReport?_report s⟩

end TapSuite

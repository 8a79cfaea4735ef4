import Mathlib
import TapSuite.Proofs.Engine.Outcome
import TapSuite.Proofs.Process.Capture
import TapSuite.Proofs.Tap.Noise

/-!
# Noise on the error stream

Both streams of an interpreter go into one text, and the reader of that text does not know whose
line is whose.  Lines of the error stream that say nothing leave the result of a suite alone unless
one of them cuts off a block of the standard output that has a point or a bail out left in it.

    quiet.DropsErr done → done.Arrives arrivals →
      (Spared {} arrivals ↔ recorded done.output = recorded quiet.output)       (runSuite_noisy)

Otherwise more is recorded, and the more may change which points have points below them.
-/

namespace TapSuite

open Text

/-! ## Arrivals -/

namespace Process

open Tap (linesOn)

/-- Whether the lines of both streams of a program arrive in an order that its output shows. -/
structure Completed.Arrives (done : Completed) (arrivals : List (Stream × List Char)) : Prop where
  out : linesOn .out arrivals = lineTexts done.out
  err : linesOn .err arrivals = lineTexts done.err
  output : done.output.toList = unlines (arrivals.map (·.2))

/-- Whether a program does what another one does, but for its error stream, which is empty. -/
structure Completed.DropsErr (quiet done : Completed) : Prop where
  out : lineTexts quiet.out = lineTexts done.out
  err : quiet.err = []
  code : quiet.code = done.code

/-- A merge of lines tells, by an order in which they arrive, whose line is whose. -/
theorem exists_arrivals {a b c : List (List Char)} (h : Merge a b c) :
    ∃ arrivals, linesOn .out arrivals = a ∧ linesOn .err arrivals = b ∧
      arrivals.map (·.2) = c := by
  induction h with
  | nil => exact ⟨[], rfl, rfl, rfl⟩
  | @left x _ _ _ _ ih =>
    obtain ⟨arrivals, rfl, rfl, rfl⟩ := ih
    exact ⟨(.out, x) :: arrivals, rfl, rfl, rfl⟩
  | @right x _ _ _ _ ih =>
    obtain ⟨arrivals, rfl, rfl, rfl⟩ := ih
    exact ⟨(.err, x) :: arrivals, rfl, rfl, rfl⟩

/-- The captured lines arrive in some order. -/
theorem Completed.exists_arrives (done : Completed) : ∃ arrivals, done.Arrives arrivals := by
  obtain ⟨more, hrun, hjoined⟩ :=
    ((Capture.start done.out done.err).run done.schedule).exists_run_eq_finish
  have hreached := ((Capture.reached_start done.out done.err).run done.schedule).run more
  rw [hrun] at hreached
  obtain ⟨hmerge, htext⟩ := hreached.merge hjoined
  obtain ⟨arrivals, hout, herr, hall⟩ := exists_arrivals hmerge
  refine ⟨arrivals, hout, herr, ?_⟩
  rw [hall, htext, Completed.output, String.toList_ofList, captured]

section Arrives

variable {done quiet : Completed} {arrivals : List (Stream × List Char)}

/-- No captured line has a line feed. -/
theorem Completed.Arrives.one_line (h : done.Arrives arrivals) :
    ∀ raw ∈ arrivals.map (·.2), '\n' ∉ raw := by
  intro raw hraw
  obtain ⟨⟨s, raw⟩, harrival, rfl⟩ := List.mem_map.mp hraw
  have hmem : raw ∈ linesOn s arrivals :=
    List.mem_map.mpr ⟨(s, raw), List.mem_filter.mpr ⟨harrival, by simp⟩, rfl⟩
  cases s with
  | out => exact not_mem_lineTexts raw (h.out ▸ hmem)
  | err => exact not_mem_lineTexts raw (h.err ▸ hmem)

/-- If nothing is on the error stream, the lines that arrive are those of the standard output. -/
theorem Completed.Arrives.map_of_err (h : done.Arrives arrivals) (herr : done.err = []) :
    arrivals.map (·.2) = lineTexts done.out := by
  have hnone : linesOn .err arrivals = [] := by
    rw [h.err, herr]
    rfl
  rw [linesOn, List.map_eq_nil_iff, List.filter_eq_nil_iff] at hnone
  rw [← h.out, linesOn, List.filter_eq_self.mpr]
  intro arrival harrival
  have herr := hnone arrival harrival
  cases hs : arrival.1 with
  | out => rfl
  | err => exact absurd (by simp [hs]) herr

end Arrives

end Process

/-! ## Items -/

namespace Tap

open Process (Completed Stream)

/-- What is recorded of a text. -/
def recorded (text : String) : List Item := scan {} (linesOf text.toList)

/-- Whether two reports say the same at the outermost level. -/
structure Report.SameOutermost (r r' : Report) : Prop where
  points : r.points.filter (·.depth = 0) = r'.points.filter (·.depth = 0)
  plan : r.plan = r'.plan

theorem parse_eq_ofItems (text : String) : parse text = Report.ofItems (recorded text) := rfl

section Recorded

variable {done quiet : Completed} {arrivals : List (Stream × List Char)}

theorem recorded_output (h : done.Arrives arrivals) :
    recorded done.output = scan {} (allLines arrivals) := by
  rw [recorded, h.output, ← scan_nonblank, nonblank_linesOf_unlines h.one_line, scan_nonblank,
    allLines, List.map_map]
  rfl

theorem recorded_output_quiet (hquiet : quiet.DropsErr done) (h : done.Arrives arrivals) :
    recorded quiet.output = scan {} (outLines arrivals) := by
  obtain ⟨arrivals', h'⟩ := quiet.exists_arrives
  have hlines : allLines arrivals' = outLines arrivals := by
    rw [outLines, h.out, ← hquiet.out, ← h'.map_of_err hquiet.err, allLines, List.map_map]
    rfl
  rw [recorded_output h', hlines]

theorem noisy_of_arrives (h : done.Arrives arrivals)
    (hnoise : ∀ raw ∈ Process.lineTexts done.err, (Line.of raw).IsNoise) : Noisy arrivals := by
  intro raw hraw
  rw [h.err] at hraw
  exact hnoise raw hraw

theorem sameOutermost_of_noisy (hnoisy : Noisy arrivals) :
    (Report.ofItems (scan {} (allLines arrivals))).SameOutermost
      (Report.ofItems (scan {} (outLines arrivals))) := by
  constructor
  · simp only [Report.ofItems, List.filter_filterMap]
    exact filterMap_scan_allLines (fun m last line h => step_outerPoint? h line)
      (fun line h => h.outerPoint?) hnoisy
  · simp only [Report.ofItems]
    rw [filterMap_scan_allLines (fun m last line h => step_outerPlan? h line)
      (fun line h => h.outerPlan?) hnoisy]

end Recorded

end Tap

namespace Engine

open Tap

/-! ## The result of a suite -/

section Suites

variable {launch launch' : Process.Launcher} {line : Command.Line} {suite : SuiteFile}
  {done quiet : Process.Completed}

/-- Noise on the error stream leaves the sequence of what is recorded of a suite alone exactly if no
line of it cuts off a part of a block that speaks; then the cases and the failures are those of the
standard output.  The converse is about the sequence: another one may still make up the same report,
as a second bail out does.  Whatever noise cuts off, all that the standard output says is recorded,
in its order, and what is said at the outermost level is the same. -/
theorem runSuite_noisy (hdone : launch line.program (line.args ++ [suite.path]) = .ok done)
    (hlaunch' : launch' line.program (line.args ++ [suite.path]) = .ok quiet)
    (hquiet : quiet.DropsErr done)
    (hnoise : ∀ raw ∈ Process.lineTexts done.err, (Line.of raw).IsNoise) :
    ∃ r r', runSuite launch line suite = .ok r ∧ runSuite launch' line suite = .ok r' ∧
      (∃ arrivals, done.Arrives arrivals) ∧
      (∀ arrivals, done.Arrives arrivals →
        (Spared {} arrivals ↔ recorded r.output = recorded r'.output) ∧
        (Spared {} arrivals → r.cases = r'.cases ∧ r.failures = r'.failures)) ∧
      (recorded r'.output).Sublist (recorded r.output) ∧
      (parse r.output).SameOutermost (parse r'.output) := by
  obtain ⟨arrivals₀, h₀⟩ := done.exists_arrives
  have hnoisy₀ := noisy_of_arrives h₀ hnoise
  have hsublist := (Follows.same {}).sublist (Mode.tidy_of_block rfl) hnoisy₀
  refine ⟨_, _, runSuite_eq_ok.mpr ⟨done, hdone, rfl⟩, runSuite_eq_ok.mpr ⟨quiet, hlaunch', rfl⟩,
    ⟨arrivals₀, h₀⟩, ?_, ?_, ?_⟩
  · intro arrivals h
    have hiff : Spared {} arrivals ↔ recorded done.output = recorded quiet.output := by
      rw [recorded_output h, recorded_output_quiet hquiet h]
      exact spared_iff_scan_eq (noisy_of_arrives h hnoise)
    refine ⟨hiff, fun hspared => ?_⟩
    have hparse : parse done.output = parse quiet.output := by
      rw [parse_eq_ofItems, hiff.mp hspared, ← parse_eq_ofItems]
    have hsuccess : done.success = quiet.success := by
      rw [Process.Completed.success, Process.Completed.success, hquiet.code]
    simp only [suiteResult, hparse, hsuccess, and_self]
  · show (recorded quiet.output).Sublist (recorded done.output)
    rw [recorded_output h₀, recorded_output_quiet hquiet h₀]
    exact hsublist
  · show (parse done.output).SameOutermost (parse quiet.output)
    rw [parse_eq_ofItems, parse_eq_ofItems, recorded_output h₀, recorded_output_quiet hquiet h₀]
    exact sameOutermost_of_noisy hnoisy₀

end Suites

/-- A trace is deep enough to stay in the block that quotes a failure, and a warning cuts off a
block in which nothing speaks. -/
theorem runSuite_noisy_harmless :
    let done : Process.Completed :=
      { out := Utf8.encode "ok 1\n ---\n  not ok 7\n ...\nnot ok 2\n ---\n at\n ...\n".toList
        err := Utf8.encode "  at a.sh\noops\n".toList
        schedule := [.out, .out, .err, .out, .out, .out, .err].flatMap (List.replicate 5) }
    let quiet : Process.Completed := { done with err := [] }
    let arrivals : List (Process.Stream × List Char) :=
      [(.out, "ok 1".toList), (.out, " ---".toList), (.err, "  at a.sh".toList),
        (.out, "  not ok 7".toList), (.out, " ...".toList), (.out, "not ok 2".toList),
        (.err, "oops".toList), (.out, " ---".toList), (.out, " at".toList), (.out, " ...".toList)]
    let suite : SuiteFile := ⟨"a.sh", "a.sh"⟩
    quiet.DropsErr done ∧ (∀ raw ∈ Process.lineTexts done.err, (Line.of raw).IsNoise) ∧
      done.Arrives arrivals ∧ Spared {} arrivals ∧
      ∃ r r', runSuite (fun _ _ => .ok done) ⟨"sh", []⟩ suite = .ok r ∧
        runSuite (fun _ _ => .ok quiet) ⟨"sh", []⟩ suite = .ok r' ∧
        r.cases = r'.cases ∧ r.failures = r'.failures ∧ r.failures = 1 := by
  intro done quiet arrivals suite
  have hquiet : quiet.DropsErr done := ⟨rfl, rfl, rfl⟩
  have hnoise : ∀ raw ∈ Process.lineTexts done.err, (Line.of raw).IsNoise := by
    have hlines : Process.lineTexts done.err = ["  at a.sh".toList, "oops".toList] := by cbv
    rw [hlines]
    decide
  have harrives : done.Arrives arrivals := ⟨by cbv, by cbv, by cbv⟩
  have hspared : Spared {} arrivals := by decide
  obtain ⟨r, r', hr, hr', -, hall, -⟩ := @runSuite_noisy (fun _ _ => .ok done)
    (fun _ _ => .ok quiet) ⟨"sh", []⟩ suite done quiet rfl rfl hquiet hnoise
  obtain ⟨hcases, hfailures⟩ := (hall arrivals harrives).2 hspared
  refine ⟨hquiet, hnoise, harrives, hspared, r, r', hr, hr', hcases, hfailures, ?_⟩
  cases hr
  cbv

/-- A warning between a point and its block lets the quoted point speak, which then takes the failed
test after it for its parent: the failure of the suite is gone. -/
theorem runSuite_cutOff :
    let out := "ok 1 - a\n  ---\n  ok 9 - quoted\n  ...\nnot ok 2 - b\n"
    let done : Process.Completed :=
      { out := Utf8.encode out.toList
        err := Utf8.encode "warning\n".toList
        schedule := [.out, .err, .out, .out, .out, .out].flatMap (List.replicate 5) }
    let quiet : Process.Completed := { done with err := [] }
    let suite : SuiteFile := ⟨"a.sh", "a.sh"⟩
    done.output = "ok 1 - a\nwarning\n  ---\n  ok 9 - quoted\n  ...\nnot ok 2 - b\n" ∧
      quiet.DropsErr done ∧ (∀ raw ∈ Process.lineTexts done.err, (Line.of raw).IsNoise) ∧
      ∃ r r', runSuite (fun _ _ => .ok done) ⟨"sh", []⟩ suite = .ok r ∧
        runSuite (fun _ _ => .ok quiet) ⟨"sh", []⟩ suite = .ok r' ∧
        r.cases = [⟨"a", .passed⟩, ⟨"quoted", .passed⟩] ∧ r.failures = 0 ∧
        r'.cases = [⟨"a", .passed⟩, ⟨"b", .failed⟩] ∧ r'.failures = 1 := by
  intro out done quiet suite
  have hlines : Process.lineTexts done.err = ["warning".toList] := by cbv
  refine ⟨by cbv, ⟨rfl, rfl, rfl⟩, ?_, _, _, rfl, rfl, ?_, ?_, ?_, ?_⟩
  · rw [hlines]
    decide
  all_goals cbv

end Engine

end TapSuite

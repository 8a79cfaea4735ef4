import TapSuite.Proofs.Locale.Message
import TapSuite.Report.Html

/-!
# The program's own texts in a page

What the program itself puts into a page, its messages in every language, its style sheet and its
script, starts no tag.

    Lacks '<' (Locale.say locale key values)        for the report's keys         (lacks_say)
    Lacks '<' styleSheet
    Lacks '<' script
-/

namespace TapSuite

/-! ## Messages -/

def reportKeys : List String :=
  ["report.status_passed", "report.status_failed", "report.status_skipped", "html_report.title",
    "html_report.main_header", "html_report.started_at", "html_report.toggle_details",
    "html_report.summary.suites", "html_report.summary.tests", "html_report.summary.passed",
    "html_report.summary.failed", "html_report.summary.skipped", "html_report.table.header.suite",
    "html_report.table.header.status", "html_report.table.header.cases",
    "html_report.table.header.failures", "html_report.table.header.duration"]

theorem mem_catalog_of_mem_reportKeys : ∀ key ∈ reportKeys, key ∈ catalog.map (·.key) := by
  simp [reportKeys, catalog]

/-- A message of the report starts no tag, in any locale. -/
theorem lacks_say {key : String} {values : List (String × String)} (locale : String)
    (h : key ∈ reportKeys) (hvalues : ∀ v ∈ values, Lacks '<' v.2) :
    Lacks '<' (Locale.say locale key values) :=
  lacks_message (by decide) (mem_catalog_of_mem_reportKeys key h) locale hvalues

/-! ## Style sheet and script -/

section

open Html Report

theorem lacks_rule {selector : String} {declarations : List String} :
    Lacks '<' (rule selector declarations) ↔
      Lacks '<' selector ∧ ∀ d ∈ declarations, Lacks '<' d := by
  have hends : Lacks '<' " \x7b " ∧ Lacks '<' "; " ∧ Lacks '<' "\x7d\n" :=
    ⟨.literal rfl rfl, .literal rfl rfl, .literal rfl rfl⟩
  simp only [rule, lacks_append, lacks_join, List.forall_mem_map, hends, and_true]

theorem lacks_block {selector : String} {declarations : List String} :
    Lacks '<' (block selector declarations) ↔
      Lacks '<' selector ∧ ∀ d ∈ declarations, Lacks '<' d := by
  have hends : Lacks '<' " \x7b\n" ∧ Lacks '<' "  " ∧ Lacks '<' ";\n" ∧ Lacks '<' "\x7d\n" :=
    ⟨.literal rfl rfl, .literal rfl rfl, .literal rfl rfl, .literal rfl rfl⟩
  simp only [block, lacks_append, lacks_join, List.forall_mem_map, hends, and_true, true_and]

theorem lacks_styleSheet : Lacks '<' styleSheet := by
  simp only [styleSheet, lacks_join, lacks_rule, lacks_block, List.forall_mem_cons,
    List.not_mem_nil, false_implies, implies_true, and_true]
  and_intros
  all_goals exact .literal rfl rfl

theorem lacks_script : Lacks '<' script := by
  simp only [script, printed, lacks_join, lacks_append, List.forall_mem_map, List.forall_mem_cons,
    List.not_mem_nil, false_implies, implies_true, and_true]
  and_intros
  all_goals exact .literal rfl rfl

end

end TapSuite

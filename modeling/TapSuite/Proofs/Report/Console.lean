import TapSuite.Proofs.Console.Plain
import TapSuite.Proofs.Locale.Message
import TapSuite.Report.Console

/-!
# Reports in colours

Colours change nothing in a report but the escapes: with these taken out, what is printed in colours
is what is printed without them, the columns of the table included.  The report on failures has one
section for each failing suite, in their order, and does not depend on the suites that pass.

    plain (printed (table true locale s)) = printed (table false locale s)
    failures colours locale s = [] ↔ s.failedSuites = []
    s.failedSuites = s'.failedSuites →
      failures colours locale s = failures colours locale s'                   (colours_onlyEscapes)

The texts of the suites must not hold escapes of their own; in a coloured text such an escape would
be taken out too.
-/

namespace TapSuite

/-- Whether what the suites of a run are called, list and print is free of escapes. -/
structure SuiteResult.Unescaped (r : SuiteResult) : Prop where
  name : Lacks escapeMark r.suite.name
  path : Lacks escapeMark r.suite.path
  output : Lacks escapeMark r.output
  cases : ∀ c ∈ r.cases, Lacks escapeMark c.name

namespace Report

/-! ## Texts without escapes -/

/-- The keys of the messages that a report on the console prints. -/
def consoleKeys : List String :=
  ["report.status_passed", "report.status_failed", "report.status_skipped", "summary.banner",
    "summary.totals", "summary.failure_banner", "summary.failure_header", "summary.exit_code",
    "summary.suite_log"]

theorem mem_catalog_of_mem_consoleKeys : ∀ key ∈ consoleKeys, key ∈ catalog.map (·.key) := by
  simp [consoleKeys, catalog]

section

variable {key : String} {values : List (String × String)} {s : String}

theorem unescaped_say (locale : String) (h : key ∈ consoleKeys)
    (hvalues : ∀ v ∈ values, Lacks escapeMark v.2) :
    Lacks escapeMark (Locale.say locale key values) :=
  lacks_message (by decide) (mem_catalog_of_mem_consoleKeys key h) locale hvalues

theorem unescaped_number (n : Nat) : Lacks escapeMark (toString n) := lacks_toString rfl n

theorem unescaped_span (d : Span) : Lacks escapeMark d.text := lacks_spanText rfl (by decide) d

theorem unescaped_label (locale : String) (status : SuiteStatus) :
    Lacks escapeMark (status.label locale) := by
  cases status
  all_goals exact unescaped_say locale (by decide) nofun

theorem unescaped_totals (locale : String) (s : Summary) : Lacks escapeMark (totals locale s) := by
  unfold totals
  apply unescaped_say locale (by decide)
  simp only [List.forall_mem_cons]
  exact ⟨unescaped_number _, unescaped_number _, unescaped_number _, unescaped_number _,
    unescaped_span _, nofun⟩

theorem unescaped_ruler : Lacks escapeMark ruler :=
  .literal (l := List.replicate 80 '-') rfl (by simp [escapeMark])

theorem unescaped_withoutTrailingBlanks (h : Lacks escapeMark s) :
    Lacks escapeMark (withoutTrailingBlanks s) := by
  rw [Lacks, withoutTrailingBlanks, String.toList_ofList, Text.trimEnd, List.mem_reverse]
  intro hmem
  exact h (List.mem_reverse.mp ((List.dropWhile_sublist _).mem hmem))

end

/-! ## Lines in colours -/

section

variable {r : SuiteResult}

/-- A verdict is filled up to its column before it is painted, so its column keeps its width. -/
theorem fades_row (locale : String) (h : r.Unescaped) :
    Fades (row true locale r) (row false locale r) := by
  have hspace : escapeMark ≠ ' ' := by decide
  have hstart : Fades "  - " "  - " := .of_lacks (.literal rfl rfl)
  have hbar : Lacks escapeMark " | " := .literal rfl rfl
  have hstatus (style : Style) := hstart.append
    (.paint style (lacks_alignLeft hspace 10 (unescaped_label locale r.status)))
  have hname := lacks_alignLeft hspace 40 h.name
  have hcases := lacks_alignRight hspace 6 (unescaped_number r.cases.length)
  have hfailures := lacks_alignRight hspace 8 (unescaped_number r.failures.toNat)
  have hduration := lacks_alignRight hspace 9 (unescaped_span r.duration)
  unfold row
  exact ((((((((hstatus _).append_plain hbar).append_plain hname).append_plain hbar).append_plain
    hcases).append_plain hbar).append_plain hfailures).append_plain (.literal rfl rfl)).append_plain
    hduration |>.append_plain (.literal rfl rfl)

theorem fadeLines_failureSection (locale : String) (total index : Nat) (h : r.Unescaped) :
    FadeLines (failureSection true locale total index r)
      (failureSection false locale total index r) := by
  have hopen : Fades ("[" ++ toString index ++ "/" ++ toString total ++ "] ")
      ("[" ++ toString index ++ "/" ++ toString total ++ "] ") := by
    apply Fades.of_lacks
    simp only [lacks_append]
    exact ⟨⟨⟨⟨.literal rfl rfl, unescaped_number _⟩, .literal rfl rfl⟩, unescaped_number _⟩,
      .literal rfl rfl⟩
  have hheader : Lacks escapeMark (Locale.say locale "summary.failure_header") :=
    unescaped_say locale (by decide) nofun
  have hlog : Lacks escapeMark (Locale.say locale "summary.suite_log") :=
    unescaped_say locale (by decide) nofun
  have hdashes : Fades "--- " "--- " := .of_lacks (.literal rfl rfl)
  have hexit : ∀ code ∈ r.exitCode.toList,
      Lacks escapeMark (Locale.say locale "summary.exit_code" [("code", toString code)]) :=
    fun code _ => unescaped_say locale (by decide)
      (List.forall_mem_singleton.mpr (lacks_toString_int rfl (by decide) code))
  unfold failureSection
  refine ((FadeLines.single ?_).append (.map fun code hcode => .of_lacks (hexit code hcode))).append
    ?_
  · exact (((hopen.append (.paint _ hheader)).append_plain (.literal rfl rfl)).append
      (.paint _ h.path)).append_plain (.literal rfl rfl)
  · refine .cons (.of_lacks (.literal rfl rfl)) (.cons ?_ (.of_lacks ?_))
    · exact (hdashes.append (.paint _ hlog)).append_plain (.literal rfl rfl)
    · simp only [List.forall_mem_cons]
      exact ⟨.literal rfl rfl, unescaped_withoutTrailingBlanks h.output, .literal rfl rfl,
        unescaped_ruler, nofun⟩

theorem fades_caseLine {c : Case} (h : Lacks escapeMark c.name) :
    Fades (caseLine true c) (caseLine false c) := by
  have hindent : Fades "    " "    " := .of_lacks (.literal rfl rfl)
  have hmark {mark : String} (hmark : Lacks escapeMark mark) : Lacks escapeMark (mark ++ c.name) :=
    lacks_append.mpr ⟨hmark, h⟩
  unfold caseLine
  cases c.outcome
  all_goals exact hindent.append (.paint _ (hmark (.literal rfl rfl)))

theorem fadeLines_caseList (h : r.Unescaped) :
    FadeLines (caseList true r) (caseList false r) := by
  have hindent : Fades "  " "  " := .of_lacks (.literal rfl rfl)
  have hcases := FadeLines.map fun c hc => fades_caseLine (h.cases c hc)
  exact .cons (hindent.append (.paint .bold h.name)) hcases

end

/-! ## Failing suites -/

def failureHead (colours : Bool) (locale : String) : List String :=
  ["", (Style.boldColour .red).paint colours (Locale.say locale "summary.failure_banner"), ruler]

theorem sections_eq_flatMap (colours : Bool) (locale : String) (total index : Nat)
    (failed : List SuiteResult) :
    sections colours locale total index failed =
      (failed.zipIdx index).flatMap fun p => failureSection colours locale total p.2 p.1 := by
  induction failed generalizing index with
  | nil => rfl
  | cons r failed ih => rw [sections, List.zipIdx_cons, List.flatMap_cons, ih]

/-- Each failing suite has one section, with its place among the failing ones. -/
theorem failures_eq_sections (colours : Bool) (locale : String) {s : Summary}
    (h : s.failedSuites ≠ []) :
    failures colours locale s =
      failureHead colours locale ++ (s.failedSuites.zipIdx 1).flatMap fun p =>
        failureSection colours locale s.failedSuites.length p.2 p.1 := by
  simp only [failures, List.isEmpty_iff, if_neg h, sections_eq_flatMap]
  rfl

theorem failures_eq_nil_iff (colours : Bool) (locale : String) (s : Summary) :
    failures colours locale s = [] ↔ s.failedSuites = [] := by
  constructor
  · intro hnone
    apply Classical.byContradiction
    intro h
    rw [failures_eq_sections colours locale h] at hnone
    cases hnone
  · intro h
    simp only [failures, h, List.isEmpty_nil, if_true]

theorem failures_congr (colours : Bool) (locale : String) {s s' : Summary}
    (h : s'.failedSuites = s.failedSuites) :
    failures colours locale s' = failures colours locale s := by
  simp only [failures, h]

theorem failedSuites_append_passing {before passing following : List SuiteResult}
    (h : ∀ r ∈ passing, r.isFailure = false) (s : Summary) :
    { s with suites := before ++ passing ++ following }.failedSuites =
      { s with suites := before ++ following }.failedSuites := by
  have hnone : passing.filter (·.isFailure) = [] :=
    List.filter_eq_nil_iff.mpr fun r hr => by simp [h r hr]
  simp [Summary.failedSuites, hnone]

/-! ## Reports in colours -/

section

variable {s : Summary}

theorem fadeLines_table (locale : String) (h : ∀ r ∈ s.suites, r.Unescaped) :
    FadeLines (table true locale s) (table false locale s) := by
  have hbanner : Lacks escapeMark (Locale.say locale "summary.banner") :=
    unescaped_say locale (by decide) nofun
  have hrows : FadeLines (s.suites.map (row true locale)) (s.suites.map (row false locale)) :=
    .map fun r hr => fades_row locale (h r hr)
  have htotals : FadeLines ["", totals locale s] ["", totals locale s] := by
    apply FadeLines.of_lacks
    simp only [List.forall_mem_cons]
    exact ⟨.literal rfl rfl, unescaped_totals locale s, nofun⟩
  have hempty : Fades "" "" := .of_lacks (.literal rfl rfl)
  exact .cons hempty (.cons (.paint .bold hbanner) (hrows.append htotals))

theorem fadeLines_failures (locale : String) (h : ∀ r ∈ s.suites, r.Unescaped) :
    FadeLines (failures true locale s) (failures false locale s) := by
  by_cases hnone : s.failedSuites = []
  · rw [(failures_eq_nil_iff true locale s).mpr hnone,
      (failures_eq_nil_iff false locale s).mpr hnone]
    exact .nil
  rw [failures_eq_sections true locale hnone, failures_eq_sections false locale hnone]
  have hbanner : Lacks escapeMark (Locale.say locale "summary.failure_banner") :=
    unescaped_say locale (by decide) nofun
  have hempty : Fades "" "" := .of_lacks (.literal rfl rfl)
  have hhead : FadeLines (failureHead true locale) (failureHead false locale) :=
    .cons hempty (.cons (.paint _ hbanner) (.single (.of_lacks unescaped_ruler)))
  refine hhead.append (.flatMap fun p hp => ?_)
  -- a failing suite is one of the suites of the run
  have hfailed : p.1 ∈ s.failedSuites := List.fst_mem_of_mem_zipIdx hp
  exact fadeLines_failureSection locale _ _ (h p.1 (List.mem_of_mem_filter hfailed))

theorem fadeLines_spec (h : ∀ r ∈ s.suites, r.Unescaped) :
    FadeLines (spec true s) (spec false s) :=
  .cons (.of_lacks (.literal rfl rfl)) (.flatMap fun r hr => fadeLines_caseList (h r hr))

end

/-- Colours add escapes and nothing else.  The table, the report on failures and the list of cases
of a run whose texts hold no escapes are the same with colours and without once the escapes are
taken out, in every locale.  The report on failures is empty exactly if no suite failed; else it has
one section for each failing suite, in their order, the `k`-th of `n` under a line that begins with
`[k/n]`.  It depends on the failing suites only, so suites that pass can be put in anywhere. -/
theorem colours_onlyEscapes (s : Summary) (locale : String) :
    ((∀ r ∈ s.suites, r.Unescaped) →
      plain (printed (table true locale s)).toList = (printed (table false locale s)).toList ∧
      plain (printed (failures true locale s)).toList =
        (printed (failures false locale s)).toList ∧
      plain (printed (spec true s)).toList = (printed (spec false s)).toList) ∧
    ∀ colours,
      (failures colours locale s = [] ↔ s.failedSuites = []) ∧
      (s.failedSuites ≠ [] → failures colours locale s =
        failureHead colours locale ++ (s.failedSuites.zipIdx 1).flatMap fun p =>
          failureSection colours locale s.failedSuites.length p.2 p.1) ∧
      (∀ n k r, ∃ header, (failureSection colours locale n k r).head? =
        some ("[" ++ toString k ++ "/" ++ toString n ++ "] " ++ header)) ∧
      (∀ s' : Summary, s'.failedSuites = s.failedSuites →
        failures colours locale s' = failures colours locale s) ∧
      ∀ before passing following, (∀ r ∈ passing, r.isFailure = false) →
        failures colours locale { s with suites := before ++ passing ++ following } =
          failures colours locale { s with suites := before ++ following } := by
  refine ⟨fun h => ⟨?_, ?_, ?_⟩, fun colours => ⟨?_, ?_, ?_, ?_, ?_⟩⟩
  · exact (fadeLines_table locale h).plain_eq
  · exact (fadeLines_failures locale h).plain_eq
  · exact (fadeLines_spec h).plain_eq
  · exact failures_eq_nil_iff colours locale s
  · exact failures_eq_sections colours locale
  · intro n k r
    refine ⟨(Style.colour .red).paint colours (Locale.say locale "summary.failure_header") ++
      " '" ++ (Style.colour .cyan).paint colours r.suite.path ++ "'", ?_⟩
    simp [failureSection, String.append_assoc]
  · exact fun s' h => failures_congr colours locale h
  · exact fun before passing following h =>
      failures_congr colours locale (failedSuites_append_passing h s)

/-- A suite that fails with an output of two lines between two suites that pass. -/
theorem colours_onlyEscapes_between :
    let passing : SuiteResult := { suite := ⟨"d/a.js", "a.js"⟩, cases := [⟨"x [0m y", .passed⟩] }
    let failing : SuiteResult :=
      { suite := ⟨"d/b.js", "b.js"⟩, cases := [⟨"z", .failed⟩], failures := 1, exitCode := some 3
        output := "not ok 1 - z\nok 2\n\n" }
    let s : Summary := .of {} {} [passing, failing, passing]
    (∀ r ∈ s.suites, r.Unescaped) ∧
      plain (printed (table true "zh-CN" s)).toList = (printed (table false "zh-CN" s)).toList ∧
      plain (printed (failures true "zh-CN" s)).toList =
        (printed (failures false "zh-CN" s)).toList ∧
      plain (printed (spec true s)).toList = (printed (spec false s)).toList ∧
      failures true "zh-CN" s =
        failureHead true "zh-CN" ++ failureSection true "zh-CN" 1 1 failing ∧
      failures true "zh-CN" { s with suites := [failing] } = failures true "zh-CN" s := by
  intro passing failing s
  have hpassing : passing.Unescaped :=
    ⟨.literal rfl rfl, .literal rfl rfl, .literal rfl rfl,
      List.forall_mem_singleton.mpr (.literal rfl rfl)⟩
  have hfailing : failing.Unescaped :=
    ⟨.literal rfl rfl, .literal rfl rfl, .literal rfl rfl,
      List.forall_mem_singleton.mpr (.literal rfl rfl)⟩
  have hunescaped : ∀ r ∈ [passing, failing, passing], r.Unescaped := by
    simp only [List.forall_mem_cons]
    exact ⟨hpassing, hfailing, hpassing, nofun⟩
  have hfailed : s.failedSuites = [failing] := by decide
  obtain ⟨hfade, hfailures⟩ := colours_onlyEscapes s "zh-CN"
  obtain ⟨-, hsections, -, hsame, -⟩ := hfailures true
  obtain ⟨htable, hreport, hspec⟩ := hfade hunescaped
  refine ⟨hunescaped, htable, hreport, hspec, ?_, ?_⟩
  · rw [hsections (by rw [hfailed]; exact List.cons_ne_nil _ _), hfailed]
    simp
  · exact hsame _ (by rw [hfailed]; decide)

end Report

end TapSuite

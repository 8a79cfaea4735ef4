import TapSuite.Proofs.Html.Cut
import TapSuite.Proofs.Report.Plain

/-!
# The HTML report read back

Nothing that a suite is called, lists or prints gets out of its place on the page.  The tags of the
page nest and are the same for all runs of one shape, in all languages; the rows and items are those
of the suites and cases in order; and names and outputs are read back as they were.

    Nested (html locale s)
    shape s = shape s' → tags (html locale s) = tags (html locale' s')
    rows and items of (html locale s) = rowTags of the suites, in order
    fields of (html locale s)         = names, cases and outputs of the suites    (html_readBack)

The first row of the page is the one with the heads of the columns.
-/

namespace TapSuite.Report

open Html

/-! ## Well-formed parts of the page -/

theorem wellFormed_label (locale key : String) (h : key ∈ reportKeys) :
    WellFormed [label locale key] :=
  .verbatim (lacks_say locale h nofun)

theorem wellFormed_number (n : Nat) : WellFormed [number n] :=
  .verbatim (lacks_toString rfl n)

theorem wellFormed_head (locale : String) : WellFormed (head locale) := by
  have hmeta : WellFormed [.opening "meta" [{ name := "charset", value := "utf-8" }]] :=
    .alone (inside?_opening _ _) (by decide) (by decide)
  have htitle := wellFormed_label locale "html_report.title" (by simp [reportKeys])
  have hstyle := WellFormed.verbatim lacks_styleSheet
  have hparts := (hmeta.append (htitle.bare "title" (by decide))).append
    (hstyle.bare "style" (by decide))
  exact hparts.bare "head" (by decide)

theorem wellFormed_runMeta (locale : String) (s : Summary) : WellFormed (runMeta locale s) := by
  have hvalues : ∀ v ∈ [("time", s.startedAt.text), ("duration", s.duration.text)],
      Lacks '<' v.2 :=
    List.forall_mem_cons.mpr
      ⟨lacks_timestampText _, List.forall_mem_singleton.mpr (lacks_spanText rfl (by decide) _)⟩
  have hkey : "html_report.started_at" ∈ reportKeys := by simp [reportKeys]
  exact (WellFormed.verbatim (lacks_say locale hkey hvalues)).styled "p" "run-meta" (by decide)
    (Lacks.literal rfl rfl)

theorem wellFormed_statistic (locale : String) (count : Nat) (colour key : String)
    (hcolour : Lacks '>' colour) (hkey : key ∈ reportKeys) :
    WellFormed (statistic locale count colour key) := by
  have hclass : Lacks '>' ("count " ++ colour) := lacks_append.mpr ⟨.literal rfl rfl, hcolour⟩
  have hcount := (wellFormed_number count).styled "span" ("count " ++ colour) (by decide) hclass
  have hlabel := (wellFormed_label locale key hkey).styled "span" "label" (by decide)
    (Lacks.literal rfl rfl)
  exact (hcount.append hlabel).styled "div" "summary-item" (by decide) (Lacks.literal rfl rfl)

theorem wellFormed_statistics (locale : String) (s : Summary) :
    WellFormed (statistics locale s) := by
  have hsuites := wellFormed_statistic locale s.suites.length "" "html_report.summary.suites"
    (.literal rfl rfl) (by simp [reportKeys])
  have htests := wellFormed_statistic locale s.totalCases "" "html_report.summary.tests"
    (.literal rfl rfl) (by simp [reportKeys])
  have hpassed := wellFormed_statistic locale (s.count .passed) "passed-text"
    "html_report.summary.passed" (.literal rfl rfl) (by simp [reportKeys])
  have hfailed := wellFormed_statistic locale s.failures.toNat "failed-text"
    "html_report.summary.failed" (.literal rfl rfl) (by simp [reportKeys])
  have hskipped := wellFormed_statistic locale (s.count .skipped) "skipped-text"
    "html_report.summary.skipped" (.literal rfl rfl) (by simp [reportKeys])
  exact ((((hsuites.append htests).append hpassed).append hfailed).append hskipped).styled "div"
    "summary-container" (by decide) (Lacks.literal rfl rfl)

theorem wellFormed_columns (locale : String) : WellFormed (columns locale) := by
  have hlabel := wellFormed_label locale
  have hname : ElementName "th" := by decide
  have hsuite := (hlabel "html_report.table.header.suite" (by simp [reportKeys])).bare "th" hname
  have hstatus := (hlabel "html_report.table.header.status" (by simp [reportKeys])).styled "th"
    "status-col" hname (Lacks.literal rfl rfl)
  have hcases := (hlabel "html_report.table.header.cases" (by simp [reportKeys])).styled "th"
    "count-cell" hname (Lacks.literal rfl rfl)
  have hfailures := (hlabel "html_report.table.header.failures" (by simp [reportKeys])).styled "th"
    "count-cell" hname (Lacks.literal rfl rfl)
  have hduration := (hlabel "html_report.table.header.duration" (by simp [reportKeys])).styled "th"
    "duration-cell" hname (Lacks.literal rfl rfl)
  have hrow := (((hsuite.append hstatus).append hcases).append hfailures).append hduration
  exact (hrow.bare "tr" (by decide)).bare "thead" (by decide)

theorem lacks_detailsId (index : Nat) : Lacks '>' (detailsId index) :=
  lacks_append.mpr ⟨.literal rfl rfl, lacks_toString rfl index⟩

theorem lacks_statusLabel (locale : String) (status : SuiteStatus) :
    Lacks '<' (status.label locale) := by
  cases status
  · exact lacks_say locale (by simp [reportKeys]) nofun
  · exact lacks_say locale (by simp [reportKeys]) nofun
  · exact lacks_say locale (by simp [reportKeys]) nofun

theorem wellFormed_statusCell (locale : String) (index : Nat) (status : SuiteStatus) :
    WellFormed (statusCell locale index status) := by
  have hclass : Lacks '>' ("status-cell " ++ status.styleClass) := by
    rw [lacks_append]
    cases status <;> exact ⟨.literal rfl rfl, .literal rfl rfl⟩
  have hcall : Lacks '>' ("toggleOutput('" ++ detailsId index ++ "')") :=
    lacks_append.mpr ⟨lacks_append.mpr ⟨.literal rfl rfl, lacks_detailsId index⟩, .literal rfl rfl⟩
  have hverdict := (WellFormed.verbatim (lacks_statusLabel locale status)).styled "div"
    ("status-cell " ++ status.styleClass) (by decide) hclass
  have hattributes : ∀ a ∈ [styleClass "output-toggle",
      { name := "onclick", value := "toggleOutput('" ++ detailsId index ++ "')", quote := '"' }],
      a.Clean :=
    List.forall_mem_cons.mpr ⟨.of_value (Lacks.literal rfl rfl) (by decide) (by decide),
      List.forall_mem_singleton.mpr (.of_value hcall (by decide) (by decide))⟩
  have hswitch := (wellFormed_label locale "html_report.toggle_details"
    (by simp [reportKeys])).element "div" _ hattributes (by decide)
  exact (hverdict.append hswitch).styled "td" "status-col" (by decide) (Lacks.literal rfl rfl)

theorem wellFormed_suiteRow (locale : String) (index : Nat) (r : SuiteResult) :
    WellFormed (suiteRow locale index r) := by
  have hcell : ElementName "td" := by decide
  have hspan : Lacks '<' (r.duration.text ++ "s") :=
    lacks_append.mpr ⟨lacks_spanText rfl (by decide) r.duration, .literal rfl rfl⟩
  have hname := (WellFormed.text r.suite.name).bare "td" hcell
  have hstatus := wellFormed_statusCell locale index r.status
  have hcases := (wellFormed_number r.cases.length).styled "td" "count-cell" hcell
    (Lacks.literal rfl rfl)
  have hfailures := (wellFormed_number r.failures.toNat).styled "td" "count-cell" hcell
    (Lacks.literal rfl rfl)
  have hduration := (WellFormed.verbatim hspan).styled "td" "duration-cell" hcell
    (Lacks.literal rfl rfl)
  exact ((((hname.append hstatus).append hcases).append hfailures).append hduration).bare "tr"
    (by decide)

theorem wellFormed_caseItem (c : Case) : WellFormed (caseItem c) := by
  have hclass : Lacks '>' (caseClass c.outcome) := by
    cases c.outcome <;> exact .literal rfl rfl
  exact (WellFormed.text c.name).styled "li" (caseClass c.outcome) (by decide) hclass

theorem wellFormed_detailsRow (index : Nat) (r : SuiteResult) :
    WellFormed (detailsRow index r) := by
  have hcases := (WellFormed.flatMap wellFormed_caseItem r.cases).styled "ul" "case-list"
    (by decide) (Lacks.literal rfl rfl)
  have houtput := (WellFormed.text r.output).styled "pre" "output-content" (by decide)
    (Lacks.literal rfl rfl)
  have hcell := (hcases.append houtput).element "td" [{ name := "colspan", value := "5" }]
    (by decide) (by decide)
  refine hcell.element "tr"
    [{ name := "id", value := detailsId index }, { name := "style", value := "display:none;" }]
    ?_ (by decide)
  exact List.forall_mem_cons.mpr
    ⟨.of_value (lacks_detailsId index) (by decide) (by decide), by decide⟩

theorem wellFormed_suiteRows (locale : String) (index : Nat) (rs : List SuiteResult) :
    WellFormed (suiteRows locale index rs) := by
  induction rs generalizing index with
  | nil => exact .nil
  | cons r rs ih =>
    have hrows := (wellFormed_suiteRow locale index r).append (wellFormed_detailsRow index r)
    exact hrows.append (ih (index + 1))

/-- The page is well formed in every locale, whatever it reports. -/
theorem wellFormed_page (locale : String) (s : Summary) : WellFormed (page locale s) := by
  have hdoctype : WellFormed [.doctype] := .alone rfl (by decide) (by decide)
  have hheader := (wellFormed_label locale "html_report.main_header" (by simp [reportKeys])).bare
    "h1" (by decide)
  have hrows := (wellFormed_suiteRows locale 0 s.suites).bare "tbody" (by decide)
  have htable := ((wellFormed_columns locale).append hrows).bare "table" (by decide)
  have hscript := (WellFormed.verbatim lacks_script).bare "script" (by decide)
  have hbody := ((((hheader.append (wellFormed_runMeta locale s)).append
    (wellFormed_statistics locale s)).append htable).append hscript).bare "body" (by decide)
  exact hdoctype.append (((wellFormed_head locale).append hbody).bare "html" (by decide))

/-! ## Tags -/

/-- What the tags of the page depend on: each suite's verdict and the outcomes of its cases. -/
def shape (s : Summary) : List (SuiteStatus × List Outcome) :=
  s.suites.map fun r => (r.status, r.cases.map (·.outcome))

theorem tagsOf_caseItems (cases : List Case) :
    tagsOf (cases.flatMap caseItem) = (cases.map (·.outcome)).flatMap fun o =>
      [openingInside "li" [styleClass (caseClass o)], "/li".toList] := by
  rw [tagsOf_flatMap, List.flatMap_map]
  rfl

theorem tagsOf_suiteRow (locale locale' : String) (index : Nat) {r r' : SuiteResult}
    (h : r.status = r'.status) :
    tagsOf (suiteRow locale index r) = tagsOf (suiteRow locale' index r') := by
  simp only [suiteRow, statusCell, label, number, tagsOf_element, tagsOf_append, tagsOf_text,
    tagsOf_verbatim, h]

theorem tagsOf_detailsRow (index : Nat) {r r' : SuiteResult}
    (h : r.cases.map (·.outcome) = r'.cases.map (·.outcome)) :
    tagsOf (detailsRow index r) = tagsOf (detailsRow index r') := by
  simp only [detailsRow, tagsOf_element, tagsOf_append, tagsOf_text, tagsOf_caseItems, h]

theorem tagsOf_suiteRows (locale locale' : String) (index : Nat) {rs rs' : List SuiteResult}
    (h : rs.map (fun r => (r.status, r.cases.map (·.outcome))) =
      rs'.map fun r => (r.status, r.cases.map (·.outcome))) :
    tagsOf (suiteRows locale index rs) = tagsOf (suiteRows locale' index rs') := by
  induction rs generalizing index rs' with
  | nil =>
    rw [List.map_eq_nil_iff.mp h.symm]
    rfl
  | cons r rs ih =>
    cases rs' with
    | nil => cases h
    | cons r' rs' =>
      rw [List.map_cons, List.map_cons, List.cons.injEq, Prod.mk.injEq] at h
      obtain ⟨⟨hstatus, hcases⟩, hrest⟩ := h
      simp only [suiteRows, tagsOf_append, tagsOf_suiteRow locale locale' index hstatus,
        tagsOf_detailsRow index hcases, ih (index + 1) hrest]

/-- Pages of runs with one shape have the same tags, in all locales. -/
theorem tagsOf_page (locale locale' : String) {s s' : Summary} (h : shape s = shape s') :
    tagsOf (page locale s) = tagsOf (page locale' s') := by
  have hmeta (content : List Token) :
      tagsOf (.opening "meta" [{ name := "charset", value := "utf-8" }] :: content) =
        openingInside "meta" [{ name := "charset", value := "utf-8" }] :: tagsOf content :=
    tagsOf_cons_some (inside?_opening _ _)
  have hrows := tagsOf_suiteRows locale locale' 0 h
  simp only [page, tagsOf_cons_some (t := .doctype) rfl, head, hmeta, runMeta, statistics,
    statistic, columns, label, number, tagsOf_element, tagsOf_append, tagsOf_verbatim,
    List.cons_append, hrows]

/-! ## Rows and items -/

/-- Whether a tag starts a row or an item. -/
def isRow (inside : List Char) : Bool :=
  tagName inside = "tr".toList || tagName inside = "li".toList

/-- The tags that start a suite's rows and its items. -/
def rowTags (index : Nat) (r : SuiteResult) : List String :=
  "tr" :: ("tr id='details-" ++ toString index ++ "' style='display:none;'") ::
    r.cases.map fun c => "li class='case-" ++ c.outcome.word ++ "'"

theorem openingInside_caseItem (c : Case) :
    openingInside "li" [styleClass (caseClass c.outcome)] =
      ("li class='case-" ++ c.outcome.word ++ "'").toList := by
  have hclass : caseClass c.outcome = "case-" ++ c.outcome.word := by cases c.outcome <;> rfl
  simp only [hclass, openingInside, Attribute.render, styleClass, String.toList_append,
    List.flatMap_cons, List.flatMap_nil, List.append_nil, List.append_assoc, List.cons_append]
  rfl

theorem openingInside_detailsRow (index : Nat) :
    openingInside "tr"
      [{ name := "id", value := detailsId index }, { name := "style", value := "display:none;" }] =
        ("tr id='details-" ++ toString index ++ "' style='display:none;'").toList := by
  simp only [openingInside, Attribute.render, detailsId, String.toList_append, List.flatMap_cons,
    List.flatMap_nil, List.append_nil, List.append_assoc, List.cons_append]
  rfl

theorem filter_isRow_suiteRow (locale : String) (index : Nat) (r : SuiteResult) :
    (tagsOf (suiteRow locale index r)).filter isRow = ["tr".toList] := by
  rfl

theorem filter_isRow_caseItems (cases : List Case) :
    (tagsOf (cases.flatMap caseItem)).filter isRow =
      (cases.map fun c => "li class='case-" ++ c.outcome.word ++ "'").map String.toList := by
  induction cases with
  | nil => rfl
  | cons c cases ih =>
    rw [List.flatMap_cons, tagsOf_append, List.filter_append, ih, List.map_cons, List.map_cons,
      ← openingInside_caseItem]
    rfl

theorem filter_isRow_detailsRow (index : Nat) (r : SuiteResult) :
    (tagsOf (detailsRow index r)).filter isRow =
      ("tr id='details-" ++ toString index ++ "' style='display:none;'").toList ::
        (r.cases.map fun c => "li class='case-" ++ c.outcome.word ++ "'").map String.toList := by
  have houtput : (tagsOf (element "pre" [styleClass "output-content"] [.text r.output])).filter
      isRow = [] := rfl
  rw [← openingInside_detailsRow, ← filter_isRow_caseItems, detailsRow,
    filter_tagsOf_element isRow "tr" _ _ rfl, filter_tagsOf_element isRow "td" _ _ rfl,
    tagsOf_append, List.filter_append, filter_tagsOf_element isRow "ul" _ _ rfl, houtput,
    List.append_nil]
  rfl

/-- The rows of suites are found in their order, each followed by its details and its items. -/
theorem filter_isRow_suiteRows (locale : String) (index : Nat) (rs : List SuiteResult) :
    (tagsOf (suiteRows locale index rs)).filter isRow =
      ((rs.zipIdx index).flatMap fun (r, i) => rowTags i r).map String.toList := by
  induction rs generalizing index with
  | nil => rfl
  | cons r rs ih =>
    simp only [suiteRows, tagsOf_append, List.filter_append, filter_isRow_suiteRow,
      filter_isRow_detailsRow, ih, List.zipIdx_cons, List.flatMap_cons, List.map_append, rowTags,
      List.map_cons, List.cons_append, List.nil_append]

theorem filter_isRow_page (locale : String) (s : Summary) :
    (tagsOf (page locale s)).filter isRow =
      ("tr" :: s.suites.zipIdx.flatMap fun (r, i) => rowTags i r).map String.toList := by
  have hhead : (tagsOf (head locale)).filter isRow = [] := rfl
  have hrun : (tagsOf (runMeta locale s)).filter isRow = [] := rfl
  have hnumbers : (tagsOf (statistics locale s)).filter isRow = [] := rfl
  have hcolumns : (tagsOf (columns locale)).filter isRow = ["tr".toList] := rfl
  have hrows := filter_isRow_suiteRows locale 0 s.suites
  rw [page, tagsOf_cons_some (t := .doctype) rfl, List.filter_cons_of_neg (by decide),
    filter_tagsOf_element isRow "html" _ _ rfl, tagsOf_append, List.filter_append, hhead,
    filter_tagsOf_element isRow "body" _ _ rfl]
  simp only [tagsOf_append, List.filter_append, hrun, hnumbers,
    filter_tagsOf_element isRow "table" _ _ rfl, filter_tagsOf_element isRow "tbody" _ _ rfl,
    hcolumns, hrows]
  exact List.append_nil _

/-! ## Names and output -/

/-- Whether a tag starts the cell of a suite's name, an item or the block of a suite's output. -/
def isField (inside : List Char) : Bool :=
  inside = "td".toList || tagName inside = "li".toList || tagName inside = "pre".toList

/-- The elements with a suite's cases and its output. -/
def detailFields (r : SuiteResult) : List (String × String) :=
  r.cases.map (fun c => ("li class='case-" ++ c.outcome.word ++ "'", c.name)) ++
    [("pre class='output-content'", r.output)]

/-- The elements with a suite's name, its cases and its output. -/
def fields (r : SuiteResult) : List (String × String) := ("td", r.suite.name) :: detailFields r

/-- Elements as a reader finds them. -/
def asRead (ls : List (String × String)) : List (List Char × List Char) :=
  ls.map fun l => (l.1.toList, l.2.toList)

theorem yields_caseItem (c : Case) :
    Yields isField (caseItem c)
      (asRead [("li class='case-" ++ c.outcome.word ++ "'", c.name)]) := by
  have hleaf : Yields isField (caseItem c)
      [(openingInside "li" [styleClass (caseClass c.outcome)], c.name.toList)] :=
    .leaf "li" _ _ rfl rfl (by decide)
  rwa [openingInside_caseItem] at hleaf

theorem yields_suiteRow (locale : String) (index : Nat) (r : SuiteResult) :
    Yields isField (suiteRow locale index r) (asRead [("td", r.suite.name)]) := by
  have hname : Yields isField (element "td" [] [.text r.suite.name])
      [("td".toList, r.suite.name.toList)] := .leaf "td" [] _ rfl rfl (by decide)
  have hstatus : Yields isField (statusCell locale index r.status) [] := .quiet rfl
  have hcases : Yields isField
      (element "td" [styleClass "count-cell"] [number r.cases.length]) [] := .quiet rfl
  have hfailures : Yields isField
      (element "td" [styleClass "count-cell"] [number r.failures.toNat]) [] := .quiet rfl
  have hduration : Yields isField
      (element "td" [styleClass "duration-cell"] [.verbatim (r.duration.text ++ "s")]) [] :=
    .quiet rfl
  exact ((((hname.append hstatus).append hcases).append hfailures).append hduration).element
    "tr" [] rfl rfl

theorem yields_detailsRow (index : Nat) (r : SuiteResult) :
    Yields isField (detailsRow index r) (asRead (detailFields r)) := by
  have hcases := (Yields.flatMap yields_caseItem r.cases).element "ul"
    [styleClass "case-list"] rfl rfl
  have houtput : Yields isField (element "pre" [styleClass "output-content"] [.text r.output])
      [("pre class='output-content'".toList, r.output.toList)] :=
    .leaf "pre" _ _ rfl rfl (by decide)
  have hcell := (hcases.append houtput).element "td" [{ name := "colspan", value := "5" }] rfl rfl
  have hrow := hcell.element "tr"
    [{ name := "id", value := detailsId index }, { name := "style", value := "display:none;" }]
    rfl rfl
  rw [asRead, detailFields, List.map_append, List.map_map, List.map_eq_flatMap]
  exact hrow

/-- Rows of suites hold the fields of the suites, one after the other. -/
theorem yields_suiteRows (locale : String) (index : Nat) (rs : List SuiteResult) :
    Yields isField (suiteRows locale index rs) (asRead (rs.flatMap fields)) := by
  induction rs generalizing index with
  | nil => exact .nil
  | cons r rs ih =>
    have hrows := (yields_suiteRow locale index r).append (yields_detailsRow index r)
    rw [asRead, List.flatMap_cons, List.map_append]
    exact hrows.append (ih (index + 1))

theorem yields_page (locale : String) (s : Summary) :
    Yields isField (page locale s) (asRead (s.suites.flatMap fields)) := by
  have hdoctype : Yields isField [.doctype] [] := .quiet rfl
  have hhead : Yields isField (head locale) [] := .quiet rfl
  have hheader : Yields isField (element "h1" [] [label locale "html_report.main_header"]) [] :=
    .quiet rfl
  have hrun : Yields isField (runMeta locale s) [] := .quiet rfl
  have hnumbers : Yields isField (statistics locale s) [] := .quiet rfl
  have hcolumns : Yields isField (columns locale) [] := .quiet rfl
  have hrows := (yields_suiteRows locale 0 s.suites).element "tbody" [] rfl rfl
  have hscript : Yields isField (element "script" [] [.verbatim script]) [] := .quiet rfl
  have hbody := ((((hheader.append hrun).append hnumbers).append
    ((hcolumns.append hrows).element "table" [] rfl rfl)).append hscript).element "body" [] rfl rfl
  have hpage := hdoctype.append ((hhead.append hbody).element "html" [] rfl rfl)
  simp only [List.nil_append, List.append_nil] at hpage
  exact hpage

/-! ## The page read back -/

/-- The page of a run nests in every locale and has the same tags as that of any run of the same
shape; its rows and items stand for the suites and cases in order, and names and outputs are read
back from it as they were. -/
theorem html_readBack (locale : String) (s : Summary) :
    Nested (html locale s).toList ∧
      (∀ locale' s', shape s = shape s' →
        tags (html locale s).toList = tags (html locale' s').toList) ∧
      (tags (html locale s).toList).filter isRow =
        ("tr" :: s.suites.zipIdx.flatMap fun (r, i) => rowTags i r).map String.toList ∧
      (leaves (html locale s).toList).filter (fun l => isField l.1) =
        asRead (s.suites.flatMap fields) := by
  have hpage := wellFormed_page locale s
  have htags : tags (html locale s).toList = tagsOf (page locale s) := tags_render hpage
  have hleaves : leaves (html locale s).toList = leavesOf [] [] (page locale s) :=
    leaves_render hpage
  refine ⟨nested_render hpage, ?_, ?_, ?_⟩
  · intro locale' s' hshape
    exact (htags.trans (tagsOf_page locale locale' hshape)).trans
      (tags_render (wellFormed_page locale' s')).symm
  · rw [htags]
    exact filter_isRow_page locale s
  · rw [hleaves]
    exact (yields_page locale s).marked_leavesOf rfl

/-- A suite that is called and prints what ends its cell makes the tags of any other suite. -/
theorem html_readBack_markup :
    let plain : Summary := .of {} {} [{ suite := ⟨"a", "a"⟩, cases := [⟨"b", .failed⟩] }]
    let markup : Summary := .of {} {} [{
      suite := ⟨"a", "</td><td>"⟩, cases := [⟨"<li>", .failed⟩], output := "</pre>&lt;" }]
    shape plain = shape markup ∧
      tags (html "en" plain).toList = tags (html "zh-CN" markup).toList :=
  ⟨rfl, (html_readBack "en" _).2.1 "zh-CN" _ rfl⟩

end TapSuite.Report

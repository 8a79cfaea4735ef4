import Mathlib.Data.List.Basic
import TapSuite.Proofs.Console.Plain
import TapSuite.Proofs.Engine.Order
import TapSuite.Proofs.Locale.Message
import TapSuite.Run.Command

/-!
# Lines about a verdict

A run prints its table, its failures and its verdict under lines that nothing else prints: no line
about the setup or about a single suite reads the same, in whatever language and with whatever
names in it.
-/

namespace TapSuite.Run

/-! ## How a line opens -/

/-- The characters after a style's escape, if there is one in front. -/
def unstyled : List Char → List Char
  | '\x1b' :: l => (l.dropWhile (· ≠ 'm')).tail
  | l => l

/-- The first two characters of a line, whatever its style. -/
def opening (line : String) : List Char := (unstyled line.toList).take 2

theorem unstyled_start (style : Style) (l : List Char) : unstyled (style.start ++ l) = l := by
  rcases style with _ | c | c
  · rfl
  all_goals cases c <;> rfl

theorem unstyled_cons {x : Char} (hx : x ≠ '\x1b') (l : List Char) :
    unstyled (x :: l) = x :: l := by
  unfold unstyled
  split
  · next h => exact absurd (List.cons.inj h).1 hx
  · rfl

/-- A style changes no opening that is free of escapes. -/
theorem opening_paint (colours : Bool) (style : Style) {text : String} {x y : Char} {l : List Char}
    (h : text.toList = x :: y :: l) (hx : x ≠ '\x1b') (hy : y ≠ '\x1b') :
    opening (style.paint colours text) = [x, y] := by
  cases colours with
  | false =>
    rw [Style.paint, if_neg Bool.false_ne_true, opening, h, unstyled_cons hx]
    rfl
  | true =>
    rw [Style.paint, if_pos rfl, opening, String.toList_ofList, List.append_assoc, unstyled_start,
      h, renew_cons _ hx, renew_cons _ hy]
    rfl

end TapSuite.Run

namespace TapSuite

/-- The first two characters of a message that begins with a text. -/
def Message.opening : Message → List Char
  | .text s :: _ => s.toList.take 2
  | _ => []

namespace Run

/-- The keys of the lines before a verdict: about the setup, and about single suites. -/
def progressKeys : List String :=
  ["run.using_reporter", "run.discovering", "run.no_suites", "run.suites_found",
    "run.running_suite", "run.suite_failed", "run.suite_passed"]

/-- The keys of the lines that only a verdict has: above the table, above the failures, and the
verdict itself. -/
def verdictKeys : List String :=
  ["summary.banner", "summary.failure_banner", "run.all_passed", "run.failures_detected"]

/-- The openings of the messages under some keys, in all languages. -/
def openings (keys : List String) : List (List Char) :=
  (catalog.filter (·.key ∈ keys)).flatMap fun e => [e.english.opening, e.chinese.opening]

theorem openings_progressKeys :
    openings progressKeys =
      [['R', 'e'], ['报', '告'], ['D', 'i'], ['正', '在'], ['N', 'o'], ['未', '找'], ['F', 'o'],
        ['发', '现'], ['R', 'u'], ['正', '在'], ['S', 'u'], ['套', '件'], ['S', 'u'],
        ['套', '件']] := by
  simp [openings, catalog, progressKeys, Message.opening]

theorem openings_verdictKeys :
    openings verdictKeys =
      [['A', 'L'], ['所', '有'], ['F', 'A'], ['检', '测'], ['-', '-'], ['-', '-'], ['-', '-'],
        ['-', '-']] := by
  simp [openings, catalog, verdictKeys, Message.opening]

/-- Both openings are two characters, none of which begins an escape. -/
theorem plain_openings :
    ∀ l ∈ openings progressKeys ++ openings verdictKeys, l.length = 2 ∧ '\x1b' ∉ l := by
  rw [openings_progressKeys, openings_verdictKeys]
  decide

theorem not_mem_openings_verdictKeys {l : List Char} (h : l ∈ openings progressKeys) :
    l ∉ openings verdictKeys := by
  rw [openings_progressKeys] at h
  rw [openings_verdictKeys]
  revert h l
  decide

theorem toList_fill {m : Message} {x y : Char} (h : m.opening = [x, y])
    (values : List (String × String)) : ∃ l, (m.fill values).toList = x :: y :: l := by
  match m, h with
  | .text s :: m, h =>
    have hs : s.toList = [x, y] ++ s.toList.drop 2 := by
      rw [← h]
      exact (List.take_append_drop 2 _).symm
    refine ⟨s.toList.drop 2 ++ (String.join (m.map (MessagePart.fill values))).toList, ?_⟩
    rw [Message.fill, String.toList_join, List.map_cons, List.flatMap_cons, MessagePart.fill, hs,
      String.toList_join]
    rfl

/-- A message opens in one of the ways of its keys, in every locale and in every style. -/
theorem opening_say {key : String} {keys : List String} (h : key ∈ keys)
    (hcatalog : ∀ key ∈ keys, key ∈ catalog.map (·.key))
    (hplain : ∀ l ∈ openings keys, l.length = 2 ∧ '\x1b' ∉ l)
    (colours : Bool) (style : Style) (locale : String) (values : List (String × String)) :
    opening (style.paint colours (Locale.say locale key values)) ∈ openings keys := by
  obtain ⟨e, he, rfl, m, hm, hlanguage⟩ := exists_lookUp? (hcatalog key h) locale
  have hmem : m.opening ∈ openings keys := by
    refine List.mem_flatMap.mpr ⟨e, List.mem_filter.mpr ⟨he, decide_eq_true h⟩, ?_⟩
    rcases hlanguage with rfl | rfl
    · exact List.mem_cons_self
    · exact List.mem_cons_of_mem _ List.mem_cons_self
  obtain ⟨hlength, hescape⟩ := hplain _ hmem
  obtain ⟨x, y, hopening⟩ := List.length_eq_two.mp hlength
  obtain ⟨l, hl⟩ := toList_fill hopening values
  rw [hopening, List.mem_cons, List.mem_singleton, not_or] at hescape
  rw [Locale.say, hm, opening_paint colours style hl (Ne.symm hescape.1) (Ne.symm hescape.2),
    ← hopening]
  exact hmem

/-! ## Lines before a verdict, and lines of it -/

theorem mem_catalog_of_mem_progressKeys : ∀ key ∈ progressKeys, key ∈ catalog.map (·.key) := by
  simp [progressKeys, catalog]

theorem mem_catalog_of_mem_verdictKeys : ∀ key ∈ verdictKeys, key ∈ catalog.map (·.key) := by
  simp [verdictKeys, catalog]

/-- A line of a verdict: a message above the table or above the failures, or the verdict itself, in
some language and style. -/
def IsVerdictLine (colours : Bool) (line : String) : Prop :=
  ∃ key ∈ verdictKeys, ∃ style locale values,
    line = Style.paint colours style (Locale.say locale key values)

/-- A line that opens like one before the verdict is none of the verdict. -/
theorem not_isVerdictLine {colours : Bool} {line : String}
    (h : opening line ∈ openings progressKeys) : ¬ IsVerdictLine colours line := by
  rintro ⟨key, hkey, style, locale, values, rfl⟩
  refine not_mem_openings_verdictKeys h ?_
  exact opening_say hkey mem_catalog_of_mem_verdictKeys
    (fun l hl => plain_openings l (List.mem_append_right _ hl)) colours style locale values

theorem opening_progress {key : String} (h : key ∈ progressKeys) (colours : Bool) (style : Style)
    (locale : String) (values : List (String × String)) :
    opening (style.paint colours (Locale.say locale key values)) ∈ openings progressKeys :=
  opening_say h mem_catalog_of_mem_progressKeys
    (fun l hl => plain_openings l (List.mem_append_left _ hl)) colours style locale values

theorem opening_reporterLine (d : Display) (kind : ReporterKind) :
    opening (reporterLine d kind) ∈ openings progressKeys :=
  opening_progress (by decide) false .bold _ _

theorem opening_discoveringLine (d : Display) (dir : String) :
    opening (discoveringLine d dir) ∈ openings progressKeys :=
  opening_progress (by decide) d.colours _ _ _

theorem opening_foundLine (d : Display) (suffix : String) (suites : List SuiteFile) :
    opening (foundLine d suffix suites) ∈ openings progressKeys := by
  unfold foundLine
  split
  · exact opening_progress (by decide) d.colours _ _ _
  · exact opening_progress (by decide) d.colours _ _ _

theorem opening_resultLine (s : Engine.Setting) (r : SuiteResult) :
    opening (Engine.resultLine s r) ∈ openings progressKeys := by
  unfold Engine.resultLine
  split
  · exact opening_progress (by decide) s.colours _ _ _
  · exact opening_progress (by decide) s.colours _ _ _

theorem opening_suiteLines (s : Engine.Setting) (command : Command.Line) (suite : SuiteFile) :
    ∀ line ∈ Engine.suiteLines s command suite, opening line ∈ openings progressKeys := by
  refine List.forall_mem_cons.mpr ⟨opening_progress (by decide) s.colours _ _ _, ?_⟩
  cases Engine.runSuite s.launch command suite with
  | ok r => exact List.forall_mem_singleton.mpr (opening_resultLine s r)
  | error e => exact List.forall_mem_nil _

/-- A run that comes to its conclusion prints lines of a verdict. -/
theorem exists_isVerdictLine (d : Display) (reporter : Reporter) (failureCode : UInt8)
    (w : Workspace) (summary : Summary) :
    ∃ line ∈ (conclude d reporter failureCode w summary).out, IsVerdictLine d.colours line := by
  refine ⟨_, ?_, "summary.banner", by decide, .bold, d.locale, [], rfl⟩
  refine List.mem_append_left _ (List.mem_append_left _ ?_)
  exact List.mem_cons_of_mem _ List.mem_cons_self

end Run

end TapSuite

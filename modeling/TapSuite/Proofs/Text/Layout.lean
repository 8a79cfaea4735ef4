import TapSuite.Proofs.Text.LineEnd
import TapSuite.Proofs.Text.Segments
import TapSuite.Proofs.Text.Trim

/-!
# Written lines

What is left of a text when its layout is taken away: the blank lines, the blanks at the end of
every line, and the way in which lines end.

    writtenLines (a ++ '\n' :: b)     = writtenLines a ++ writtenLines b
    writtenLines (s ++ b ++ '\n' :: t) = writtenLines (s ++ '\n' :: t)           for blank b

The blanks of `b` may be line feeds.  So blank lines, carriage returns and what else is blank can
be put in front of any line feed.
-/

namespace TapSuite.Text

/-! ## Lines and pieces -/

/-- A text without line feeds is one line, if it is not empty. -/
theorem lines_of_not_mem {s : List Char} (h : '\n' ∉ s) (hne : s ≠ []) : lines s = [s] := by
  induction s with
  | nil => exact absurd rfl hne
  | cons c s ih =>
    have hc : c ≠ '\n' := fun e => h (e ▸ List.mem_cons_self)
    have hs : '\n' ∉ s := fun hm => h (List.mem_cons_of_mem _ hm)
    have hhead : ¬ (c = '\r' ∧ s.head? = some '\n') := fun ⟨_, hfeed⟩ =>
      hs (List.mem_of_head? hfeed)
    rw [lines, if_neg hc, if_neg hhead]
    cases s with
    | nil => rfl
    | cons d s => rw [ih hs (List.cons_ne_nil _ _)]

theorem trimEnd_dropReturn (raw : List Char) : trimEnd (dropReturn raw) = trimEnd raw := by
  obtain ⟨b, hb, hraw⟩ := exists_dropReturn_append raw
  conv => rhs; rw [hraw]
  rw [trimEnd_append hb]

/-- Whether a carriage return belongs to a line or to its end does not matter behind the line's
last character that is no blank. -/
theorem map_trimEnd_lines (t : List Char) :
    (lines t).map trimEnd = (segments '\n' t).map trimEnd := by
  induction t using segments_induction '\n' with
  | last s hs =>
    by_cases hne : s = []
    · rw [hne]
      rfl
    · rw [lines_of_not_mem hs hne, segments_of_not_mem hs hne]
  | more s t hs ih =>
    rw [lines_raw_append hs, segments_append_sep hs, List.map_cons, List.map_cons, ih,
      trimEnd_dropReturn]

/-! ## Written lines -/

/-- The lines of a text that are not blank, each without the blanks at its end. -/
def writtenLines (t : List Char) : List (List Char) :=
  ((segments '\n' t).map trimEnd).filter (· ≠ [])

theorem writtenLines_eq_filterMap (t : List Char) :
    writtenLines t = (segments '\n' t).filterMap (Option.guard (· ≠ []) ∘ trimEnd) := by
  rw [writtenLines, ← List.filterMap_eq_filter, List.filterMap_map]

theorem writtenLines_of_not_mem {s : List Char} (h : '\n' ∉ s) :
    writtenLines s = (Option.guard (· ≠ []) (trimEnd s)).toList := by
  rw [writtenLines_eq_filterMap, filterMap_segments_of_not_mem rfl h]
  rfl

/-- The written lines on both sides of a line feed. -/
theorem writtenLines_append_feed (a b : List Char) :
    writtenLines (a ++ '\n' :: b) = writtenLines a ++ writtenLines b := by
  simp only [writtenLines_eq_filterMap]
  exact filterMap_segments_append rfl a b

/-- Blanks at the end of a line write nothing. -/
theorem writtenLines_append_line {b : List Char} (hb : ∀ c ∈ b, isBlank c = true)
    (hfeed : '\n' ∉ b) (s : List Char) : writtenLines (s ++ b) = writtenLines s := by
  induction s using segments_induction '\n' with
  | last s hs =>
    have hsb : '\n' ∉ s ++ b := by simp [hs, hfeed]
    rw [writtenLines_of_not_mem hsb, writtenLines_of_not_mem hs, trimEnd_append hb]
  | more s t hs ih =>
    rw [List.append_assoc, List.cons_append, writtenLines_append_feed, ih, writtenLines_append_feed]

/-- Blanks at the end of a text write nothing, line feeds among them or not. -/
theorem writtenLines_append_blank {b : List Char} (hb : ∀ c ∈ b, isBlank c = true)
    (s : List Char) : writtenLines (s ++ b) = writtenLines s := by
  induction b using segments_induction '\n' generalizing s with
  | last b hfeed => exact writtenLines_append_line hb hfeed s
  | more b rest hfeed ih =>
    have hline : ∀ c ∈ b, isBlank c = true := fun c hc => hb c (List.mem_append_left _ hc)
    have hrest : ∀ c ∈ rest, isBlank c = true := fun c hc =>
      hb c (List.mem_append_right _ (List.mem_cons_of_mem _ hc))
    have hnone : writtenLines rest = [] := ih hrest []
    rw [← List.append_assoc, writtenLines_append_feed, writtenLines_append_line hline hfeed, hnone,
      List.append_nil]

/-- Blanks in front of a line feed write nothing. -/
theorem writtenLines_blank_feed {b : List Char} (hb : ∀ c ∈ b, isBlank c = true)
    (s t : List Char) : writtenLines (s ++ b ++ '\n' :: t) = writtenLines (s ++ '\n' :: t) := by
  rw [writtenLines_append_feed, writtenLines_append_blank hb, writtenLines_append_feed]

end TapSuite.Text

import TapSuite.Proofs.Tap.Line
import TapSuite.Proofs.Text.Layout

/-!
# Layout does not matter

The report of a stream comes from its written lines alone.  How lines end, blanks behind a line,
and blank lines, in a block or between a point and its block too, leave it as it is.

    parse t = Report.ofItems (scan {} ((writtenLines t.toList).map Line.of))
    writtenLines a.toList = writtenLines b.toList → parse a = parse b     (parse_eq_of_writtenLines)

A blank line has a depth of its own, which is why the reader has to pass over it before it looks at
depths.
-/

namespace TapSuite.Tap

open Text

/-! ## Written lines of a stream -/

theorem text_eq_nil_iff (raw : List Char) : (Line.of raw).text = [] ↔ trimEnd raw = [] := by
  rw [Line.of_text, trim_eq_nil_iff, trimEnd_eq_nil_iff]

/-- A line that is not blank is read as if it had no blanks at its end. -/
theorem of_trimEnd {raw : List Char} (h : trimEnd raw ≠ []) :
    Line.of (trimEnd raw) = Line.of raw := by
  obtain ⟨b, hb, hraw⟩ := exists_trimEnd_append raw
  have hidem : trimEnd (trimEnd raw) = trimEnd raw := trimEnd_of_last (last_trimEnd raw)
  have hne : (Line.of (trimEnd raw)).text ≠ [] := by
    rw [ne_eq, text_eq_nil_iff, hidem]
    exact h
  conv => rhs; rw [hraw]
  rw [Line.of_append hb hne]

/-- The lines that are not blank are the written ones. -/
theorem nonblank_map_of (raws : List (List Char)) :
    nonblank (raws.map Line.of) = ((raws.map trimEnd).filter (· ≠ [])).map Line.of := by
  induction raws with
  | nil => rfl
  | cons raw raws ih =>
    unfold nonblank at ih ⊢
    by_cases h : trimEnd raw = []
    · have htext : (Line.of raw).text = [] := (text_eq_nil_iff raw).mpr h
      rw [List.map_cons, List.map_cons, List.filter_cons_of_neg (by simp [htext]),
        List.filter_cons_of_neg (by simp [h]), ih]
    · have htext : (Line.of raw).text ≠ [] := fun ht => h ((text_eq_nil_iff raw).mp ht)
      rw [List.map_cons, List.map_cons, List.filter_cons_of_pos (by simp [htext]),
        List.filter_cons_of_pos (by simp [h]), ih, List.map_cons, of_trimEnd h]

theorem nonblank_linesOf (t : List Char) :
    nonblank (linesOf t) = (writtenLines t).map Line.of := by
  rw [linesOf, nonblank_map_of, map_trimEnd_lines, writtenLines]

/-! ## Reports -/

/-- The report of a stream is what its written lines say. -/
theorem parse_eq_ofItems_writtenLines (t : String) :
    parse t = Report.ofItems (scan {} ((writtenLines t.toList).map Line.of)) := by
  rw [parse, ← scan_nonblank, nonblank_linesOf]

/-- Streams with the same written lines have the same report.  So blanks that are put in front of a
line feed or behind the last line leave the report as it is, line feeds among them or not. -/
theorem parse_eq_of_writtenLines :
    (∀ a b : String, writtenLines a.toList = writtenLines b.toList → parse a = parse b) ∧
    ∀ s blanks t : String, (∀ c ∈ blanks.toList, isBlank c = true) →
      parse (s ++ blanks ++ "\n" ++ t) = parse (s ++ "\n" ++ t) ∧
      parse (s ++ blanks) = parse s := by
  have hsame : ∀ a b : String,
      writtenLines a.toList = writtenLines b.toList → parse a = parse b := by
    intro a b h
    rw [parse_eq_ofItems_writtenLines, h, ← parse_eq_ofItems_writtenLines]
  refine ⟨hsame, fun s blanks t hblank => ⟨hsame _ _ ?_, hsame _ _ ?_⟩⟩
  · have hfeed : "\n".toList = ['\n'] := rfl
    rw [String.toList_append, String.toList_append, String.toList_append, String.toList_append,
      String.toList_append, hfeed, List.append_assoc _ ['\n'], List.append_assoc _ ['\n']]
    exact writtenLines_blank_feed hblank s.toList t.toList
  · rw [String.toList_append, writtenLines_append_blank hblank]

theorem parse_eq_of_writtenLines_scattered :
    let a := "ok 1 - a\n  ---\n  not ok 9\n  ...\nnot ok 2\n    ok 3\n1..2"
    let b := "\r\nok 1 - a\t\r\n\r\n   \n  ---  \r\n\n \n  not ok 9\n\t\n  ...\r\nnot ok 2\r\r\n" ++
      "    ok 3 \n\u3000\n1..2\r\n\n"
    let blanks := "\t\r\n   \n\u2028"
    writtenLines a.toList = writtenLines b.toList ∧ parse a = parse b ∧
      (∀ c ∈ blanks.toList, isBlank c = true) ∧
      parse ("ok 1\n  ---" ++ blanks ++ "\n" ++ "  ok 9\n") =
        parse ("ok 1\n  ---" ++ "\n" ++ "  ok 9\n") ∧
      parse a = ⟨[⟨true, some 1, "a", none, 0⟩, ⟨false, some 2, "", none, 0⟩,
        ⟨true, some 3, "", none, 4⟩], some 2, false⟩ := by
  have hwritten : writtenLines
      "ok 1 - a\n  ---\n  not ok 9\n  ...\nnot ok 2\n    ok 3\n1..2".toList =
    writtenLines ("\r\nok 1 - a\t\r\n\r\n   \n  ---  \r\n\n \n  not ok 9\n\t\n  ...\r\n" ++
      "not ok 2\r\r\n    ok 3 \n\u3000\n1..2\r\n\n").toList := by decide
  have hblank : ∀ c ∈ "\t\r\n   \n\u2028".toList, isBlank c = true :=
    List.all_eq_true.mp (by decide)
  exact ⟨hwritten, parse_eq_of_writtenLines.1 _ _ hwritten, hblank,
    (parse_eq_of_writtenLines.2 _ _ _ hblank).1, by decide⟩

end TapSuite.Tap

import TapSuite.Proofs.Tap.Step
import TapSuite.Proofs.Text.LineEnd
import TapSuite.Proofs.Text.Trim

/-!
# Raw lines and lines

A written line is read as its indentation and its trimmed text.  Blanks at its end, the carriage
return of its line end among them, matter only for the depth of a blank line, and blank lines do
not matter.

    nonblank (linesOf (unlines raws ++ t)) = nonblank (raws.map Line.of) ++ nonblank (linesOf t)
-/

namespace TapSuite.Tap

open Text

/-! ## One line -/

theorem Line.of_text (raw : List Char) : (Line.of raw).text = trim raw := rfl

/-- An indented text is read back, the blanks at its end cut off. -/
theorem Line.of_indented {a t : List Char} (ha : ∀ c ∈ a, isBlank c = true)
    (ht : ∀ c ∈ t.head?, isBlank c = false) : Line.of (a ++ t) = ⟨width a, trimEnd t⟩ := by
  rw [Line.of, indent_append ha ht, trimStart_append ha, trimStart_of_first ht]

/-- Blanks at the end of a line do not count, unless the line is blank. -/
theorem Line.of_append {raw b : List Char} (hb : ∀ c ∈ b, isBlank c = true)
    (h : (Line.of raw).text ≠ []) : Line.of (raw ++ b) = Line.of raw := by
  rw [Line.of_text, ne_eq, trim_eq_nil_iff] at h
  obtain ⟨c, hc⟩ := Classical.not_forall.mp h
  obtain ⟨hmem, hblank⟩ := Classical.not_imp.mp hc
  have hindent : indent (raw ++ b) = indent raw :=
    indent_append_of_mem hmem (Bool.eq_false_iff.mpr hblank) b
  have htext : trim (raw ++ b) = trim raw := trim_append hb raw
  rw [trim, trim] at htext
  rw [Line.of, Line.of, hindent, htext]

/-- A line is the same without its carriage return, unless it is blank. -/
theorem nonblank_dropReturn (raw : List Char) :
    nonblank [Line.of (dropReturn raw)] = nonblank [Line.of raw] := by
  obtain ⟨b, hb, hraw⟩ := exists_dropReturn_append raw
  by_cases h : (Line.of (dropReturn raw)).text = []
  · have h' : (Line.of raw).text = [] := by
      rw [hraw, Line.of_text, trim_append hb]
      exact h
    simp [nonblank, h, h']
  · rw [← Line.of_append hb h, ← hraw]

/-! ## Streams -/

theorem linesOf_append {a : List Char} (h : EndsLine a) (b : List Char) :
    linesOf (a ++ b) = linesOf a ++ linesOf b := by
  rw [linesOf, lines_append h, List.map_append]
  rfl

/-- Written lines at the start of a stream are read back as they are, blank lines aside. -/
theorem nonblank_linesOf_unlines_append {raws : List (List Char)} (h : ∀ raw ∈ raws, '\n' ∉ raw)
    (t : List Char) :
    nonblank (linesOf (unlines raws ++ t)) =
      nonblank (raws.map Line.of) ++ nonblank (linesOf t) := by
  rw [linesOf, lines_unlines_append h, List.map_append, nonblank_append]
  congr 1
  clear h
  induction raws with
  | nil => rfl
  | cons raw raws ih =>
    have hsplit : ∀ (line : Line) (ls : List Line),
        nonblank (line :: ls) = nonblank [line] ++ nonblank ls :=
      fun line ls => nonblank_append [line] ls
    rw [List.map_cons, List.map_cons, List.map_cons, hsplit, hsplit (Line.of raw), ih,
      nonblank_dropReturn]

theorem nonblank_linesOf_unlines {raws : List (List Char)} (h : ∀ raw ∈ raws, '\n' ∉ raw) :
    nonblank (linesOf (unlines raws)) = nonblank (raws.map Line.of) := by
  have hread := nonblank_linesOf_unlines_append h []
  rwa [List.append_nil, show nonblank (linesOf []) = [] from rfl, List.append_nil] at hread

/-- The text of a line of a stream has no blanks at its ends and no line feed. -/
theorem text_of_mem_linesOf {t : List Char} {line : Line} (h : line ∈ linesOf t) :
    Trimmed line.text ∧ '\n' ∉ line.text := by
  obtain ⟨raw, hraw, rfl⟩ := List.mem_map.mp h
  refine ⟨trimmed_trim raw, ?_⟩
  intro hm
  exact not_mem_of_mem_lines t raw hraw (mem_of_mem_trim hm)

end TapSuite.Tap

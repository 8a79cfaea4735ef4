import TapSuite.Proofs.Tap.Line
import TapSuite.Proofs.Tap.PointText
import TapSuite.Tap.Block

/-!
# Hidden blocks

A YAML block after a test point leaves no trace in the report.

    before ends with a point p, b opens after p, after does not start with a block of its own →
      b closes                                → before ++ b ++ after is read like before ++ after
      after starts less indented than b       → the same without the closing line of b
                                                                                   (parse_block)

The two runs differ in the state in which they reach `after`: the point is remembered in one only.
They agree from the first line of `after` that is not blank (`scan_eq_of_first`).
-/

namespace TapSuite.Tap

open Text

/-! ## Inside the block -/

theorem step_of_hiddenAt {depth : Nat} {line : Line} (h : HiddenAt depth line) :
    step ⟨some depth, none⟩ line = (⟨some depth, none⟩, none) := by
  obtain ⟨hin, hend⟩ := h
  have hend' : ¬ (line.text = ['.', '.', '.'] ∧ line.depth = depth) := by
    rintro ⟨ht, hd⟩
    apply hend
    rw [← ht, ← hd]
  rw [← staysInside_iff] at hin
  simp only [step, if_neg hend', if_pos hin]

theorem run_body {depth : Nat} {ls : List Line} (h : ∀ line ∈ ls, HiddenAt depth line) :
    scan ⟨some depth, none⟩ ls = [] ∧ modeAfter ⟨some depth, none⟩ ls = ⟨some depth, none⟩ := by
  induction ls with
  | nil => exact ⟨rfl, rfl⟩
  | cons line ls ih =>
    have hls : ∀ l ∈ ls, HiddenAt depth l := fun l hl => h l (List.mem_cons_of_mem _ hl)
    rw [scan_cons, modeAfter_cons, step_of_hiddenAt (h line List.mem_cons_self)]
    exact ih hls

/-- A block without its end gives nothing and stays open. -/
theorem run_openLines {b : Block} {depth : Nat} (h : b.Opens depth) :
    scan ⟨none, some depth⟩ (b.openLines.map Line.of) = [] ∧
      modeAfter ⟨none, some depth⟩ (b.openLines.map Line.of) = ⟨some b.depth, none⟩ := by
  have hdepth : (Line.of b.opening).depth = b.depth := rfl
  have hopen : step ⟨none, some depth⟩ (.of b.opening) = (⟨some b.depth, none⟩, none) := by
    rw [step_of_not_hides (not_hides_of_block rfl _), readOutside_marker, hdepth]
    exact ⟨h.marker, depth, rfl, h.deeper⟩
  have hbody : ∀ line ∈ b.body.map Line.of, HiddenAt b.depth line := by
    intro line hline
    obtain ⟨raw, hraw, rfl⟩ := List.mem_map.mp hline
    exact h.hidden raw hraw
  rw [Block.openLines, List.map_cons, scan_cons, modeAfter_cons, hopen]
  exact run_body hbody

/-- A block gives nothing, and after it the point before it is forgotten. -/
theorem run_lines {b : Block} {depth : Nat} (h : b.Opens depth) (hc : b.Closes) :
    scan ⟨none, some depth⟩ (b.lines.map Line.of) = [] ∧
      modeAfter ⟨none, some depth⟩ (b.lines.map Line.of) = {} := by
  obtain ⟨hscan, hmode⟩ := run_openLines h
  have hclose : step ⟨some b.depth, none⟩ (.of b.closing) = ({}, none) := by
    rw [hc.marker]
    simp [step]
  rw [Block.lines, List.map_append, scan_append, modeAfter_append, hscan, hmode]
  simp [scan_cons, hclose, modeAfter]

theorem not_mem_blockLines {b : Block} {depth : Nat} (h : b.Opens depth) (hc : b.Closes) :
    ∀ raw ∈ b.lines, '\n' ∉ raw := by
  intro raw hraw
  rcases List.mem_append.mp hraw with hraw | hraw
  · exact h.one_line raw hraw
  · rw [List.mem_singleton.mp hraw]
    exact hc.one_line

/-! ## Around the block -/

/-- Two states that agree on the first line that is not blank agree on the stream. -/
theorem scan_eq_of_first {m m' : Mode} {ls : List Line}
    (h : ∀ line ∈ (nonblank ls).head?, step m line = step m' line) : scan m ls = scan m' ls := by
  rw [← scan_nonblank, ← scan_nonblank m']
  cases hls : nonblank ls with
  | nil => rfl
  | cons line rest =>
    rw [hls] at h
    rw [scan_cons, scan_cons, h line rfl]

/-- The point before a line matters only to a line that opens a block. -/
theorem readOutside_forget {depth : Nat} {line : Line} (hne : line.text ≠ [])
    (h : ¬ (line.text = ['-', '-', '-'] ∧ depth < line.depth)) :
    readOutside none line = readOutside (some depth) line := by
  have hsome : ¬ line.OpensAfter (some depth) := by
    rintro ⟨ht, d, hd, hlt⟩
    cases hd
    exact h ⟨ht, hlt⟩
  cases hr : TestPoint.read? line.text line.depth with
  | some p => rw [readOutside_point hr, readOutside_point hr]
  | none =>
    rw [readOutside_remark hne (not_opensAfter_none line) hr, readOutside_remark hne hsome hr]

theorem text_ne_of_firstLine? {text : String} {line : Line} (h : line ∈ firstLine? text) :
    line.text ≠ [] := by
  have hmem : line ∈ nonblank (linesOf text.toList) := List.mem_of_head? h
  simpa [nonblank] using (List.mem_filter.mp hmem).2

/-- A stream that ends with a point leaves the reader right after that point. -/
theorem modeAfter_of_endsWithPoint {text : String} {p : TestPoint} (h : EndsWithPoint text p) :
    modeAfter {} (linesOf text.toList) = ⟨none, some p.depth⟩ := by
  obtain ⟨before, line, blanks, hlines, hblanks, hstep⟩ := h
  obtain ⟨hread, hmode⟩ := step_point hstep
  have hskip : nonblank blanks = [] := by
    rw [nonblank, List.filter_eq_nil_iff]
    intro l hl
    simp [hblanks l hl]
  rw [hlines, modeAfter_append, modeAfter_cons, hmode, ← modeAfter_nonblank, hskip,
    depth_of_read? hread]
  rfl

/-- Lines after a point that give nothing can be left out, if the state after them is as good for
what follows as the state after the point. -/
theorem parse_skip {before after : String} {p : TestPoint} {raws : List (List Char)} {m : Mode}
    (hend : EndsLine before.toList) (hp : EndsWithPoint before p) (hfeed : ∀ raw ∈ raws, '\n' ∉ raw)
    (hrun : scan ⟨none, some p.depth⟩ (raws.map Line.of) = [] ∧
      modeAfter ⟨none, some p.depth⟩ (raws.map Line.of) = m)
    (hafter : ∀ line ∈ firstLine? after, step m line = step ⟨none, some p.depth⟩ line) :
    parse (before ++ String.ofList (unlines raws) ++ after) = parse (before ++ after) := by
  have hskip : scan ⟨none, some p.depth⟩ (linesOf (unlines raws ++ after.toList)) =
      scan ⟨none, some p.depth⟩ (linesOf after.toList) := by
    rw [← scan_nonblank, nonblank_linesOf_unlines_append hfeed, ← nonblank_append, scan_nonblank,
      scan_append, hrun.1, hrun.2]
    exact scan_eq_of_first hafter
  unfold parse
  rw [String.append_assoc, String.toList_append, String.toList_append, String.toList_append,
    String.toList_ofList, linesOf_append hend, linesOf_append hend, scan_append, scan_append,
    modeAfter_of_endsWithPoint hp, hskip]

/-! ## The block leaves no trace -/

/-- A block after a point is not seen, nor is one that is ended by a less indented line. -/
theorem parse_block {before after : String} {p : TestPoint} {b : Block}
    (hend : EndsLine before.toList) (hp : EndsWithPoint before p) (hb : b.Opens p.depth)
    (hafter : ∀ line ∈ firstLine? after,
      ¬ (line.text = ['-', '-', '-'] ∧ p.depth < line.depth)) :
    (b.Closes →
      parse (before ++ String.ofList (unlines b.lines) ++ after) = parse (before ++ after)) ∧
    ((∀ line ∈ firstLine? after, line.depth < b.depth) →
      parse (before ++ String.ofList (unlines b.openLines) ++ after) = parse (before ++ after)) := by
  have hforget : ∀ line ∈ firstLine? after,
      readOutside none line = readOutside (some p.depth) line := fun line hline =>
    readOutside_forget (text_ne_of_firstLine? hline) (hafter line hline)
  constructor
  · intro hc
    refine parse_skip hend hp (not_mem_blockLines hb hc) (run_lines hb hc) ?_
    intro line hline
    rw [step_of_not_hides (not_hides_of_block rfl line),
      step_of_not_hides (not_hides_of_block rfl line)]
    exact hforget line hline
  · intro hdedent
    refine parse_skip hend hp hb.one_line (run_openLines hb) ?_
    intro line hline
    have hout : ¬ (⟨some b.depth, none⟩ : Mode).Hides line := by
      rintro ⟨depth, hdepth, hin⟩
      cases hdepth
      rcases hin with hin | hin
      · exact text_ne_of_firstLine? hline hin
      · have := hdedent line hline
        omega
    rw [step_of_not_hides hout, step_of_not_hides (not_hides_of_block rfl line)]
    exact hforget line hline

theorem parse_block_lookalikes :
    let before := "ok 1 - a\n\n"
    let after := "\n1..2\n"
    let p : TestPoint := ⟨true, some 1, "a", none, 0⟩
    let b : Block :=
      { opening := "  ---".toList
        body := ["  not ok 2".toList, [], "   ---".toList, "  Bail out!".toList, "   ...".toList]
        closing := "  ...".toList }
    EndsLine before.toList ∧ EndsWithPoint before p ∧ b.Opens p.depth ∧ b.Closes ∧
      (∀ line ∈ firstLine? after, ¬ (line.text = ['-', '-', '-'] ∧ p.depth < line.depth)) ∧
      (∀ line ∈ firstLine? after, line.depth < b.depth) ∧
      parse (before ++ String.ofList (unlines b.lines) ++ after) = parse (before ++ after) ∧
      parse (before ++ String.ofList (unlines b.openLines) ++ after) = parse (before ++ after) := by
  have hp : EndsWithPoint "ok 1 - a\n\n" ⟨true, some 1, "a", none, 0⟩ :=
    ⟨[], .of "ok 1 - a".toList, [.of []], by decide, by decide, by decide⟩
  have hb : Block.Opens
      ⟨"  ---".toList,
        ["  not ok 2".toList, [], "   ---".toList, "  Bail out!".toList, "   ...".toList],
        "  ...".toList⟩ 0 := by decide
  have hafter : ∀ line ∈ firstLine? "\n1..2\n",
      ¬ (line.text = ['-', '-', '-'] ∧ 0 < line.depth) := by decide
  have hblock := parse_block (by decide) hp hb hafter
  exact ⟨by decide, hp, hb, by decide, hafter, by decide, hblock.1 (by decide), hblock.2 (by decide)⟩

end TapSuite.Tap

import TapSuite.Proofs.Tap.HiddenBlock
import TapSuite.Proofs.Tap.Printed
import TapSuite.Tap.Subtest

/-!
# Printed subtests

A printed forest of subtests is read as its points in the order of their lines, and the leaves of
that report are the points without children.

    Reads (lines of the forest) (its points)                                  (reads_forest)
    leavesAfter before (points of the forest) = its childless points          (leaves_forest)

For the leaves, the point before a subtest is a sibling of it or of one of its ancestors, so never
deeper than the subtest.  The point before a parent's own point is its last child.
-/

namespace TapSuite.Tap

open Text

/-! ## Reading -/

/-- A point and the block after it. -/
theorem Reads.point_block {line : Line} {p : TestPoint} {b : Block}
    (h : TestPoint.read? line.text line.depth = some p) (hb : b.Opens line.depth) (hc : b.Closes) :
    Reads (line :: b.lines.map Line.of) [.point p] := by
  intro m hm
  obtain ⟨hscan, hmode⟩ := run_lines hb hc
  rw [scan_cons, modeAfter_cons, step_of_not_hides (not_hides_of_block hm line),
    readOutside_point h, hscan, hmode]
  exact ⟨rfl, rfl⟩

/-- The point line of a subtest, with its block if there is one. -/
theorem reads_placed (indent : Indent) {p : TestPoint} {block : Option Block}
    (hp : CanonicalText p.description.toList)
    (hb : ∀ b ∈ block, b.Opens indent.width ∧ b.Closes) :
    Reads (((indent.blanks ++ p.text) :: (block.map Block.lines).getD []).map Line.of)
      [.point (p.placed indent.width)] := by
  have hline : Line.of (indent.blanks ++ p.text) = ⟨indent.width, trimEnd p.text⟩ :=
    Line.of_indented indent.isBlank_of_mem (first_text p)
  have hread : TestPoint.read? (trimEnd p.text) indent.width = some (p.placed indent.width) :=
    read?_text ((canonicalText_iff _).mp hp).1 indent.width
  rw [List.map_cons, hline]
  cases block with
  | none => exact Reads.point hread
  | some b =>
    obtain ⟨hopens, hcloses⟩ := hb b rfl
    exact Reads.point_block hread hopens hcloses

theorem reads_optional_comment (comment : Option (Indent × List Char)) :
    Reads ((comment.map commentLine).toList.map Line.of) [] := by
  cases comment with
  | none => exact Reads.nil
  | some c => exact reads_comment c.1.isBlank_of_mem c.2

theorem reads_optional_plan {inner : Indent} (h : 0 < inner.width) (plan : Option Nat) :
    Reads ((plan.map (inner.blanks ++ planLine ·)).toList.map Line.of) [] := by
  cases plan with
  | none => exact Reads.nil
  | some n =>
    have hdepth : ¬ width inner.blanks = 0 := by
      rw [Indent.width] at h
      omega
    have hplan := reads_plan inner.isBlank_of_mem n
    rw [if_neg hdepth] at hplan
    exact hplan

mutual

/-- A subtest is read as its points. -/
theorem reads_subtest (indent : Indent) (t : Subtest) (h : t.WellFormed indent) :
    Reads ((t.lines indent).map Line.of) ((t.points indent).map .point) := by
  match t with
  | .node comment inner children plan point block =>
    obtain ⟨-, hdeeper, hchildren, hpoint, hblock⟩ := h
    have hinner : 0 < inner.width := by omega
    have hforest := reads_forest inner children hchildren
    have hlines := (((reads_optional_comment comment).append hforest).append
      (reads_optional_plan hinner plan)).append (reads_placed indent hpoint hblock)
    simpa [Subtest.lines, Subtest.points] using hlines

/-- Subtests are read as their points. -/
theorem reads_forest (indent : Indent) (ts : List Subtest) (h : forestWellFormed indent ts) :
    Reads ((forestLines indent ts).map Line.of) ((forestPoints indent ts).map .point) := by
  match ts with
  | [] => exact Reads.nil
  | t :: rest =>
    obtain ⟨ht, hrest⟩ := h
    have hlines := (reads_subtest indent t ht).append (reads_forest indent rest hrest)
    simpa [forestLines, forestPoints] using hlines

end

/-! ## Lines -/

mutual

theorem not_mem_subtestLines (indent : Indent) (t : Subtest) (h : t.WellFormed indent) :
    ∀ raw ∈ t.lines indent, '\n' ∉ raw := by
  match t with
  | .node comment inner children plan point block =>
    obtain ⟨hcomment, -, hchildren, hpoint, hblock⟩ := h
    have hforest := not_mem_forestLines inner children hchildren
    have htext := not_mem_text ((canonicalText_iff _).mp hpoint).2
    intro raw hraw
    simp only [Subtest.lines, List.mem_append, List.mem_cons] at hraw
    rcases hraw with ((hraw | hraw) | hraw) | rfl | hraw
    · obtain ⟨c, hc, rfl⟩ := Option.map_eq_some_iff.mp (Option.mem_toList.mp hraw)
      simp [commentLine, c.1.one_line, hcomment c hc]
    · exact hforest raw hraw
    · obtain ⟨n, -, rfl⟩ := Option.map_eq_some_iff.mp (Option.mem_toList.mp hraw)
      simp [planLine, inner.one_line, not_mem_digitsOf]
    · simp [indent.one_line, htext]
    · cases block with
      | none => cases hraw
      | some b =>
        obtain ⟨hopens, hcloses⟩ := hblock b rfl
        exact not_mem_blockLines hopens hcloses raw hraw

/-- Every printed line is one line. -/
theorem not_mem_forestLines (indent : Indent) (ts : List Subtest) (h : forestWellFormed indent ts) :
    ∀ raw ∈ forestLines indent ts, '\n' ∉ raw := by
  match ts with
  | [] =>
    intro raw hraw
    cases hraw
  | t :: rest =>
    intro raw hraw
    rcases List.mem_append.mp hraw with hraw | hraw
    · exact not_mem_subtestLines indent t h.1 raw hraw
    · exact not_mem_forestLines indent rest h.2 raw hraw

end

/-! ## Leaves -/

/-- The depth of the last of some points, or of the point before them. -/
def depthAfter (before : Option Nat) (ps : List TestPoint) : Option Nat :=
  (ps.getLast?.map TestPoint.depth).or before

theorem leavesAfter_append (before : Option Nat) (a b : List TestPoint) :
    leavesAfter before (a ++ b) = leavesAfter before a ++ leavesAfter (depthAfter before a) b := by
  induction a generalizing before with
  | nil => rfl
  | cons p a ih =>
    have hlast : depthAfter before (p :: a) = depthAfter (some p.depth) a := by
      rw [depthAfter, depthAfter, List.getLast?_cons]
      cases a.getLast? <;> rfl
    rw [List.cons_append, leavesAfter, leavesAfter, ih, hlast]
    split
    · rfl
    · rfl

theorem depthAfter_points (before : Option Nat) (indent : Indent) (t : Subtest) :
    depthAfter before (t.points indent) = some indent.width := by
  obtain ⟨comment, inner, children, plan, point, block⟩ := t
  simp [depthAfter, Subtest.points, TestPoint.placed]

theorem depthAfter_forest (before : Option Nat) (indent : Indent) (t : Subtest) (ts : List Subtest) :
    depthAfter before (forestPoints indent (t :: ts)) = some indent.width := by
  induction ts generalizing before t with
  | nil =>
    rw [forestPoints, forestPoints, List.append_nil]
    exact depthAfter_points before indent t
  | cons u ts ih =>
    have hrest := ih (depthAfter before (t.points indent)) u
    rw [forestPoints, depthAfter, List.getLast?_append, Option.map_or, Option.or_assoc]
    exact hrest

mutual

/-- The leaves of a subtest after a point that is not deeper. -/
theorem leaves_subtest (indent : Indent) (t : Subtest) (h : t.WellFormed indent)
    (before : Option Nat) (hb : ∀ d ∈ before, d ≤ indent.width) :
    leavesAfter before (t.points indent) = t.childless indent := by
  match t with
  | .node comment inner [] plan point block =>
    have hleaf : ¬ before.any ((point.placed indent.width).depth < ·) := by
      intro hany
      obtain ⟨d, hd, hlt⟩ := (Option.any_eq_true _ _).mp hany
      have hle := hb d hd
      have hdepth : (point.placed indent.width).depth = indent.width := rfl
      have hlt' := of_decide_eq_true hlt
      omega
    simp only [Subtest.points, forestPoints, Subtest.childless, List.nil_append]
    rw [leavesAfter, if_neg hleaf, leavesAfter]
  | .node comment inner (c :: cs) plan point block =>
    obtain ⟨-, hdeeper, hchildren, -, -⟩ := h
    have hbefore : ∀ d ∈ before, d ≤ inner.width := by
      intro d hd
      have hle := hb d hd
      omega
    have hforest := leaves_forest inner (c :: cs) hchildren before hbefore
    -- the last child is deeper than the point that sums it up
    have hparent : (some inner.width).any ((point.placed indent.width).depth < ·) := by
      show decide (indent.width < inner.width) = true
      exact decide_eq_true hdeeper
    rw [Subtest.points, leavesAfter_append, hforest, depthAfter_forest, leavesAfter,
      if_pos hparent, leavesAfter, List.append_nil]
    rfl

/-- The leaves of subtests after a point that is not deeper. -/
theorem leaves_forest (indent : Indent) (ts : List Subtest) (h : forestWellFormed indent ts)
    (before : Option Nat) (hb : ∀ d ∈ before, d ≤ indent.width) :
    leavesAfter before (forestPoints indent ts) = forestChildless indent ts := by
  match ts with
  | [] => rfl
  | t :: rest =>
    have hrest := leaves_forest indent rest h.2 (some indent.width) (by simp)
    rw [forestPoints, leavesAfter_append, leaves_subtest indent t h.1 before hb,
      depthAfter_points, hrest, forestChildless]

end

/-! ## Reports -/

/-- A printed forest is read as its points in order, without plan or bail out; the leaves are the
points without children, and each gives one case. -/
theorem parse_forest (indent : Indent) (ts : List Subtest) (h : forestWellFormed indent ts) :
    parse (forestText indent ts) = { points := forestPoints indent ts } ∧
    (parse (forestText indent ts)).leaves = forestChildless indent ts ∧
    (parse (forestText indent ts)).cases =
      (forestChildless indent ts).map (fun p =>
        ⟨if p.description.isEmpty then "#" ++ toString (p.number.getD 0).toNat else p.description,
          p.outcome⟩) ∧
    (parse (forestText indent ts)).failedCount =
      (forestChildless indent ts).countP (·.outcome = .failed) := by
  have hitems : Report.ofItems ((forestPoints indent ts).map .point) =
      { points := forestPoints indent ts } := by
    have hreport := ofItems_items { points := forestPoints indent ts }
    simpa [Report.items] using hreport
  have hparse : parse (forestText indent ts) = { points := forestPoints indent ts } := by
    rw [forestText, (reads_forest indent ts h).parse_eq (not_mem_forestLines indent ts h), hitems]
  have hleaves : (parse (forestText indent ts)).leaves = forestChildless indent ts := by
    rw [hparse]
    exact leaves_forest indent ts h none (by simp)
  refine ⟨hparse, hleaves, ?_, ?_⟩
  · rw [Report.cases, hleaves]
    rfl
  · rw [Report.failedCount, hleaves]

theorem parse_forest_nested :
    let indent : Indent := ⟨[' '], by decide, by decide⟩
    let inner : Indent := ⟨['\t', '\t', ' '], by decide, by decide⟩
    let deep : Indent := ⟨[' ', ' ', ' ', ' '], by decide, by decide⟩
    let block : Block :=
      { opening := "    ---".toList
        body := ["     ok 9".toList, [], "      ...".toList, "    Bail out!".toList]
        closing := "    ...".toList }
    let child : Subtest := .node none deep [] none ⟨false, none, "", none, 0⟩ (some block)
    let parent : Subtest :=
      .node (some (indent, " a".toList)) inner [child, child] (some 2)
        ⟨true, some 1, "with \\# and #", some .todo, 0⟩ none
    forestWellFormed indent [parent] ∧
      (parse (forestText indent [parent])).cases = [⟨"#0", .failed⟩, ⟨"#0", .failed⟩] :=
  ⟨by decide, (parse_forest _ _ (by decide)).2.2.1.trans (by decide)⟩

end TapSuite.Tap

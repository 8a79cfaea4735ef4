import TapSuite.Proofs.Tap.Printed

/-!
# Reports printed and read

Reading undoes printing on canonical reports, and reading gives canonical reports only.

    (parse text).Canonical                                                    (canonical_parse)
    r.Canonical → parse r.render = r                                          (parse_render)
    parse (parse text).render = parse text                                    (parse_roundTrip)
-/

namespace TapSuite.Tap

open Text

/-! ## Reading printed reports -/

theorem TestPoint.line_eq (p : TestPoint) : p.line = spaces p.depth ++ p.text := rfl

theorem reads_lines {points : List TestPoint}
    (h : ∀ p ∈ points, CanonicalText p.description.toList) :
    Reads ((points.map TestPoint.line).map Line.of) (points.map .point) := by
  induction points with
  | nil => exact Reads.nil
  | cons p points ih =>
    have hp := (canonicalText_iff _).mp (h p List.mem_cons_self)
    have hpoint := reads_point (fun _ => isBlank_of_mem_spaces) (a := spaces p.depth) hp.1
    rw [width_spaces] at hpoint
    exact hpoint.cons (ih fun q hq => h q (List.mem_cons_of_mem _ hq))

/-- The lines of a report are read as its points, its plan and its bail out. -/
theorem reads_report {r : Report} (h : r.Canonical) : Reads (r.lines.map Line.of) r.items := by
  unfold Report.lines Report.items
  rw [List.map_append, List.map_append]
  refine ((reads_lines h).append ?_).append ?_
  · cases r.plan with
    | none => exact Reads.nil
    | some n =>
      have hplan := reads_plan (a := []) (by simp) n.toNat
      rw [plan?_planLine] at hplan
      exact hplan
  · cases r.bailedOut with
    | false => exact Reads.nil
    | true => exact reads_bailOut

/-- Every line of a report is one line. -/
theorem not_mem_lines {r : Report} (h : r.Canonical) : ∀ raw ∈ r.lines, '\n' ∉ raw := by
  intro raw hraw
  rcases List.mem_append.mp hraw with hraw | hraw
  · rcases List.mem_append.mp hraw with hraw | hraw
    · obtain ⟨p, hp, rfl⟩ := List.mem_map.mp hraw
      have htext := not_mem_text ((canonicalText_iff _).mp (h p hp)).2
      have hspaces : '\n' ∉ spaces p.depth := fun hm => by cases List.eq_of_mem_replicate hm
      simp [TestPoint.line_eq, htext, hspaces]
    · cases hplan : r.plan with
      | none => simp [hplan] at hraw
      | some n =>
        obtain rfl : raw = planLine n.toNat := by simpa [hplan] using hraw
        simp [planLine, not_mem_digitsOf]
  · cases hbail : r.bailedOut with
    | false => simp [hbail] at hraw
    | true =>
      obtain rfl : raw = bailOutMark := by simpa [hbail] using hraw
      decide

/-- Reading undoes printing. -/
theorem parse_render {r : Report} (h : r.Canonical) : parse r.render = r := by
  rw [Report.render, (reads_report h).parse_eq (not_mem_lines h), ofItems_items]

/-! ## What reading gives -/

/-- A point is read from one of the lines. -/
theorem exists_of_point_mem_scan {m : Mode} {ls : List Line} {p : TestPoint}
    (h : .point p ∈ scan m ls) :
    ∃ line ∈ ls, TestPoint.read? line.text line.depth = some p := by
  induction ls generalizing m with
  | nil => cases h
  | cons line ls ih =>
    rw [scan_cons] at h
    rcases List.mem_append.mp h with h | h
    · exact ⟨line, List.mem_cons_self, (step_point (Option.mem_toList.mp h)).1⟩
    · obtain ⟨line', hline, hread⟩ := ih h
      exact ⟨line', List.mem_cons_of_mem _ hline, hread⟩

theorem mem_points_ofItems {items : List Item} {p : TestPoint} :
    p ∈ (Report.ofItems items).points ↔ .point p ∈ items := by
  simp only [Report.ofItems, List.mem_filterMap]
  constructor
  · rintro ⟨item, hitem, hp⟩
    cases item with
    | point q => cases hp; exact hitem
    | plan n => cases hp
    | bailOut => cases hp
  · intro h
    exact ⟨.point p, h, rfl⟩

/-- Every report that is read is canonical. -/
theorem canonical_parse (text : String) : (parse text).Canonical := by
  intro p hp
  obtain ⟨line, hline, hread⟩ := exists_of_point_mem_scan (mem_points_ofItems.mp hp)
  exact canonicalText_of_read? hread (text_of_mem_linesOf hline).2

/-! ## The round trip -/

/-- Reading gives canonical reports, undoes the printing of canonical reports, and so gives the
same report when it reads what was printed after reading. -/
theorem parse_roundTrip :
    (∀ text : String, (parse text).Canonical) ∧
      (∀ r : Report, r.Canonical → parse r.render = r) ∧
      ∀ text : String, parse (parse text).render = parse text := by
  refine ⟨canonical_parse, fun r => parse_render, fun text => ?_⟩
  exact parse_render (canonical_parse text)

theorem parse_roundTrip_backslashes :
    let r : Report :=
      { points :=
          [⟨false, some 18446744073709551615, "-1 \\# a\\", some .todo, 4⟩, ⟨true, none, "", none, 0⟩]
        plan := some 0
        bailedOut := true }
    r.Canonical ∧ parse r.render = r :=
  ⟨by decide, parse_roundTrip.2.1 _ (by decide)⟩

end TapSuite.Tap

import TapSuite.Proofs.Tap.HiddenBlock
import TapSuite.Proofs.Tap.OpenBlock

/-!
# Streams one after the other

Two streams can be read apart and their reports put together, unless the first leaves a block open
or the second begins with a block of the first one's last point.

    EndsLine a → no block is open after a → b opens no block after a →
      parse (a ++ b) = parse a ++ parse b                                           (parse_append)

The reader comes to `b` with the last point of `a` in mind.  From the first line of `b` that is not
blank it does what a reader of `b` alone does (`scan_eq_start`).
-/

namespace TapSuite.Tap

open Text

/-! ## Reports put together -/

/-- The report of two streams one after the other: the points of both, the later plan, and whether
one of them bails out. -/
instance : Append Report where
  append r s := ⟨r.points ++ s.points, s.plan.or r.plan, r.bailedOut || s.bailedOut⟩

theorem ofItems_append (a b : List Item) :
    Report.ofItems (a ++ b) = Report.ofItems a ++ Report.ofItems b := by
  show Report.ofItems (a ++ b) = Report.mk _ _ _
  simp only [Report.ofItems, List.filterMap_append, List.getLast?_append, List.contains_append]

theorem Report.append_assoc (r s t : Report) : r ++ s ++ t = r ++ (s ++ t) := by
  show Report.mk ((r.points ++ s.points) ++ t.points) (t.plan.or (s.plan.or r.plan))
      ((r.bailedOut || s.bailedOut) || t.bailedOut) =
    Report.mk (r.points ++ (s.points ++ t.points)) ((t.plan.or s.plan).or r.plan)
      (r.bailedOut || (s.bailedOut || t.bailedOut))
  rw [List.append_assoc, Option.or_assoc, Bool.or_assoc]

theorem Report.append_ofItems_nil (r : Report) : r ++ Report.ofItems [] = r := by
  show Report.mk (r.points ++ []) r.plan (r.bailedOut || false) = r
  rw [List.append_nil, Bool.or_false]

theorem Report.ofItems_start (items : List Item) : {} ++ Report.ofItems items = .ofItems items := by
  show Report.mk _ ((Report.ofItems items).plan.or none) _ = _
  rw [Option.or_none]
  rfl

/-! ## The state between the streams -/

/-- No block is open after a line at the outermost level. -/
theorem block_eq_none_of_outermost {m : Mode} {last : Option Nat} (h : m.Sound last) {line : Line}
    (hne : line.text ≠ []) (hdepth : line.depth = 0) : (step m line).1.block = none := by
  have hout : ¬ m.Hides line := h.not_hides hne (by omega)
  rw [step_of_not_hides hout]
  rcases readOutside_cases m.point hne with ⟨⟨-, d, -, hlt⟩, -⟩ | ⟨p, -, heq⟩ | ⟨-, heq⟩
  · -- a block is deeper than the point that it follows
    omega
  · rw [heq]
  · rw [heq]

/-- No block is open after a stream whose last line is at the outermost level, blank lines aside. -/
theorem block_modeAfter_eq_none {ls : List Line}
    (h : ∀ line ∈ (nonblank ls).getLast?, line.depth = 0) : (modeAfter {} ls).block = none := by
  rw [← modeAfter_nonblank]
  cases hlast : (nonblank ls).getLast? with
  | none =>
    rw [List.getLast?_eq_none_iff.mp hlast]
    rfl
  | some line =>
    have hne : line.text ≠ [] := text_ne_of_mem_nonblank (List.mem_of_getLast? hlast)
    obtain ⟨before, hbefore⟩ := List.getLast?_eq_some_iff.mp hlast
    rw [hbefore, modeAfter_append]
    exact block_eq_none_of_outermost ((Mode.Sound.start none).run before) hne (h line hlast)

/-- Where no block is open and the first line opens none, a reader goes on as it would start. -/
theorem scan_eq_start {m : Mode} {ls : List Line} (hblock : m.block = none)
    (h : ∀ line ∈ (nonblank ls).head?, ¬ line.OpensAfter m.point) : scan m ls = scan {} ls := by
  refine scan_eq_of_first fun line hline => ?_
  have hne : line.text ≠ [] := text_ne_of_mem_nonblank (List.mem_of_head? hline)
  exact step_eq_start (not_hides_of_block hblock line) hne (h line hline)

/-! ## Reading in two parts -/

/-- Reading takes one stream after another to one report after another.  No block is open after a
stream that ends at the outermost level. -/
theorem parse_append {a : String} (hend : EndsLine a.toList) :
    ((∀ line ∈ (nonblank (linesOf a.toList)).getLast?, line.depth = 0) →
      (modeAfter {} (linesOf a.toList)).block = none) ∧
    ∀ b : String, (modeAfter {} (linesOf a.toList)).block = none →
      (∀ d ∈ (modeAfter {} (linesOf a.toList)).point, ∀ line ∈ firstLine? b,
        ¬ (line.text = ['-', '-', '-'] ∧ d < line.depth)) →
      parse (a ++ b) = parse a ++ parse b := by
  refine ⟨block_modeAfter_eq_none, ?_⟩
  intro b hblock hfirst
  have hopens : ∀ line ∈ firstLine? b,
      ¬ line.OpensAfter (modeAfter {} (linesOf a.toList)).point := by
    rintro line hline ⟨htext, d, hd, hlt⟩
    exact hfirst d hd line hline ⟨htext, hlt⟩
  unfold parse
  rw [String.toList_append, linesOf_append hend, scan_append, scan_eq_start hblock hopens,
    ofItems_append]

theorem parse_append_dashes :
    let a := "ok 1 - a\n  ---\n  not ok 9\n  ...\n  1..4\n1..1\n  not ok 2 - b\n\n"
    let b := "\n  ---\n  Bail out!\n1..3\nok 3\n"
    let dedented := "ok 1 - a\n  ---\n    not ok 9\n1..1\n\n"
    EndsLine dedented.toList ∧ (modeAfter {} (linesOf dedented.toList)).block = none ∧
      EndsLine a.toList ∧ modeAfter {} (linesOf a.toList) = ⟨none, some 2⟩ ∧
      firstLine? b = some ⟨2, ['-', '-', '-']⟩ ∧ parse (a ++ b) = parse a ++ parse b ∧
      parse a ++ parse b = ⟨[⟨true, some 1, "a", none, 0⟩, ⟨false, some 2, "b", none, 2⟩,
        ⟨true, some 3, "", none, 0⟩], some 3, true⟩ := by
  refine ⟨by decide, (parse_append (by decide)).1 (by decide), by decide, by decide, by decide, ?_,
    by decide⟩
  exact (parse_append (by decide)).2 _ (by decide) (by decide)

end TapSuite.Tap

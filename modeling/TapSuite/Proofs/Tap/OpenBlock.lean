import TapSuite.Proofs.Tap.Line
import TapSuite.Proofs.Tap.PointText

/-!
# How deep an open block is

An open block is deeper than the last recorded point, so no line at or above the level of that
point is taken for a part of it, and none at the outermost level ever.

    (modeAfter {} ls).Sound (lastDepth none (scan {} ls))            (Mode.Sound.run)
    m.Sound last → line.depth ≤ last → ¬ m.Hides line                (Mode.Sound.not_hides)

What a stream says at the outermost level is therefore decided line by line (`parse_outermost`).
-/

namespace TapSuite.Tap

open Text

/-! ## The invariant -/

/-- The depth of the last recorded point, given the depth of the one before the items. -/
def lastDepth (last : Option Nat) (items : List Item) : Option Nat :=
  ((items.filterMap Item.point?).getLast?.map TestPoint.depth).or last

/-- What holds of the reader's state when the last recorded point is known: an open block is deeper
than that point, and the point that a block could follow is that point. -/
structure Mode.Sound (m : Mode) (last : Option Nat) : Prop where
  deeper : ∀ depth ∈ m.block, ∃ d ∈ last, d < depth
  remembered : ∀ d ∈ m.point, last = some d

theorem Mode.Sound.start (last : Option Nat) : ({} : Mode).Sound last := by
  refine ⟨?_, ?_⟩
  · intro depth h
    cases h
  · intro d h
    cases h

theorem lastDepth_append (last : Option Nat) (a b : List Item) :
    lastDepth last (a ++ b) = lastDepth (lastDepth last a) b := by
  unfold lastDepth
  rw [List.filterMap_append, List.getLast?_append, Option.map_or, Option.or_assoc]

theorem lastDepth_of_not_point {last : Option Nat} {item : Option Item}
    (h : ∀ p, item ≠ some (.point p)) : lastDepth last item.toList = last := by
  cases item with
  | none => rfl
  | some item =>
    cases item with
    | point p => exact absurd rfl (h p)
    | plan n => rfl
    | bailOut => rfl

/-- Each line keeps the state sound. -/
theorem Mode.Sound.step {m : Mode} {last : Option Nat} (h : m.Sound last) (line : Line) :
    (step m line).1.Sound (lastDepth last (Tap.step m line).2.toList) := by
  rcases step_cases m line with heq | heq | ⟨⟨-, d, hd, hlt⟩, heq⟩ | ⟨p, hp, heq⟩ | ⟨-, heq⟩
  · rw [heq]
    exact h
  · rw [heq]
    refine ⟨?_, h.remembered⟩
    intro depth hb
    cases hb
  · -- the block opens deeper than the point before it, which is the last one
    rw [heq]
    refine ⟨?_, ?_⟩
    · intro depth hdepth
      cases hdepth
      exact ⟨d, h.remembered d hd, hlt⟩
    · intro d hd
      cases hd
  · rw [heq]
    refine ⟨?_, ?_⟩
    · intro depth hdepth
      cases hdepth
    · intro d hd
      cases hd
      show some p.depth = some line.depth
      rw [depth_of_read? hp]
  · rw [heq, lastDepth_of_not_point (remark?_ne_point line)]
    exact Mode.Sound.start last

/-- So does a stream. -/
theorem Mode.Sound.run {m : Mode} {last : Option Nat} (h : m.Sound last) (ls : List Line) :
    (modeAfter m ls).Sound (lastDepth last (scan m ls)) := by
  induction ls generalizing m last with
  | nil => exact h
  | cons line ls ih =>
    rw [modeAfter_cons, scan_cons, lastDepth_append]
    exact ih (h.step line)

/-- A line that is not deeper than the last recorded point is not hidden. -/
theorem Mode.Sound.not_hides {m : Mode} {last : Option Nat} (h : m.Sound last) {line : Line}
    (hne : line.text ≠ []) (hshallow : ∀ d ∈ last, line.depth ≤ d) : ¬ m.Hides line := by
  rintro ⟨depth, hdepth, hin⟩
  obtain ⟨d, hd, hlt⟩ := h.deeper depth hdepth
  have hle := hshallow d hd
  rcases hin with hin | hin
  · exact hne hin
  · omega

/-! ## The outermost level -/

/-- What a line adds at the outermost level does not hang on the lines before it. -/
theorem step_outermost {m : Mode} {last : Option Nat} (h : m.Sound last) {line : Line}
    (hdepth : line.depth = 0) :
    (step m line).2 = ((TestPoint.read? line.text 0).map .point).or (remark? line) := by
  by_cases hne : line.text = []
  · rw [step_blank m hne, remark?, hne, if_neg (by decide), if_pos hdepth]
    rfl
  · have hout : ¬ m.Hides line := h.not_hides hne (by omega)
    rw [step_of_not_hides hout]
    rcases readOutside_cases m.point hne with ⟨⟨-, d, -, hlt⟩, -⟩ | ⟨p, hp, heq⟩ | ⟨hr, heq⟩
    · omega
    · rw [heq, ← hdepth, hp]
      rfl
    · rw [heq, ← hdepth, hr]
      rfl

/-- What is made of the items of a stream is made of its lines, if each step agrees. -/
theorem filterMap_scan {α : Type} {f : Item → Option α} {g : Line → Option α}
    (hstep : ∀ (m : Mode) (last : Option Nat) (line : Line), m.Sound last →
      (step m line).2.bind f = g line)
    {m : Mode} {last : Option Nat} (h : m.Sound last) (ls : List Line) :
    (scan m ls).filterMap f = ls.filterMap g := by
  induction ls generalizing m last with
  | nil => rfl
  | cons line ls ih =>
    have hline : (step m line).2.toList.filterMap f = (g line).toList := by
      rw [← hstep m last line h]
      cases (step m line).2 with
      | none => rfl
      | some item => cases hf : f item <;> simp [hf]
    rw [scan_cons, List.filterMap_append, hline, ih (h.step line)]
    cases hg : g line <;> simp [hg]

/-- The point that a line writes at the outermost level. -/
def Line.outerPoint? (line : Line) : Option TestPoint :=
  if line.depth = 0 then TestPoint.read? line.text 0 else none

/-- The plan that a line writes at the outermost level. -/
def Line.outerPlan? (line : Line) : Option UInt64 :=
  if line.depth = 0 ∧ TestPoint.read? line.text 0 = none then plan? line.text else none

theorem step_outerPoint? {m : Mode} {last : Option Nat} (h : m.Sound last) (line : Line) :
    ((step m line).2.bind fun item => item.point?.filter (·.depth = 0)) = line.outerPoint? := by
  unfold Line.outerPoint?
  by_cases hdepth : line.depth = 0
  · rw [if_pos hdepth, step_outermost h hdepth]
    cases hr : TestPoint.read? line.text 0 with
    | some p =>
      have hp : p.depth = 0 := depth_of_read? hr
      simp [Item.point?, hp]
    | none =>
      cases hremark : remark? line with
      | none => rfl
      | some item =>
        cases item with
        | point p => exact absurd hremark (remark?_ne_point line p)
        | plan n => rfl
        | bailOut => rfl
  · rw [if_neg hdepth]
    cases hitem : (step m line).2 with
    | none => rfl
    | some item =>
      cases item with
      | point p =>
        have hp := depth_of_read? (step_point hitem).1
        have hpos : p.depth ≠ 0 := by omega
        simp [Item.point?, hpos]
      | plan n => rfl
      | bailOut => rfl

theorem step_outerPlan? {m : Mode} {last : Option Nat} (h : m.Sound last) (line : Line) :
    (step m line).2.bind Item.plan? = line.outerPlan? := by
  unfold Line.outerPlan?
  by_cases hdepth : line.depth = 0
  · rw [step_outermost h hdepth]
    cases hr : TestPoint.read? line.text 0 with
    | some p =>
      rw [if_neg (by simp)]
      rfl
    | none =>
      rw [if_pos ⟨hdepth, rfl⟩]
      show (remark? line).bind Item.plan? = plan? line.text
      rw [remark?, if_pos hdepth]
      split
      · next hbail =>
        -- a bail out does not start like a plan
        obtain ⟨rest, hrest⟩ := List.isPrefixOf_iff_prefix.mp hbail
        rw [← hrest]
        rfl
      · cases plan? line.text <;> rfl
  · rw [if_neg (fun hboth => hdepth hboth.1)]
    cases hitem : (step m line).2 with
    | none => rfl
    | some item =>
      cases item with
      | point p => rfl
      | plan n => exact absurd (depth_of_step_plan hitem) hdepth
      | bailOut => rfl

/-- A bail out at the outermost level is seen. -/
theorem bailOut_mem_scan {m : Mode} {last : Option Nat} (h : m.Sound last) {ls : List Line}
    {line : Line} (hline : line ∈ ls) (hdepth : line.depth = 0)
    (hbail : bailOutMark.isPrefixOf line.text) : .bailOut ∈ scan m ls := by
  obtain ⟨before, after, rfl⟩ := List.append_of_mem hline
  have hitem : (step (modeAfter m before) line).2 = some .bailOut := by
    have hread : TestPoint.read? line.text 0 = none := by
      obtain ⟨rest, hrest⟩ := List.isPrefixOf_iff_prefix.mp hbail
      rw [← hrest]
      rfl
    rw [step_outermost (h.run before) hdepth, hread, remark?, if_pos hbail]
    rfl
  rw [scan_append, scan_cons, hitem]
  simp

/-! ## What a stream says -/

/-- No line at or above the level of the last point is hidden: it is read as if no block were open.
Hence the points and the plan at the outermost level are those of the lines there, and each bail out
there is seen, whatever blocks surround them. -/
theorem parse_outermost (text : String) :
    (∀ before line after, linesOf text.toList = before ++ line :: after → line.text ≠ [] →
      (∀ p ∈ (Report.ofItems (scan {} before)).points.getLast?, line.depth ≤ p.depth) →
      ¬ (modeAfter {} before).Hides line ∧
        step (modeAfter {} before) line = readOutside (modeAfter {} before).point line) ∧
    (parse text).points.filter (·.depth = 0) = (linesOf text.toList).filterMap Line.outerPoint? ∧
    (parse text).plan = ((linesOf text.toList).filterMap Line.outerPlan?).getLast? ∧
    ((∃ line ∈ linesOf text.toList, line.depth = 0 ∧ bailOutMark.isPrefixOf line.text) →
      (parse text).bailedOut = true) := by
  have hstart : ({} : Mode).Sound none := Mode.Sound.start none
  refine ⟨?_, ?_, ?_, ?_⟩
  · intro before line after _ hne hshallow
    have hout : ¬ (modeAfter {} before).Hides line := by
      refine (hstart.run before).not_hides hne ?_
      intro d hd
      rw [lastDepth, Option.or_none] at hd
      obtain ⟨p, hp, rfl⟩ := Option.map_eq_some_iff.mp hd
      exact hshallow p hp
    exact ⟨hout, step_of_not_hides hout⟩
  · rw [parse, Report.ofItems, List.filter_filterMap]
    exact filterMap_scan (fun m last line h => step_outerPoint? h line) hstart _
  · rw [parse, Report.ofItems]
    show ((scan {} _).filterMap Item.plan?).getLast? = _
    rw [filterMap_scan (fun m last line h => step_outerPlan? h line) hstart]
  · rintro ⟨line, hline, hdepth, hbail⟩
    have hmem := bailOut_mem_scan hstart hline hdepth hbail
    simpa [parse, Report.ofItems] using hmem

theorem parse_outermost_unterminated :
    let text := "ok 1\n  ---\n  not ok 2\n    ...\n    1..9\nnot ok 3\n1..2\nBail out!\n"
    ¬ (modeAfter {} (linesOf "ok 1\n  ---\n  not ok 2\n    ...\n    1..9\n".toList)).Hides
        (.of "not ok 3".toList) ∧
      (parse text).points.filter (·.depth = 0) =
        [⟨true, some 1, "", none, 0⟩, ⟨false, some 3, "", none, 0⟩] ∧
      (parse text).plan = some 2 ∧ (parse text).bailedOut = true := by
  have h := parse_outermost
    "ok 1\n  ---\n  not ok 2\n    ...\n    1..9\nnot ok 3\n1..2\nBail out!\n"
  refine ⟨?_, h.2.1.trans (by decide), h.2.2.1.trans (by decide), h.2.2.2 (by decide)⟩
  exact (h.1 _ _ [.of "1..2".toList, .of "Bail out!".toList] (by decide) (by decide)
    (by decide)).1

end TapSuite.Tap

import TapSuite.Tap.Parser

/-!
# Steps and runs of the reader

What one line can do to the reader, and what follows for a stream.

    m.Hides line     the line belongs to the open block
    otherwise        it opens a block, is a point, or is a remark; a blank line does nothing

Blank lines can be left out of a stream: what is recorded stays the same (`scan_nonblank`), and so
does what the lines after them find (`modeAfter_nonblank`).
-/

namespace TapSuite.Tap

open Text

/-! ## Lines in a block -/

/-- Whether a line belongs to the open block: it is blank or not indented less. -/
def Mode.Hides (m : Mode) (line : Line) : Prop :=
  ∃ depth ∈ m.block, line.text = [] ∨ depth ≤ line.depth

theorem staysInside_iff (depth : Nat) (line : Line) :
    staysInside depth line = true ↔ line.text = [] ∨ depth ≤ line.depth := by
  simp [staysInside]

/-- A line outside of the block is read as if there were none. -/
theorem step_of_not_hides {m : Mode} {line : Line} (h : ¬ m.Hides line) :
    step m line = readOutside m.point line := by
  unfold step
  cases hb : m.block with
  | none => rfl
  | some depth =>
    have hout : ¬ (line.text = [] ∨ depth ≤ line.depth) := fun hin => h ⟨depth, hb, hin⟩
    have hend : ¬ (line.text = ['.', '.', '.'] ∧ line.depth = depth) := by
      rintro ⟨-, hd⟩
      exact hout (.inr (by omega))
    rw [← staysInside_iff] at hout
    simp only [if_neg hend, if_neg hout]

/-- A line of the block adds nothing; at most it closes the block. -/
theorem step_of_hides {m : Mode} {line : Line} (h : m.Hides line) :
    step m line = (m, none) ∨ step m line = (⟨none, m.point⟩, none) := by
  obtain ⟨depth, hb, hin⟩ := h
  rw [Option.mem_def] at hb
  rw [← staysInside_iff] at hin
  by_cases hend : line.text = ['.', '.', '.'] ∧ line.depth = depth
  · right
    simp only [step, hb, if_pos hend]
  · left
    simp only [step, hb, if_neg hend, if_pos hin]

/-- Without an open block no line is hidden. -/
theorem not_hides_of_block {m : Mode} (h : m.block = none) (line : Line) : ¬ m.Hides line := by
  rintro ⟨depth, hb, -⟩
  rw [h] at hb
  cases hb

/-! ## Lines outside of a block -/

theorem read?_nil (depth : Nat) : TestPoint.read? [] depth = none := rfl

theorem text_ne_of_read? {text : List Char} {depth : Nat} {p : TestPoint}
    (h : TestPoint.read? text depth = some p) : text ≠ [] := by
  rintro rfl
  rw [read?_nil] at h
  cases h

theorem read?_dashes (depth : Nat) : TestPoint.read? ['-', '-', '-'] depth = none := rfl

/-- Whether a line opens a block, given the depth of the point before it. -/
def Line.OpensAfter (line : Line) (point : Option Nat) : Prop :=
  line.text = ['-', '-', '-'] ∧ ∃ d ∈ point, d < line.depth

theorem opensAfter_iff (line : Line) (point : Option Nat) :
    (line.text = ['-', '-', '-'] ∧ point.any (· < line.depth)) ↔ line.OpensAfter point := by
  simp [Line.OpensAfter, Option.any_eq_true]

theorem not_opensAfter_none (line : Line) : ¬ line.OpensAfter none := by
  rintro ⟨-, d, hd, -⟩
  cases hd

theorem readOutside_marker {point : Option Nat} {line : Line} (h : line.OpensAfter point) :
    readOutside point line = (⟨some line.depth, none⟩, none) := by
  rw [readOutside, if_pos ((opensAfter_iff line point).mpr h)]

theorem readOutside_point {point : Option Nat} {line : Line} {p : TestPoint}
    (h : TestPoint.read? line.text line.depth = some p) :
    readOutside point line = (⟨none, some line.depth⟩, some (.point p)) := by
  have hm : ¬ line.OpensAfter point := by
    rintro ⟨ht, -⟩
    rw [ht, read?_dashes] at h
    cases h
  rw [← opensAfter_iff] at hm
  rw [readOutside, if_neg hm, h]

theorem readOutside_blank {point : Option Nat} {line : Line} (h : line.text = []) :
    readOutside point line = (⟨none, point⟩, none) := by
  have hm : ¬ line.OpensAfter point := by
    rintro ⟨ht, -⟩
    rw [h] at ht
    cases ht
  rw [← opensAfter_iff] at hm
  rw [readOutside, if_neg hm, h, read?_nil]
  rfl

theorem readOutside_remark {point : Option Nat} {line : Line} (hne : line.text ≠ [])
    (hm : ¬ line.OpensAfter point) (h : TestPoint.read? line.text line.depth = none) :
    readOutside point line = ({}, remark? line) := by
  rw [← opensAfter_iff] at hm
  rw [readOutside, if_neg hm, h]
  simp [hne]

theorem remark?_ne_point (line : Line) (p : TestPoint) : remark? line ≠ some (.point p) := by
  unfold remark?
  split
  · simp
  · split
    · simp
    · simp

/-- What a line that is not blank can do outside of a block. -/
theorem readOutside_cases (point : Option Nat) {line : Line} (hne : line.text ≠ []) :
    (line.OpensAfter point ∧ readOutside point line = (⟨some line.depth, none⟩, none)) ∨
    (∃ p, TestPoint.read? line.text line.depth = some p ∧
      readOutside point line = (⟨none, some line.depth⟩, some (.point p))) ∨
    (TestPoint.read? line.text line.depth = none ∧ readOutside point line = ({}, remark? line)) := by
  by_cases hm : line.OpensAfter point
  · left
    exact ⟨hm, readOutside_marker hm⟩
  · right
    cases hr : TestPoint.read? line.text line.depth with
    | some p => exact .inl ⟨p, rfl, readOutside_point hr⟩
    | none => exact .inr ⟨rfl, readOutside_remark hne hm hr⟩

/-- A line that no block hides and that opens none is read as at the start of a stream. -/
theorem step_eq_start {m : Mode} {line : Line} (hout : ¬ m.Hides line) (hne : line.text ≠ [])
    (h : ¬ line.OpensAfter m.point) : step m line = step {} line := by
  rw [step_of_not_hides hout, step_of_not_hides (not_hides_of_block rfl line)]
  cases hr : TestPoint.read? line.text line.depth with
  | some p => rw [readOutside_point hr, readOutside_point hr]
  | none => rw [readOutside_remark hne h hr, readOutside_remark hne (not_opensAfter_none line) hr]

/-- At the start of a stream, a line that is no point is a remark. -/
theorem step_start_remark {line : Line} (hne : line.text ≠ [])
    (h : TestPoint.read? line.text line.depth = none) : step {} line = ({}, remark? line) := by
  rw [step_of_not_hides (not_hides_of_block rfl line),
    readOutside_remark hne (not_opensAfter_none line) h]

/-- What a line can do, wherever it stands: nothing, close the block, open a block, be a point, or
be a remark. -/
theorem step_cases (m : Mode) (line : Line) :
    step m line = (m, none) ∨
    step m line = (⟨none, m.point⟩, none) ∨
    (line.OpensAfter m.point ∧ step m line = (⟨some line.depth, none⟩, none)) ∨
    (∃ p, TestPoint.read? line.text line.depth = some p ∧
      step m line = (⟨none, some line.depth⟩, some (.point p))) ∨
    (TestPoint.read? line.text line.depth = none ∧ step m line = ({}, remark? line)) := by
  by_cases hides : m.Hides line
  · rcases step_of_hides hides with heq | heq
    · exact .inl heq
    · exact .inr (.inl heq)
  · rw [step_of_not_hides hides]
    by_cases hne : line.text = []
    · right; left
      exact readOutside_blank hne
    · right; right
      exact readOutside_cases m.point hne

/-- What a line can add, wherever it stands. -/
theorem step_adds (m : Mode) (line : Line) :
    (step m line).2 = none ∨
    (∃ p, TestPoint.read? line.text line.depth = some p ∧
      step m line = (⟨none, some line.depth⟩, some (.point p))) ∨
    (TestPoint.read? line.text line.depth = none ∧ (step m line).2 = remark? line) := by
  rcases step_cases m line with heq | heq | ⟨-, heq⟩ | hpoint | ⟨hr, heq⟩
  · left
    rw [heq]
  · left
    rw [heq]
  · left
    rw [heq]
  · right; left
    exact hpoint
  · right; right
    exact ⟨hr, by rw [heq]⟩

/-- A point is recorded only for a line that is read as that point, and is then remembered. -/
theorem step_point {m : Mode} {line : Line} {p : TestPoint}
    (h : (step m line).2 = some (.point p)) :
    TestPoint.read? line.text line.depth = some p ∧ (step m line).1 = ⟨none, some line.depth⟩ := by
  rcases step_adds m line with hnone | ⟨q, hq, heq⟩ | ⟨-, hremark⟩
  · rw [hnone] at h
    cases h
  · rw [heq] at h ⊢
    cases h
    exact ⟨hq, rfl⟩
  · rw [hremark] at h
    exact absurd h (remark?_ne_point line p)

/-- A plan is recorded only for a line at the outermost level. -/
theorem depth_of_step_plan {m : Mode} {line : Line} {n : UInt64}
    (h : (step m line).2 = some (.plan n)) : line.depth = 0 := by
  rcases step_adds m line with hnone | ⟨q, -, heq⟩ | ⟨-, hremark⟩
  · rw [hnone] at h
    cases h
  · rw [heq] at h
    cases h
  · rw [hremark, remark?] at h
    split at h
    · cases h
    · split at h
      · next hdepth => exact hdepth
      · cases h

/-! ## Blank lines -/

/-- A blank line changes nothing, inside of a block or not. -/
theorem step_blank (m : Mode) {line : Line} (h : line.text = []) : step m line = (m, none) := by
  obtain ⟨block, point⟩ := m
  cases block with
  | none => exact readOutside_blank h
  | some depth =>
    have hend : ¬ (line.text = ['.', '.', '.'] ∧ line.depth = depth) := by
      rintro ⟨ht, -⟩
      rw [h] at ht
      cases ht
    have hin : staysInside depth line = true := (staysInside_iff depth line).mpr (.inl h)
    simp only [step, if_neg hend, if_pos hin]

theorem modeAfter_cons (m : Mode) (line : Line) (rest : List Line) :
    modeAfter m (line :: rest) = modeAfter (step m line).1 rest := rfl

theorem modeAfter_append (m : Mode) (a b : List Line) :
    modeAfter m (a ++ b) = modeAfter (modeAfter m a) b :=
  List.foldl_append

theorem nonblank_append (a b : List Line) : nonblank (a ++ b) = nonblank a ++ nonblank b :=
  List.filter_append ..

theorem text_ne_of_mem_nonblank {ls : List Line} {line : Line} (h : line ∈ nonblank ls) :
    line.text ≠ [] := by
  simpa [nonblank] using (List.mem_filter.mp h).2

/-- A run is the same without the blank lines. -/
theorem run_nonblank (m : Mode) (ls : List Line) :
    scan m (nonblank ls) = scan m ls ∧ modeAfter m (nonblank ls) = modeAfter m ls := by
  induction ls generalizing m with
  | nil => exact ⟨rfl, rfl⟩
  | cons line ls ih =>
    rw [scan_cons, modeAfter_cons]
    by_cases h : line.text = []
    · have hskip : nonblank (line :: ls) = nonblank ls := by simp [nonblank, h]
      rw [hskip, step_blank m h]
      exact ih m
    · have hkeep : nonblank (line :: ls) = line :: nonblank ls := by simp [nonblank, h]
      rw [hkeep, scan_cons, modeAfter_cons, (ih _).1, (ih _).2]
      exact ⟨rfl, rfl⟩

theorem scan_nonblank (m : Mode) (ls : List Line) : scan m (nonblank ls) = scan m ls :=
  (run_nonblank m ls).1

theorem modeAfter_nonblank (m : Mode) (ls : List Line) :
    modeAfter m (nonblank ls) = modeAfter m ls :=
  (run_nonblank m ls).2

end TapSuite.Tap

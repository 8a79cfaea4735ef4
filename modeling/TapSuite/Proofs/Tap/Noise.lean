import TapSuite.Process.Capture
import TapSuite.Proofs.Tap.HiddenBlock
import TapSuite.Proofs.Tap.OpenBlock

/-!
# Noise between the lines

Lines of another stream come in between the lines of a stream.  They mean nothing by themselves, but
one that comes between a point and its block, or into a block and less indented than it, cuts the
block off: what is left of it is read as if it had not been quoted.

    Spared {} arrivals ↔ scan {} (allLines arrivals) = scan {} (outLines arrivals)
                                                                              (spared_iff_scan_eq)
    (scan {} (outLines arrivals)).Sublist (scan {} (allLines arrivals))        (Follows.sublist)

The two readers are compared line by line.  Where they differ (`Follows`), the one that sees the
noise stands in what is left of a block that hides lines from the other, or has forgotten a point;
when that block ends, they agree again.
-/

namespace TapSuite.Tap

open Process (Stream)

/-! ## Noise -/

/-- Whether a line means nothing by itself: it is no test point, no plan, no bail out, and no marker
of a block. -/
structure Line.IsNoise (line : Line) : Prop where
  noPoint : TestPoint.read? line.text line.depth = none
  noPlan : plan? line.text = none
  noBailOut : bailOutMark.isPrefixOf line.text = false
  noOpening : line.text ≠ ['-', '-', '-']
  noClosing : line.text ≠ ['.', '.', '.']

instance (line : Line) : Decidable line.IsNoise :=
  decidable_of_iff
    (TestPoint.read? line.text line.depth = none ∧ plan? line.text = none ∧
      bailOutMark.isPrefixOf line.text = false ∧ line.text ≠ ['-', '-', '-'] ∧
      line.text ≠ ['.', '.', '.'])
    ⟨fun ⟨noPoint, noPlan, noBailOut, noOpening, noClosing⟩ =>
        ⟨noPoint, noPlan, noBailOut, noOpening, noClosing⟩,
      fun h => ⟨h.noPoint, h.noPlan, h.noBailOut, h.noOpening, h.noClosing⟩⟩

/-- The lines of one stream among lines that arrive from both. -/
def linesOn (s : Stream) (arrivals : List (Stream × List Char)) : List (List Char) :=
  (arrivals.filter (·.1 = s)).map (·.2)

/-- The lines that a reader of the standard output sees. -/
def outLines (arrivals : List (Stream × List Char)) : List Line :=
  (linesOn .out arrivals).map Line.of

/-- The lines that a reader of both streams sees. -/
def allLines (arrivals : List (Stream × List Char)) : List Line := arrivals.map (Line.of ·.2)

/-- Whether the lines of the error stream are noise. -/
def Noisy (arrivals : List (Stream × List Char)) : Prop :=
  ∀ raw ∈ linesOn .err arrivals, (Line.of raw).IsNoise

/-! ## What noise may uncover -/

/-- Whether a line below the outermost level is recorded if no block hides it. -/
def Line.Speaks (line : Line) : Prop :=
  TestPoint.read? line.text line.depth ≠ none ∨ bailOutMark.isPrefixOf line.text = true

instance (line : Line) : Decidable line.Speaks := inferInstanceAs (Decidable (_ ∨ _))

instance (line : Line) (point : Option Nat) : Decidable (line.OpensAfter point) :=
  decidable_of_iff _ (opensAfter_iff line point)

/-- What is left to hide of the open block or, if none is open, of the block that the first line
opens; blank lines aside. -/
def concealed (m : Mode) (ls : List Line) : List Line :=
  match m.block with
  | some depth => (nonblank ls).takeWhile (HiddenAt depth ·)
  | none =>
    match nonblank ls with
    | [] => []
    | line :: rest => if line.OpensAfter m.point then rest.takeWhile (HiddenAt line.depth ·) else []

/-- Whether nothing is hidden that would be recorded otherwise. -/
def Quiet (m : Mode) (ls : List Line) : Prop := ∀ line ∈ concealed m ls, ¬ line.Speaks

instance (m : Mode) (ls : List Line) : Decidable (Quiet m ls) :=
  inferInstanceAs (Decidable (∀ line ∈ concealed m ls, ¬ line.Speaks))

/-- Whether a line of noise does no harm before some lines: it is blank, or belongs to the open
block, or what it cuts off is quiet. -/
def Mode.Spares (m : Mode) (noise : Line) (ls : List Line) : Prop :=
  noise.text = [] ∨ m.Hides noise ∨ Quiet m ls

instance (m : Mode) (noise : Line) (ls : List Line) : Decidable (m.Spares noise ls) :=
  inferInstanceAs
    (Decidable (_ ∨ (∃ depth ∈ m.block, noise.text = [] ∨ depth ≤ noise.depth) ∨ Quiet m ls))

/-- Whether no line of noise does harm.  The state is that of a reader of the standard output. -/
def Spared (m : Mode) : List (Stream × List Char) → Prop
  | [] => True
  | (.out, raw) :: rest => Spared (step m (.of raw)).1 rest
  | (.err, raw) :: rest => m.Spares (.of raw) (outLines rest) ∧ Spared m rest

instance decidableSpared (m : Mode) :
    (arrivals : List (Stream × List Char)) → Decidable (Spared m arrivals)
  | [] => .isTrue trivial
  | (.out, raw) :: rest => decidableSpared (step m (.of raw)).1 rest
  | (.err, raw) :: rest =>
    let := decidableSpared m rest
    inferInstanceAs (Decidable (m.Spares (.of raw) (outLines rest) ∧ Spared m rest))

/-! ## One line -/

section Steps

variable {m : Mode} {depth : Nat} {line : Line}

/-- A line of noise that stays in the block changes nothing; any other makes the reader forget the
block and the point. -/
theorem step_noise (m : Mode) (h : line.IsNoise) :
    (line.text = [] ∨ m.Hides line) ∧ step m line = (m, none) ∨
    (line.text ≠ [] ∧ ¬ m.Hides line) ∧ step m line = ({}, none) := by
  by_cases hblank : line.text = []
  · exact .inl ⟨.inl hblank, step_blank m hblank⟩
  by_cases hides : m.Hides line
  · left
    refine ⟨.inr hides, ?_⟩
    obtain ⟨d, hd, hin⟩ := hides
    rw [Option.mem_def] at hd
    have hend : ¬ (line.text = ['.', '.', '.'] ∧ line.depth = d) := fun hboth =>
      h.noClosing hboth.1
    rw [← staysInside_iff] at hin
    simp only [step, hd, if_neg hend, if_pos hin]
  · right
    refine ⟨⟨hblank, hides⟩, ?_⟩
    have hremark : remark? line = none := by simp [remark?, h.noBailOut, h.noPlan]
    rw [step_of_not_hides hides,
      readOutside_remark hblank (fun hopens => h.noOpening hopens.1) h.noPoint, hremark]

/-- What every state of a reader has: an open block is not at the outermost level, and while it is
open no point is remembered. -/
def Mode.Tidy (m : Mode) : Prop := ∀ depth ∈ m.block, 0 < depth ∧ m.point = none

theorem Mode.tidy_of_block (h : m.block = none) : m.Tidy := by
  intro d hd
  rw [h] at hd
  cases hd

theorem Mode.Tidy.step (h : m.Tidy) (line : Line) : (step m line).1.Tidy := by
  rcases step_cases m line with heq | heq | ⟨⟨-, d, -, hlt⟩, heq⟩ | ⟨p, -, heq⟩ | ⟨-, heq⟩
  · rw [heq]
    exact h
  · rw [heq]
    exact tidy_of_block rfl
  · rw [heq]
    intro depth hdepth
    cases hdepth
    exact ⟨by omega, rfl⟩
  · rw [heq]
    exact tidy_of_block rfl
  · rw [heq]
    exact tidy_of_block rfl

/-- A line that does not stay in a block is not blank and not deeper than the block. -/
theorem of_not_hiddenAt (h : ¬ HiddenAt depth line) :
    line.text ≠ [] ∧ line.depth ≤ depth ∧
      (line.depth < depth ∨ line = ⟨depth, ['.', '.', '.']⟩) := by
  have hne : line.text ≠ [] := by
    intro hblank
    refine h ⟨.inl hblank, ?_⟩
    rintro rfl
    cases hblank
  by_cases hend : line = ⟨depth, ['.', '.', '.']⟩
  · exact ⟨hne, by simp [hend], .inr hend⟩
  · have hlt : line.depth < depth := by
      by_contra hle
      exact h ⟨.inr (by omega), hend⟩
    exact ⟨hne, by omega, .inl hlt⟩

/-- A line that ends a block is read as at the start of a stream. -/
theorem step_of_not_hiddenAt (h : ¬ HiddenAt depth line) :
    step ⟨some depth, none⟩ line = step {} line := by
  obtain ⟨hne, -, hlt | rfl⟩ := of_not_hiddenAt h
  · refine step_eq_start ?_ hne (not_opensAfter_none line)
    rintro ⟨d, hd, hin⟩
    cases hd
    rcases hin with hin | hin
    · exact hne hin
    · omega
  · have hremark : remark? ⟨depth, ['.', '.', '.']⟩ = none := by
      simp [remark?, bailOutMark, plan?]
    rw [step_start_remark hne rfl, hremark]
    simp [step]

/-- A line that opens a block adds nothing, at the start of a stream neither. -/
theorem step_of_opens {point : Option Nat} (h : line.OpensAfter point) :
    step ⟨none, point⟩ line = (⟨some line.depth, none⟩, none) ∧ step {} line = ({}, none) := by
  have hdashes : line.text = ['-', '-', '-'] := h.1
  have hne : line.text ≠ [] := by simp [hdashes]
  have hread : TestPoint.read? line.text line.depth = none := by rw [hdashes, read?_dashes]
  have hremark : remark? line = none := by simp [remark?, hdashes, bailOutMark, plan?]
  constructor
  · rw [step_of_not_hides (not_hides_of_block rfl line), readOutside_marker h]
  · rw [step_start_remark hne hread, hremark]

/-- Below the outermost level, a line is recorded at the start of a stream exactly if it speaks; if
not, the reader is left as it was. -/
theorem step_start (hne : line.text ≠ []) (hdepth : 0 < line.depth) :
    (line.Speaks ∧ ∃ item, (step {} line).2 = some item) ∨
      (¬ line.Speaks ∧ step {} line = ({}, none)) := by
  cases hr : TestPoint.read? line.text line.depth with
  | some p =>
    left
    rw [step_of_not_hides (not_hides_of_block rfl line), readOutside_point hr]
    exact ⟨.inl (by simp [hr]), _, rfl⟩
  | none =>
    rw [step_start_remark hne hr, remark?]
    by_cases hbail : bailOutMark.isPrefixOf line.text = true
    · left
      rw [if_pos hbail]
      exact ⟨.inr hbail, _, rfl⟩
    · right
      rw [if_neg hbail, if_neg (by omega)]
      exact ⟨by simp [Line.Speaks, hr, hbail], rfl⟩

end Steps

/-! ## Two readers -/

/-- Whether a reader stands in what is left of a block of a depth: its own block is deeper, and the
point that it remembers is in the block. -/
structure Mode.Behind (m : Mode) (depth : Nat) : Prop where
  block : ∀ d ∈ m.block, depth < d
  point : ∀ d ∈ m.point, depth ≤ d

theorem Mode.Behind.start (depth : Nat) : ({} : Mode).Behind depth := ⟨nofun, nofun⟩

section Behind

variable {m : Mode} {depth : Nat} {line : Line}

/-- A line of the block leaves the reader in it. -/
theorem Mode.Behind.step (h : m.Behind depth) (hin : HiddenAt depth line) :
    (step m line).1.Behind depth := by
  rcases step_cases m line with heq | heq | ⟨⟨-, d, hd, hlt⟩, heq⟩ | ⟨p, hp, heq⟩ | ⟨-, heq⟩
  · rw [heq]
    exact h
  · rw [heq]
    exact ⟨nofun, h.point⟩
  · rw [heq]
    refine ⟨?_, nofun⟩
    intro d' hd'
    cases hd'
    exact Nat.lt_of_le_of_lt (h.point d hd) hlt
  · rw [heq]
    refine ⟨nofun, ?_⟩
    intro d' hd'
    cases hd'
    exact hin.1.resolve_left (text_ne_of_read? hp)
  · rw [heq]
    exact .start depth

/-- A line that ends the block is read as at the start of a stream. -/
theorem Mode.Behind.step_eq_start (h : m.Behind depth) (hout : ¬ HiddenAt depth line) :
    Tap.step m line = Tap.step {} line := by
  obtain ⟨hne, hle, -⟩ := of_not_hiddenAt hout
  refine Tap.step_eq_start ?_ hne ?_
  · rintro ⟨d, hd, hin⟩
    have hlt := h.block d hd
    rcases hin with hin | hin
    · exact hne hin
    · omega
  · rintro ⟨-, d, hd, hlt⟩
    have hpoint := h.point d hd
    omega

end Behind

/-- How the state of a reader of both streams follows that of a reader of the standard output. -/
inductive Follows : Mode → Mode → Prop
  /-- No noise has come between. -/
  | same (m : Mode) : Follows m m
  /-- Noise came after a point. -/
  | forgotten (point : Option Nat) : Follows ⟨none, point⟩ {}
  /-- Noise cut the block off. -/
  | uncovered {depth : Nat} {m' : Mode} : m'.Behind depth → Follows ⟨some depth, none⟩ m'

section Follows

variable {m m' : Mode} {line : Line}

theorem Mode.Tidy.eq_of_block (h : m.Tidy) {depth : Nat} (hblock : m.block = some depth) :
    m = ⟨some depth, none⟩ := by
  obtain ⟨block, point⟩ := m
  obtain rfl : block = some depth := hblock
  obtain rfl : point = none := (h depth rfl).2
  rfl

/-- A reader who starts anew follows every reader. -/
theorem Follows.start (h : m.Tidy) : Follows m {} := by
  cases hblock : m.block with
  | none =>
    obtain ⟨block, point⟩ := m
    obtain rfl : block = none := hblock
    exact .forgotten point
  | some depth =>
    rw [h.eq_of_block hblock]
    exact .uncovered (.start depth)

/-- What is hidden from the reader of both streams is hidden from the other one. -/
theorem Follows.hides (h : Follows m m') (hides : m'.Hides line) : m.Hides line := by
  cases h with
  | same => exact hides
  | forgotten point => exact absurd hides (not_hides_of_block rfl line)
  | uncovered hbehind =>
    obtain ⟨d, hd, hin⟩ := hides
    have hlt := hbehind.block d hd
    exact ⟨_, rfl, hin.imp_right (by omega)⟩

/-- A line of noise keeps the reader behind. -/
theorem Follows.noise (h : Follows m m') (hm : m.Tidy) (hnoise : line.IsNoise) :
    Follows m (step m' line).1 ∧ (step m' line).2 = none := by
  rcases step_noise m' hnoise with ⟨-, heq⟩ | ⟨-, heq⟩
  · rw [heq]
    exact ⟨h, rfl⟩
  · rw [heq]
    exact ⟨.start hm, rfl⟩

/-- A line of the standard output keeps the reader behind, and what it adds for the other one it
adds for him. -/
theorem Follows.step (h : Follows m m') (line : Line) :
    Follows (step m line).1 (step m' line).1 ∧
      (step m line).2.toList.Sublist (step m' line).2.toList := by
  cases h with
  | same => exact ⟨.same _, .refl _⟩
  | forgotten point =>
    by_cases hne : line.text = []
    · rw [step_blank _ hne, step_blank _ hne]
      exact ⟨.forgotten point, .refl _⟩
    by_cases hopens : line.OpensAfter point
    · obtain ⟨heq, hstart⟩ := step_of_opens hopens
      rw [heq, hstart]
      exact ⟨.uncovered (.start line.depth), .refl _⟩
    · rw [step_eq_start (not_hides_of_block rfl line) hne hopens]
      exact ⟨.same _, .refl _⟩
  | @uncovered depth _ hbehind =>
    by_cases hin : HiddenAt depth line
    · rw [step_of_hiddenAt hin]
      exact ⟨.uncovered (hbehind.step hin), List.nil_sublist _⟩
    · rw [step_of_not_hiddenAt hin, hbehind.step_eq_start hin]
      exact ⟨.same _, .refl _⟩

theorem Follows.scan (h : Follows m m') (ls : List Line) : (scan m ls).Sublist (scan m' ls) := by
  induction ls generalizing m m' with
  | nil => exact .refl _
  | cons line ls ih =>
    obtain ⟨hnext, hadds⟩ := h.step line
    rw [scan_cons, scan_cons]
    exact hadds.append (ih hnext)

end Follows

/-! ## Lines of both streams -/

section Arrivals

variable {m m' : Mode} {raw : List Char} {rest arrivals : List (Stream × List Char)}

@[simp] theorem outLines_out : outLines ((.out, raw) :: rest) = .of raw :: outLines rest := rfl

@[simp] theorem outLines_err : outLines ((.err, raw) :: rest) = outLines rest := rfl

@[simp] theorem allLines_cons {s : Stream} :
    allLines ((s, raw) :: rest) = .of raw :: allLines rest := rfl

@[simp] theorem noisy_out : Noisy ((.out, raw) :: rest) ↔ Noisy rest := Iff.rfl

@[simp] theorem noisy_err : Noisy ((.err, raw) :: rest) ↔ (Line.of raw).IsNoise ∧ Noisy rest :=
  List.forall_mem_cons

/-- What the standard output alone says is said among the noise, in the same order. -/
theorem Follows.sublist (h : Follows m m') (hm : m.Tidy) (hnoisy : Noisy arrivals) :
    (Tap.scan m (outLines arrivals)).Sublist (Tap.scan m' (allLines arrivals)) := by
  induction arrivals generalizing m m' with
  | nil => exact .refl _
  | cons arrival rest ih =>
    obtain ⟨s, raw⟩ := arrival
    cases s with
    | out =>
      obtain ⟨hnext, hadds⟩ := h.step (.of raw)
      rw [outLines_out, allLines_cons, scan_cons, scan_cons]
      exact hadds.append (ih hnext (hm.step _) (noisy_out.mp hnoisy))
    | err =>
      obtain ⟨hnoise, hrest⟩ := noisy_err.mp hnoisy
      obtain ⟨hnext, hadds⟩ := h.noise hm hnoise
      rw [outLines_err, allLines_cons, scan_cons, hadds]
      exact ih hnext hm hrest

/-- What is made of each line by itself is made of the lines of the standard output alone, if
nothing is made of noise. -/
theorem filterMap_allLines {α : Type} {g : Line → Option α}
    (hg : ∀ line, line.IsNoise → g line = none) (hnoisy : Noisy arrivals) :
    (allLines arrivals).filterMap g = (outLines arrivals).filterMap g := by
  induction arrivals with
  | nil => rfl
  | cons arrival rest ih =>
    obtain ⟨s, raw⟩ := arrival
    cases s with
    | out =>
      rw [outLines_out, allLines_cons, List.filterMap_cons, List.filterMap_cons,
        ih (noisy_out.mp hnoisy)]
    | err =>
      obtain ⟨hnoise, hrest⟩ := noisy_err.mp hnoisy
      rw [outLines_err, allLines_cons, List.filterMap_cons, hg _ hnoise, ih hrest]

end Arrivals

/-! ## Harm -/

section Concealed

variable {m : Mode}

theorem concealed_nil (m : Mode) : concealed m [] = [] := by
  obtain ⟨block, point⟩ := m
  cases block with
  | none => rfl
  | some depth => rfl

/-- A line either is not concealed and is read as at the start of a stream, or it adds nothing and
conceals no more and no less than the lines after it, or it is concealed. -/
theorem step_concealed (h : m.Tidy) (line : Line) (ls : List Line) :
    (concealed m (line :: ls) = [] ∧ step m line = step {} line) ∨
    (concealed m (line :: ls) = concealed (step m line).1 ls ∧ (step m line).2 = none ∧
      step {} line = ({}, none)) ∨
    (concealed m (line :: ls) = line :: concealed m ls ∧ step m line = (m, none) ∧
      line.text ≠ [] ∧ 0 < line.depth) := by
  by_cases hne : line.text = []
  · right; left
    have hskip : nonblank (line :: ls) = nonblank ls := by simp [nonblank, hne]
    rw [step_blank m hne, step_blank {} hne, concealed, hskip]
    exact ⟨rfl, rfl, rfl⟩
  have hkeep : nonblank (line :: ls) = line :: nonblank ls := by simp [nonblank, hne]
  cases hblock : m.block with
  | some depth =>
    have hpos := (h depth hblock).1
    obtain rfl := h.eq_of_block hblock
    by_cases hin : HiddenAt depth line
    · right; right
      have hle : depth ≤ line.depth := hin.1.resolve_left hne
      refine ⟨?_, step_of_hiddenAt hin, hne, by omega⟩
      simp only [concealed, hkeep, List.takeWhile_cons, hin, decide_true, if_true]
    · left
      refine ⟨?_, step_of_not_hiddenAt hin⟩
      simp only [concealed, hkeep, List.takeWhile_cons, hin, decide_false, Bool.false_eq_true,
        if_false]
  | none =>
    obtain ⟨block, point⟩ := m
    obtain rfl : block = none := hblock
    by_cases hopens : line.OpensAfter point
    · right; left
      obtain ⟨heq, hstart⟩ := step_of_opens hopens
      rw [heq, hstart]
      simp only [concealed, hkeep, if_pos hopens, and_self]
    · left
      refine ⟨?_, step_eq_start (not_hides_of_block rfl line) hne hopens⟩
      simp only [concealed, hkeep, if_neg hopens]

/-- If nothing more is recorded from the start of a stream, nothing that speaks is concealed. -/
theorem quiet_of_scan_eq (h : m.Tidy) {ls : List Line} (heq : scan {} ls = scan m ls) :
    Quiet m ls := by
  induction ls generalizing m with
  | nil =>
    rw [Quiet, concealed_nil]
    exact fun _ => nofun
  | cons line ls ih =>
    rw [scan_cons, scan_cons] at heq
    rcases step_concealed h line ls with ⟨hnone, -⟩ | ⟨hrest, hadds, hstart⟩ |
      ⟨hrest, hstep, hne, hdepth⟩
    · rw [Quiet, hnone]
      exact fun _ => nofun
    · rw [hadds, hstart] at heq
      rw [Quiet, hrest]
      exact ih (h.step line) heq
    · rw [hstep] at heq
      rw [Quiet, hrest, List.forall_mem_cons]
      rcases step_start hne hdepth with ⟨-, item, hitem⟩ | ⟨hquiet, hstart⟩
      · -- the reader who starts anew records the line, and what the other one records after it
        have hbehind : Follows m (step {} line).1 := by
          have hnext := ((Follows.start h).step line).1
          rwa [hstep] at hnext
        have hle := (hbehind.scan ls).length_le
        have hlen := congrArg List.length heq
        rw [hitem] at hlen
        simp only [List.length_append, Option.toList_some, Option.toList_none, List.length_cons,
          List.length_nil] at hlen
        omega
      · rw [hstart] at heq
        exact ⟨hquiet, ih h heq⟩

end Concealed

section Arrivals

variable {m m' : Mode} {arrivals : List (Stream × List Char)}

/-- Where noise does no harm, both readers record the same: they are in the same state, or what the
one is still to be told is of no interest. -/
theorem scan_of_spared (hm : m.Tidy) (hnoisy : Noisy arrivals) (h : Spared m arrivals)
    (hm' : m' = m ∨ m' = {} ∧ Quiet m (outLines arrivals)) :
    scan m' (allLines arrivals) = scan m (outLines arrivals) := by
  induction arrivals generalizing m m' with
  | nil => rfl
  | cons arrival rest ih =>
    obtain ⟨s, raw⟩ := arrival
    cases s with
    | out =>
      have hrest := noisy_out.mp hnoisy
      have htidy := hm.step (.of raw)
      have hspared : Spared (step m (.of raw)).1 rest := h
      rw [outLines_out, allLines_cons, scan_cons, scan_cons]
      rcases hm' with rfl | ⟨rfl, hquiet⟩
      · rw [ih htidy hrest hspared (.inl rfl)]
      rw [outLines_out, Quiet] at hquiet
      rcases step_concealed hm (.of raw) (outLines rest) with ⟨-, heq⟩ |
        ⟨hconcealed, hadds, hstart⟩ | ⟨hconcealed, hstep, hne, hdepth⟩
      · rw [← heq, ih htidy hrest hspared (.inl rfl)]
      · rw [hconcealed] at hquiet
        rw [hadds, hstart, ih htidy hrest hspared (.inr ⟨rfl, hquiet⟩)]
      · rw [hconcealed, List.forall_mem_cons] at hquiet
        rcases step_start hne hdepth with ⟨hspeaks, -⟩ | ⟨-, hstart⟩
        · exact absurd hspeaks hquiet.1
        · rw [hstep] at hspared ⊢
          rw [hstart, ih hm hrest hspared (.inr ⟨rfl, hquiet.2⟩)]
    | err =>
      obtain ⟨hnoise, hrest⟩ := noisy_err.mp hnoisy
      obtain ⟨hspares, hspared⟩ := h
      rw [outLines_err, allLines_cons, scan_cons]
      rcases hm' with rfl | ⟨rfl, hquiet⟩
      · rcases step_noise m' hnoise with ⟨-, heq⟩ | ⟨⟨hne, hides⟩, heq⟩
        · rw [heq]
          exact ih hm hrest hspared (.inl rfl)
        · have hquiet := (hspares.resolve_left hne).resolve_left hides
          rw [heq]
          exact ih hm hrest hspared (.inr ⟨rfl, hquiet⟩)
      · have heq : step {} (.of raw) = ({}, none) := by
          rcases step_noise {} hnoise with ⟨-, heq⟩ | ⟨-, heq⟩
          · exact heq
          · exact heq
        rw [heq]
        exact ih hm hrest hspared (.inr ⟨rfl, hquiet⟩)

/-- Where both readers record the same, noise has done no harm. -/
theorem spared_of_scan_eq (hm : m.Tidy) (hnoisy : Noisy arrivals) (h : Follows m m')
    (heq : scan m' (allLines arrivals) = scan m (outLines arrivals)) : Spared m arrivals := by
  induction arrivals generalizing m m' with
  | nil => trivial
  | cons arrival rest ih =>
    obtain ⟨s, raw⟩ := arrival
    cases s with
    | out =>
      have hrest := noisy_out.mp hnoisy
      obtain ⟨hnext, hadds⟩ := h.step (.of raw)
      rw [outLines_out, allLines_cons, scan_cons, scan_cons] at heq
      have hle := (hnext.sublist (hm.step _) hrest).length_le
      have hlen := congrArg List.length heq
      rw [List.length_append, List.length_append] at hlen
      have hfirst := hadds.eq_of_length_le (by omega)
      rw [hfirst] at heq
      exact ih (hm.step _) hrest hnext (List.append_cancel_left heq)
    | err =>
      obtain ⟨hnoise, hrest⟩ := noisy_err.mp hnoisy
      obtain ⟨hnext, hadds⟩ := h.noise hm hnoise
      rw [outLines_err, allLines_cons, scan_cons, hadds] at heq
      have hspared := ih hm hrest hnext heq
      rcases step_noise m' hnoise with ⟨hkept, -⟩ | ⟨-, hcut⟩
      · exact ⟨hkept.imp_right fun hides => .inl (h.hides hides), hspared⟩
      · -- what is recorded from the start of the rest lies between what both readers record
        rw [hcut] at heq
        have hlow := (Follows.start hm).scan (outLines rest)
        have hhigh := (Follows.same {}).sublist (Mode.tidy_of_block rfl) hrest
        have hstart := hlow.antisymm (heq ▸ hhigh)
        exact ⟨.inr (.inr (quiet_of_scan_eq hm hstart.symm)), hspared⟩

/-- Noise does no harm exactly if the same is recorded with it as without it. -/
theorem spared_iff_scan_eq (hnoisy : Noisy arrivals) :
    Spared {} arrivals ↔ scan {} (allLines arrivals) = scan {} (outLines arrivals) := by
  have htidy : ({} : Mode).Tidy := Mode.tidy_of_block rfl
  constructor
  · intro h
    exact scan_of_spared htidy hnoisy h (.inl rfl)
  · exact spared_of_scan_eq htidy hnoisy (.same {})

/-- What is said at the outermost level is said among noise as without it. -/
theorem filterMap_scan_allLines {α : Type} {f : Item → Option α} {g : Line → Option α}
    (hstep : ∀ (m : Mode) (last : Option Nat) (line : Line), m.Sound last →
      (step m line).2.bind f = g line)
    (hg : ∀ line, line.IsNoise → g line = none) (hnoisy : Noisy arrivals) :
    (scan {} (allLines arrivals)).filterMap f = (scan {} (outLines arrivals)).filterMap f := by
  rw [filterMap_scan hstep (Mode.Sound.start none), filterMap_scan hstep (Mode.Sound.start none),
    filterMap_allLines hg hnoisy]

end Arrivals

theorem Line.IsNoise.outerPoint? {line : Line} (h : line.IsNoise) : line.outerPoint? = none := by
  unfold Line.outerPoint?
  split
  · next hdepth => rw [← hdepth, h.noPoint]
  · rfl

theorem Line.IsNoise.outerPlan? {line : Line} (h : line.IsNoise) : line.outerPlan? = none := by
  unfold Line.outerPlan?
  rw [h.noPlan, ite_self]

end TapSuite.Tap

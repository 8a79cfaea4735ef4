import TapSuite.Proofs.Tap.Line
import TapSuite.Proofs.Tap.PointText

/-!
# Printed lines

What the reader makes of the lines that printing writes, after any indentation.

    Reads ls items     lines that give these items wherever no block is open, and leave none open

Printed points, plans, bail outs and comments are such lines, and so are such lines one after the
other.  A report is made up of the items of its lines.
-/

namespace TapSuite.Tap

open Text

/-! ## Lines that stand on their own -/

/-- Whether lines give some items wherever no block is open, and leave none open. -/
def Reads (ls : List Line) (items : List Item) : Prop :=
  ∀ m : Mode, m.block = none → scan m ls = items ∧ (modeAfter m ls).block = none

theorem Reads.nil : Reads [] [] := fun _ hm => ⟨rfl, hm⟩

theorem Reads.append {a b : List Line} {x y : List Item} (ha : Reads a x) (hb : Reads b y) :
    Reads (a ++ b) (x ++ y) := by
  intro m hm
  obtain ⟨hscan, hmode⟩ := ha m hm
  obtain ⟨hscan', hmode'⟩ := hb _ hmode
  rw [scan_append, modeAfter_append, hscan, hscan']
  exact ⟨rfl, hmode'⟩

theorem Reads.cons {line : Line} {ls : List Line} {x y : List Item} (h : Reads [line] x)
    (hs : Reads ls y) : Reads (line :: ls) (x ++ y) :=
  h.append hs

/-- A point stands on its own. -/
theorem Reads.point {line : Line} {p : TestPoint}
    (h : TestPoint.read? line.text line.depth = some p) : Reads [line] [.point p] := by
  intro m hm
  rw [scan_cons, modeAfter_cons, step_of_not_hides (not_hides_of_block hm line),
    readOutside_point h]
  exact ⟨rfl, rfl⟩

/-- So does any other line that cannot open a block. -/
theorem Reads.remark {line : Line} (hne : line.text ≠ []) (hm : line.text ≠ ['-', '-', '-'])
    (h : TestPoint.read? line.text line.depth = none) : Reads [line] (remark? line).toList := by
  intro m hblock
  rw [scan_cons, modeAfter_cons, step_of_not_hides (not_hides_of_block hblock line),
    readOutside_remark hne (fun hmarker => hm hmarker.1) h]
  exact ⟨by simp, rfl⟩

/-! ## Reports -/

/-- The report of lines that stand on their own. -/
theorem Reads.parse_eq {raws : List (List Char)} {items : List Item}
    (h : Reads (raws.map Line.of) items) (hfeed : ∀ raw ∈ raws, '\n' ∉ raw) :
    parse (String.ofList (unlines raws)) = Report.ofItems items := by
  rw [parse, String.toList_ofList, ← scan_nonblank, nonblank_linesOf_unlines hfeed, scan_nonblank,
    (h {} rfl).1]

/-- What the lines of a report are read as. -/
def Report.items (r : Report) : List Item :=
  r.points.map .point ++ (r.plan.map .plan).toList ++ if r.bailedOut then [.bailOut] else []

/-- The items of a report make it up again. -/
theorem ofItems_items (r : Report) : Report.ofItems r.items = r := by
  obtain ⟨points, plan, bailedOut⟩ := r
  have hpoints : (points.map Item.point).filterMap Item.point? = points := by
    induction points with
    | nil => rfl
    | cons p points ih =>
      have hp : Item.point? (.point p) = some p := rfl
      rw [List.map_cons, List.filterMap_cons_some hp, ih]
  have hplans : (points.map Item.point).filterMap Item.plan? = [] := by
    simp [List.filterMap_eq_nil_iff, Item.plan?]
  have hbail : Item.bailOut ∉ points.map Item.point := by simp
  have hnone : [Item.bailOut].filterMap Item.plan? = [] := rfl
  cases plan <;> cases bailedOut <;>
    simp [Report.ofItems, Report.items, hpoints, hplans, hbail, hnone, Item.point?, Item.plan?]

/-! ## Indentation -/

theorem isBlank_of_mem_spaces {depth : Nat} {c : Char} (h : c ∈ spaces depth) :
    isBlank c = true := by
  rw [List.eq_of_mem_replicate h]
  decide

theorem width_spaces (depth : Nat) : width (spaces depth) = depth := by
  induction depth with
  | zero => rfl
  | succ depth ih =>
    have hsize : (' ' : Char).utf8Size = 1 := rfl
    rw [spaces, List.replicate_succ, width_cons, ← spaces, ih, hsize]
    omega

/-! ## Points -/

theorem first_text (p : TestPoint) : ∀ c ∈ p.text.head?, isBlank c = false := by
  intro c hc
  obtain ⟨ok, number, description, directive, depth⟩ := p
  cases ok
  · obtain rfl : 'n' = c := by simpa [TestPoint.text, verdictWord] using hc
    decide
  · obtain rfl : 'o' = c := by simpa [TestPoint.text, verdictWord] using hc
    decide

theorem reads_point {a : List Char} (ha : ∀ c ∈ a, isBlank c = true) {p : TestPoint}
    (h : Trimmed p.description.toList) :
    Reads [Line.of (a ++ p.text)] [.point { p with depth := width a }] := by
  apply Reads.point
  rw [Line.of_indented ha (first_text p)]
  exact read?_text h (width a)

theorem not_mem_digitsOf (n : Nat) : '\n' ∉ digitsOf n := by
  intro h
  have hdigit := isDigit_of_mem_digitsOf h
  revert hdigit
  decide

theorem mem_escapeHash {c : Char} {t : List Char} (h : c ∈ escapeHash t) :
    c = '\\' ∨ c ∈ t := by
  induction t with
  | nil => cases h
  | cons d t ih =>
    rw [escapeHash] at h
    split at h
    · next hd =>
      rcases List.mem_cons.mp h with rfl | h
      · exact .inl rfl
      · rcases List.mem_cons.mp h with rfl | h
        · exact .inr (by rw [hd]; exact List.mem_cons_self)
        · exact (ih h).imp_right (List.mem_cons_of_mem _)
    · rcases List.mem_cons.mp h with rfl | h
      · exact .inr List.mem_cons_self
      · exact (ih h).imp_right (List.mem_cons_of_mem _)

/-- A point is printed on one line. -/
theorem not_mem_text {p : TestPoint} (h : '\n' ∉ p.description.toList) : '\n' ∉ p.text := by
  have hverdict : '\n' ∉ verdictWord p.ok := by cases p.ok <;> decide
  have hnumber : '\n' ∉ numberField p.number := by
    cases p.number with
    | none => simp [numberField]
    | some n => simp [numberField, not_mem_digitsOf]
  have hdescription : '\n' ∉ escapeHash p.description.toList := by
    intro hm
    rcases mem_escapeHash hm with e | hm
    · cases e
    · exact h hm
  have hdirective : '\n' ∉ directiveField p.directive := by
    cases p.directive with
    | none => simp [directiveField]
    | some d => cases d <;> decide
  simp [TestPoint.text, hverdict, hnumber, hdescription, hdirective]

/-! ## Plans, bail outs, comments -/

theorem first_planLine (n : Nat) : ∀ c ∈ (planLine n).head?, isBlank c = false := by
  intro c hc
  obtain rfl : '1' = c := by simpa [planLine] using hc
  decide

theorem trimEnd_planLine (n : Nat) : trimEnd (planLine n) = planLine n := by
  have hmark : ['1', '.', '.'].all (!isBlank ·) = true := by decide
  apply trimEnd_of_last
  intro c hc
  have hmem : c ∈ planLine n := List.mem_of_getLast? hc
  rcases List.mem_append.mp hmem with hm | hm
  · simpa using List.all_eq_true.mp hmark c hm
  · exact not_isBlank_of_isDigit (isDigit_of_mem_digitsOf hm)

theorem plan?_planLine (n : UInt64) : plan? (planLine n.toNat) = some n := by
  have htake := (takeWhile_digitsOf n.toNat (t := []) rfl).1
  rw [List.append_nil] at htake
  show number? ((digitsOf n.toNat).takeWhile Char.isDigit) = some n
  rw [htake, number?_digitsOf]

/-- A plan counts at the outermost level and is passed over elsewhere. -/
theorem reads_plan {a : List Char} (ha : ∀ c ∈ a, isBlank c = true) (n : Nat) :
    Reads [Line.of (a ++ planLine n)]
      (if width a = 0 then (plan? (planLine n)).map Item.plan else none).toList := by
  have hbail : ¬ bailOutMark.isPrefixOf (planLine n) := by simp [bailOutMark, planLine]
  have hline : Line.of (a ++ planLine n) = ⟨width a, planLine n⟩ := by
    rw [Line.of_indented ha (first_planLine n), trimEnd_planLine]
  have hread : Reads [⟨width a, planLine n⟩] (remark? ⟨width a, planLine n⟩).toList := by
    refine Reads.remark (by simp [planLine]) ?_ rfl
    intro e
    cases e
  rw [remark?, if_neg hbail] at hread
  rw [hline]
  exact hread

theorem reads_bailOut : Reads [Line.of bailOutMark] [.bailOut] := by
  have hline : Line.of bailOutMark = ⟨0, bailOutMark⟩ := by decide
  rw [hline]
  exact Reads.remark (by decide) (by decide) rfl

/-- A comment is passed over. -/
theorem reads_comment {a : List Char} (ha : ∀ c ∈ a, isBlank c = true) (t : List Char) :
    Reads [Line.of (a ++ '#' :: t)] [] := by
  have hhash : isBlank '#' = false := by decide
  have hline : Line.of (a ++ '#' :: t) = ⟨width a, '#' :: trimEnd t⟩ := by
    rw [Line.of_indented ha (by simpa using hhash)]
    congr 1
    exact trimEnd_append_cons hhash [] t
  have hremark : remark? ⟨width a, '#' :: trimEnd t⟩ = none := by
    rw [remark?, if_neg (by simp [bailOutMark])]
    split <;> rfl
  have hread : Reads [⟨width a, '#' :: trimEnd t⟩] (remark? ⟨width a, '#' :: trimEnd t⟩).toList := by
    refine Reads.remark (by simp) ?_ rfl
    intro e
    cases e
  rw [hremark] at hread
  rw [hline]
  exact hread

end TapSuite.Tap

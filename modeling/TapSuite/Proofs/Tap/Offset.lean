import TapSuite.Proofs.Tap.Comment
import TapSuite.Proofs.Tap.Concatenation
import TapSuite.Proofs.Tap.Directive
import TapSuite.Proofs.Tap.PointText

/-!
# Reading by offsets is reading by characters

No cut that the reader makes is refused, whatever the stream holds, and its report is the one that
the characters give.

    TestPoint.readByOffsets? line depth = some (TestPoint.read? line depth)    (readByOffsets?_eq)
    stepByOffsets? adds to a report what step adds to the items                (stepByOffsets?_eq)
    parseByOffsets? text = some (parse text)                                  (parseByOffsets?_eq)

The cuts are at widths of texts: at the end of the digits, and at the comment, which the bytes show.
-/

namespace TapSuite.Tap

open Text

/-! ## Fields -/

/-- The digits end at a boundary. -/
theorem cutAt?_digitsEnd (t : List Char) :
    cutAt? (digitsEnd t) t = some (t.takeWhile Char.isDigit, t.dropWhile Char.isDigit) := by
  have hend : digitsEnd t = width (t.takeWhile Char.isDigit) := by
    rw [digitsEnd, findOffset?_getD]
    simp only [Bool.not_not]
  have hcut := cutAt?_width (t.takeWhile Char.isDigit) (t.dropWhile Char.isDigit)
  rwa [List.takeWhile_append_dropWhile, ← hend] at hcut

/-- The description and the comment are cut apart as the characters have it. -/
theorem fieldsByOffsets?_eq (body : List Char) :
    fieldsByOffsets? body =
      some ((cutComment false body).1, (cutComment false body).2.bind directive?) := by
  obtain ⟨found, hfound, hfinds⟩ := commentOffset?_finds body
  unfold fieldsByOffsets?
  rw [hfound]
  cases hcut : cutComment false body with
  | mk before after =>
    cases after with
    | none =>
      obtain ⟨rfl, hnone⟩ := noComment_cutComment hcut
      rw [hfinds.none_iff.mpr hnone]
      rfl
    | some after =>
      have hat := commentAt_cutComment hcut
      have hdescription : before? (width before) body = some before := by
        rw [before?, hat.cutAt?_hash]
        rfl
      have hcomment : after? (width before + 1) body = some after := by
        rw [after?, hat.cutAt?_comment]
        rfl
      rw [(hfinds.some_iff _).mpr ⟨before, after, hat, rfl⟩]
      simp only [Option.bind_eq_bind, Option.bind_some, hdescription, hcomment,
        directiveByOffsets?_eq]
      rfl

theorem pointByOffsets?_eq (ok : Bool) (fields : List Char) (depth : Nat) :
    pointByOffsets? ok fields depth = some (pointOf ok fields depth) := by
  unfold pointByOffsets? pointOf
  simp only [before?, after?, cutAt?_digitsEnd, Option.map_some, Option.bind_eq_bind,
    Option.bind_some, fieldsByOffsets?_eq]
  rfl

/-! ## Lines -/

/-- Whatever a line holds, no cut of a point is refused. -/
theorem readByOffsets?_eq (line : List Char) (depth : Nat) :
    TestPoint.readByOffsets? line depth = some (TestPoint.read? line depth) := by
  unfold TestPoint.readByOffsets? TestPoint.read?
  cases verdict? line with
  | none => rfl
  | some verdict =>
    obtain ⟨ok, fields⟩ := verdict
    simp only [pointByOffsets?_eq, Option.map_some]
    split <;> rfl

/-- Whatever a line holds, the cut of a plan is not refused. -/
theorem planByOffsets?_eq (line : List Char) : planByOffsets? line = some (plan? line) := by
  fun_cases plan? line with
  | case1 rest =>
    rw [planByOffsets?, before?, cutAt?_digitsEnd]
    rfl
  | case2 line hno =>
    unfold planByOffsets?
    split
    · next rest => exact absurd rfl (hno rest)
    · rfl

/-- What is left of a line without its indentation is no wider than the line. -/
theorem Line.byOffsets?_eq (raw : List Char) : Line.byOffsets? raw = some (Line.of raw) := by
  have hwidth : width raw = width (indent raw) + width (trimStart raw) := by
    rw [← width_append, indent_append_trimStart]
  unfold Line.byOffsets? Line.of
  simp only [length_encode]
  rw [if_pos (by omega), hwidth, Nat.add_sub_cancel_right]

/-! ## Directives of lines -/

/-- Whether a character can stand in what the reader of a point passes over before the
description. -/
def IsPassed (c : Char) : Prop :=
  isBlank c = true ∨ c.isDigit = true ∨ c ∈ ['n', 'o', 't', 'k', '-']

/-- Whether a text ends with another, and the reader of a point can pass over what is before it. -/
def PassesTo (t body : List Char) : Prop :=
  ∃ passed, t = passed ++ body ∧ ∀ c ∈ passed, IsPassed c

theorem PassesTo.trans {s t u : List Char} (h : PassesTo s t) (k : PassesTo t u) :
    PassesTo s u := by
  obtain ⟨a, rfl, ha⟩ := h
  obtain ⟨b, rfl, hb⟩ := k
  exact ⟨a ++ b, (List.append_assoc a b u).symm, List.forall_mem_append.mpr ⟨ha, hb⟩⟩

theorem passesTo_of_verdict? {line fields : List Char} {ok : Bool}
    (h : verdict? line = some (ok, fields)) : PassesTo line fields := by
  unfold verdict? at h
  split at h
  · cases h
    exact ⟨['n', 'o', 't', ' ', 'o', 'k'], rfl, by simp [IsPassed, isBlank]⟩
  · cases h
    exact ⟨['o', 'k'], rfl, by simp [IsPassed]⟩
  · cases h

theorem passesTo_trimStart (t : List Char) : PassesTo t (trimStart t) :=
  ⟨indent t, (indent_append_trimStart t).symm, fun _ hc => .inl (List.mem_takeWhile_imp hc)⟩

theorem passesTo_dropDigits (t : List Char) : PassesTo t (t.dropWhile Char.isDigit) :=
  ⟨t.takeWhile Char.isDigit, List.takeWhile_append_dropWhile.symm,
    fun _ hc => .inr (.inl (List.mem_takeWhile_imp hc))⟩

theorem passesTo_dropDash (t : List Char) : PassesTo t (dropDash t) := by
  unfold dropDash
  split
  · exact ⟨['-'], rfl, by simp [IsPassed]⟩
  · exact ⟨[], rfl, List.forall_mem_nil _⟩

/-- The description and the comment of a point are found behind its verdict, its number and its
dash. -/
theorem exists_body {line : List Char} {depth : Nat} {p : TestPoint}
    (h : TestPoint.read? line depth = some p) :
    ∃ body, PassesTo line body ∧ p.directive = (cutComment false body).2.bind directive? := by
  unfold TestPoint.read? at h
  split at h
  · cases h
  · next ok fields hverdict =>
    split at h
    · cases h
      have hfields : PassesTo line (trimStart fields) :=
        (passesTo_of_verdict? hverdict).trans (passesTo_trimStart fields)
      have hrest := hfields.trans (passesTo_dropDigits (trimStart fields))
      exact ⟨_, (hrest.trans (passesTo_trimStart _)).trans (passesTo_dropDash _), rfl⟩
    · cases h

/-- A point has a directive exactly if the comment of its line starts with the word of one. -/
theorem directive_iff {line : List Char} {depth : Nat} {p : TestPoint}
    (h : TestPoint.read? line depth = some p) (d : Directive) :
    p.directive = some d ↔ ∃ before after, CommentAt line before after ∧
      StartsWith d.word after := by
  obtain ⟨body, ⟨passed, rfl, hpassed⟩, hdirective⟩ := exists_body h
  have hhash : '#' ∉ passed := fun hmem => absurd (hpassed _ hmem) (by unfold IsPassed; decide)
  have hslash : '\\' ∉ passed := fun hmem => absurd (hpassed _ hmem) (by unfold IsPassed; decide)
  have hbody : p.directive = some d ↔ ∃ after, (∃ before, CommentAt body before after) ∧
      StartsWith d.word after := by
    rw [hdirective]
    simp only [Option.bind_eq_some_iff, directive?_eq_some_iff, ← cutComment_eq_iff]
    constructor
    · rintro ⟨after, hafter, hword⟩
      exact ⟨after, ⟨_, Prod.ext rfl hafter⟩, hword⟩
    · rintro ⟨after, ⟨before, hcut⟩, hword⟩
      exact ⟨after, by rw [hcut], hword⟩
  rw [hbody]
  constructor
  · rintro ⟨after, hafter, hword⟩
    obtain ⟨before, hat⟩ := (commentAt_append_iff hhash hslash).mpr hafter
    exact ⟨before, after, hat, hword⟩
  · rintro ⟨before, after, hat, hword⟩
    exact ⟨after, (commentAt_append_iff hhash hslash).mp ⟨before, hat⟩, hword⟩

/-! ## Streams -/

theorem Report.add_eq (r : Report) (item : Item) : r.add item = r ++ Report.ofItems [item] := by
  show _ = Report.mk _ _ _
  cases item <;> simp [Report.add, Report.ofItems, Item.point?, Item.plan?]

theorem remarkByOffsets?_eq (r : Report) (line : Line) :
    remarkByOffsets? r line = some (r ++ Report.ofItems (remark? line).toList) := by
  unfold remarkByOffsets? remark?
  split
  · exact congrArg some (r.add_eq .bailOut)
  split
  · rw [planByOffsets?_eq]
    cases plan? line.text with
    | none => exact congrArg some r.append_ofItems_nil.symm
    | some n => exact congrArg some (r.add_eq (.plan n))
  · exact congrArg some r.append_ofItems_nil.symm

theorem outsideByOffsets?_eq (point : Option Nat) (r : Report) (line : Line) :
    outsideByOffsets? point r line = some ((readOutside point line).1,
      r ++ Report.ofItems (readOutside point line).2.toList) := by
  have hnothing : r ++ Report.ofItems (none : Option Item).toList = r := r.append_ofItems_nil
  unfold outsideByOffsets? readOutside
  split
  · rw [hnothing]
  · rw [readByOffsets?_eq]
    simp only [Option.bind_eq_bind, Option.bind_some]
    cases TestPoint.read? line.text line.depth with
    | some p => exact congrArg (fun r => some (_, r)) (r.add_eq (.point p))
    | none =>
      simp only [remarkByOffsets?_eq, Option.bind_some]
      split
      · rw [hnothing]
        rfl
      · rfl

/-- A line changes the reader's state as it does by characters, and it adds the same to the
report. -/
theorem stepByOffsets?_eq (m : Mode) (r : Report) (raw : List Char) :
    stepByOffsets? (m, r) raw =
      some ((step m (.of raw)).1, r ++ Report.ofItems (step m (.of raw)).2.toList) := by
  have hnothing : r ++ Report.ofItems (none : Option Item).toList = r := r.append_ofItems_nil
  unfold stepByOffsets? step
  rw [Line.byOffsets?_eq]
  simp only [Option.bind_eq_bind, Option.bind_some, outsideByOffsets?_eq]
  cases m.block with
  | none => rfl
  | some depth =>
    unfold staysInside
    simp only
    split
    · rw [hnothing]
      rfl
    split
    · rw [hnothing]
      rfl
    · rfl

/-- Line by line the two readers keep the same state and come to the same report. -/
theorem foldlM_stepByOffsets? (m : Mode) (r : Report) (raws : List (List Char)) :
    raws.foldlM stepByOffsets? (m, r) =
      some (modeAfter m (raws.map Line.of), r ++ Report.ofItems (scan m (raws.map Line.of))) := by
  induction raws generalizing m r with
  | nil =>
    show some (m, r) = some (m, r ++ Report.ofItems [])
    rw [r.append_ofItems_nil]
  | cons raw raws ih =>
    rw [List.foldlM_cons, stepByOffsets?_eq, Option.bind_eq_bind, Option.bind_some, ih,
      List.map_cons, scan_cons, ofItems_append, ← Report.append_assoc]
    rfl

theorem parseByOffsets?_eq (text : String) : parseByOffsets? text = some (parse text) := by
  rw [parseByOffsets?, foldlM_stepByOffsets?, Report.ofItems_start]
  rfl

/-! ## Cuts that keep to the characters -/

/-- A text is cut exactly at its boundaries, into the bytes on either side.  The search for a
comment looks at no byte beyond the end and finds the first bare `#`, between two boundaries.  A
comment has a directive exactly if it starts with the word of one, and none if it cannot be cut
after four bytes.  So whatever a line holds, no cut of a point or of a plan is refused, and the
point has the directive whose word its comment starts with; and whatever a stream holds, reading it
by offsets ends with the report that its characters give. -/
theorem parse_byOffsets :
    (∀ t n, (cutAt? n t).isSome = isBoundary (Utf8.encode t) n ∧
      ∀ a b, cutAt? n t = some (a, b) → t = a ++ b ∧
        Utf8.encode a = (Utf8.encode t).take n ∧ Utf8.encode b = (Utf8.encode t).drop n) ∧
    (∀ t, ∃ found, commentOffset? t = some found ∧ FindsComment t found ∧
      ∀ n, found = some n →
        isBoundary (Utf8.encode t) n = true ∧ isBoundary (Utf8.encode t) (n + 1) = true) ∧
    (∀ comment, (∀ d, directiveByOffsets? comment = some d ↔ StartsWith d.word comment) ∧
      (isBoundary (Utf8.encode (trimStart comment)) 4 = false →
        directiveByOffsets? comment = none)) ∧
    (∀ line depth, TestPoint.readByOffsets? line depth = some (TestPoint.read? line depth) ∧
      ∀ p, TestPoint.read? line depth = some p → ∀ d, p.directive = some d ↔
        ∃ before after, CommentAt line before after ∧ StartsWith d.word after) ∧
    (∀ line, planByOffsets? line = some (plan? line)) ∧
    ∀ text, parseByOffsets? text = some (parse text) := by
  refine ⟨fun t n => ⟨isSome_cutAt? n t, fun a b hcut => ?_⟩, fun t => ?_, fun comment => ?_,
    fun line depth => ?_, planByOffsets?_eq, parseByOffsets?_eq⟩
  · exact ⟨(cutAt?_eq_some_iff.mp hcut).1, encode_of_cutAt? hcut⟩
  · obtain ⟨found, hfound, hfinds⟩ := commentOffset?_finds t
    refine ⟨found, hfound, hfinds, fun n hn => ?_⟩
    obtain ⟨before, after, hat, rfl⟩ := (hfinds.some_iff n).mp hn
    rw [← isSome_cutAt?, ← isSome_cutAt?, hat.cutAt?_hash, hat.cutAt?_comment]
    exact ⟨rfl, rfl⟩
  · exact ⟨fun d => directiveByOffsets?_eq_some_iff, directiveByOffsets?_of_not_boundary⟩
  · exact ⟨readByOffsets?_eq line depth, fun p hp d => directive_iff hp d⟩

/-- A line with wide characters, an escaped `#` and a word in two cases, and a comment whose fourth
byte lies inside a character. -/
theorem parse_byOffsets_wide :
    let line := "ok 1 - é\\#x#\u3000tODo…".toList
    let p : TestPoint := ⟨true, some 1, "é#x", some .todo, 0⟩
    let a := "ok 1 - é\\#x".toList
    let b := "#\u3000tODo…".toList
    let comment := " SKIé".toList
    cutAt? 12 line = some (a, b) ∧ Utf8.encode a = (Utf8.encode line).take 12 ∧
      commentOffset? line = some (some 12) ∧ isBoundary (Utf8.encode line) 13 = true ∧
      isBoundary (Utf8.encode (trimStart comment)) 4 = false ∧
      directiveByOffsets? comment = none ∧
      TestPoint.read? line 0 = some p ∧ TestPoint.readByOffsets? line 0 = some (some p) ∧
      (∃ before after, CommentAt line before after ∧ StartsWith Directive.todo.word after) ∧
      parseByOffsets? (String.ofList line) = some ⟨[p], none, false⟩ := by
  intro line p a b comment
  obtain ⟨hcuts, hsearch, hdirectives, hpoints, -, hparse⟩ := parse_byOffsets
  have hcut : cutAt? 12 line = some (a, b) := by decide
  have hoffset : commentOffset? line = some (some 12) := by decide
  have hinside : isBoundary (Utf8.encode (trimStart comment)) 4 = false := by decide
  have hpoint : TestPoint.read? line 0 = some p := by decide
  have hreport : parse (String.ofList line) = ⟨[p], none, false⟩ := by decide
  obtain ⟨found, hfound, -, hboundary⟩ := hsearch line
  obtain rfl := Option.some.inj (hfound.symm.trans hoffset)
  obtain ⟨hread, hdirective⟩ := hpoints line 0
  exact ⟨hcut, ((hcuts line 12).2 a b hcut).2.1, hoffset, (hboundary 12 rfl).2, hinside,
    (hdirectives comment).2 hinside, hpoint, hread.trans (congrArg some hpoint),
    (hdirective p hpoint .todo).mp rfl, (hparse _).trans (congrArg some hreport)⟩

end TapSuite.Tap

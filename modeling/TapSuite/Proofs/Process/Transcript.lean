import TapSuite.Proofs.Process.Capture
import TapSuite.Proofs.Tap.Layout

/-!
# What a reader appends

A reader decodes its stream line by line.  What it appends in the end, whatever the other reader
does meanwhile, is the text of the whole stream decoded at once.

    c.appended s schedule = decodedText (the stream of s)      once both readers are done
    segments '\n' (decodedText bs) = (rawLines bs).map (cutReturns ∘ lossy)
    parse (decodedText bs) = parse (lossy bs)                              (captured_eq_decodedText)

So bytes that write no character spoil no line but their own, and nothing that a reader does to a
line shows in the report.
-/

namespace TapSuite.Process

open Text

/-! ## Texts of streams -/

/-- The text without the carriage returns at its end. -/
def cutReturns (t : List Char) : List Char := (t.reverse.dropWhile (· = '\r')).reverse

/-- A stream decoded at once, its lines without the carriage returns at their ends and with one
line feed after each of them. -/
def decodedText (stream : Bytes) : List Char :=
  unlines ((segments '\n' (Utf8.lossy stream)).map cutReturns)

/-- Where there is no line feed, only carriage returns end a line. -/
theorem cutLineEnds_of_not_mem {t : List Char} (h : '\n' ∉ t) : cutLineEnds t = cutReturns t := by
  have hdrop : ∀ l : List Char, '\n' ∉ l → l.dropWhile isLineEnd = l.dropWhile (· = '\r') := by
    intro l hl
    induction l with
    | nil => rfl
    | cons c l ih =>
      have hc : c ≠ '\n' := fun e => hl (e ▸ List.mem_cons_self)
      have hend : isLineEnd c = decide (c = '\r') := by simp [isLineEnd, hc]
      rw [List.dropWhile_cons, List.dropWhile_cons, hend,
        ih fun hm => hl (List.mem_cons_of_mem _ hm)]
  rw [cutLineEnds, cutReturns, hdrop _ fun hm => h (List.mem_reverse.mp hm)]

theorem exists_cutReturns_append (t : List Char) :
    ∃ b, (∀ c ∈ b, isBlank c = true) ∧ t = cutReturns t ++ b := by
  refine ⟨(t.reverse.takeWhile (· = '\r')).reverse, ?_, ?_⟩
  · intro c hc
    have hreturn := List.all_eq_true.mp List.all_takeWhile c (List.mem_reverse.mp hc)
    obtain rfl : c = '\r' := of_decide_eq_true hreturn
    rfl
  · rw [cutReturns, ← List.reverse_append, List.takeWhile_append_dropWhile, List.reverse_reverse]

theorem trimEnd_cutReturns (t : List Char) : trimEnd (cutReturns t) = trimEnd t := by
  obtain ⟨b, hb, ht⟩ := exists_cutReturns_append t
  conv => rhs; rw [ht]
  rw [trimEnd_append hb]

theorem wholeText_eq_decodedText (stream : Bytes) : wholeText stream = decodedText stream := by
  unfold wholeText decodedText
  congr 1
  refine List.map_congr_left fun line hline => ?_
  exact cutLineEnds_of_not_mem (not_mem_of_mem_segments _ _ _ hline)

/-- Every line of the decoded text is the text of one raw line, decoded by itself. -/
theorem segments_decodedText (stream : Bytes) :
    segments '\n' (decodedText stream) =
      (rawLines stream).map fun raw => cutReturns (Utf8.lossy raw) := by
  rw [← wholeText_eq_decodedText, ← unlines_lineTexts, segments_unlines not_mem_lineTexts]
  refine List.map_congr_left fun raw hraw => ?_
  have hfeed : lineFeed ∉ raw := not_mem_of_mem_segments _ _ _ hraw
  exact cutLineEnds_of_not_mem fun hm => hfeed (Utf8.lineFeed_mem_of_mem_lossy hm)

/-- Carriage returns at the ends of lines do not write anything. -/
theorem writtenLines_decodedText (stream : Bytes) :
    writtenLines (decodedText stream) = writtenLines (Utf8.lossy stream) := by
  have hlines : segments '\n' (decodedText stream) =
      (segments '\n' (Utf8.lossy stream)).map cutReturns := by
    rw [segments_decodedText, segments_lossy, List.map_map]
    rfl
  rw [writtenLines, writtenLines, hlines, List.map_map]
  congr 2
  exact funext trimEnd_cutReturns

/-! ## One reader -/

/-- The text that a reader has yet to append. -/
def Reader.owes (r : Reader) : List Char := unlines (r.left [])

theorem Reader.left_unended {r : Reader} (h : r.phase = .unended) (u : List Char) :
    r.left u = u :: lineTexts r.unread := by
  unfold Reader.left
  rw [h]

/-- A step of a reader takes from what it owes what it appends. -/
theorem Reader.owes_step (free : Bool) (r : Reader) :
    r.owes = (r.step free).2 ++ (r.step free).1.owes := by
  unfold Reader.owes
  rcases Reader.step_cases free r with ⟨-, -, htext, hleft⟩ | ⟨-, -, hafter, hleft⟩ |
    ⟨-, -, htext, hleft⟩
  · rw [htext, hleft, List.nil_append]
  · rw [← hleft, Reader.left_unended hafter, Reader.left_unended hafter, unlines_cons, unlines_cons]
    rfl
  · rw [hleft [] [], htext, unlines_cons]
    rfl

/-! ## Runs -/

/-- What the reader of a stream appends in the steps of a schedule. -/
def Capture.appended (c : Capture) (s : Stream) : List Stream → List Char
  | [] => []
  | turn :: rest =>
    (if turn = s then (c.stepped turn).2 else []) ++ (c.step turn).appended s rest

/-- A run takes from what a reader owes what this reader appends. -/
theorem Capture.owes_run (c : Capture) (s : Stream) (schedule : List Stream) :
    (c.reader s).owes = c.appended s schedule ++ ((c.run schedule).reader s).owes := by
  induction schedule generalizing c with
  | nil => rfl
  | cons turn rest ih =>
    obtain ⟨hself, hother⟩ := c.reader_step turn
    have hrun : c.run (turn :: rest) = (c.step turn).run rest := rfl
    rw [Capture.appended, hrun, List.append_assoc, ← ih]
    rcases eq_or_eq_other turn s with rfl | rfl
    · rw [if_pos rfl, hself]
      exact Reader.owes_step _ _
    · have hne : turn ≠ turn.other := by cases turn <;> decide
      rw [if_neg hne, hother, List.nil_append]

/-- Where the other reader owes nothing, the text grows by what the one reader appends. -/
theorem Capture.text_run {c : Capture} {s : Stream} (h : (c.reader s.other).owes = [])
    (schedule : List Stream) : (c.run schedule).text = c.text ++ c.appended s schedule := by
  induction schedule generalizing c with
  | nil => exact (List.append_nil _).symm
  | cons turn rest ih =>
    obtain ⟨hself, hother⟩ := c.reader_step turn
    have hrun : c.run (turn :: rest) = (c.step turn).run rest := rfl
    rw [Capture.appended, hrun, ← List.append_assoc]
    rcases eq_or_eq_other s turn with rfl | rfl
    · rw [if_pos rfl, ih (by rw [hother]; exact h), c.text_step]
    · have howes : (c.reader s.other).owes = (c.stepped s.other).2 ++ (c.stepped s.other).1.owes :=
        Reader.owes_step _ _
      obtain ⟨hnothing, hafter⟩ := List.append_eq_nil_iff.mp (howes.symm.trans h)
      have hne : s.other ≠ s := by cases s <;> decide
      rw [if_neg hne, ih (by rw [hself]; exact hafter), c.text_step, hnothing]

/-- A reader that is done owes nothing. -/
theorem Capture.Orderly.owes_of_done {c : Capture} (h : c.Orderly) {s : Stream}
    (hdone : (c.reader s).phase = .done) : (c.reader s).owes = [] := by
  simp [Reader.owes, Reader.left, hdone, h.drained s hdone, lineTexts, rawLines, unlines]

theorem Capture.Reached.orderly {out err : Bytes} {c : Capture} (h : c.Reached out err) :
    c.Orderly := by
  obtain ⟨ended, merged, unended, hsound⟩ := h
  exact hsound.toOrderly

theorem Reader.owes_start (stream : Bytes) :
    (⟨stream, .reading⟩ : Reader).owes = decodedText stream := by
  rw [← wholeText_eq_decodedText, ← unlines_lineTexts]
  rfl

/-- Once both readers are done, each of them has appended its whole stream. -/
theorem appended_of_joined {out err : Bytes} {schedule : List Stream}
    (h : ((Capture.start out err).run schedule).Joined) :
    (Capture.start out err).appended .out schedule = decodedText out ∧
      (Capture.start out err).appended .err schedule = decodedText err := by
  have horderly := ((Capture.reached_start out err).run schedule).orderly
  have hout := Capture.owes_run (Capture.start out err) .out schedule
  have herr := Capture.owes_run (Capture.start out err) .err schedule
  rw [horderly.owes_of_done (s := .out) h.1, List.append_nil] at hout
  rw [horderly.owes_of_done (s := .err) h.2, List.append_nil] at herr
  exact ⟨hout.symm.trans (Reader.owes_start out), herr.symm.trans (Reader.owes_start err)⟩

/-- Every run goes on to the end of both streams, and what it comes to is captured. -/
theorem exists_joined (schedule : List Stream) (out err : Bytes) :
    ∃ more, ((Capture.start out err).run (schedule ++ more)).Joined ∧
      ((Capture.start out err).run (schedule ++ more)).text = captured schedule out err := by
  obtain ⟨more, hrun, hjoined⟩ := ((Capture.start out err).run schedule).exists_run_eq_finish
  have hall : (Capture.start out err).run (schedule ++ more) =
      ((Capture.start out err).run schedule).run more := List.foldl_append
  rw [← hrun, ← hall] at hjoined
  exact ⟨more, hjoined, by rw [hall, hrun, captured]⟩

/-- A stream that is captured beside an empty one is captured as it is decoded. -/
theorem captured_alone (schedule : List Stream) (stream : Bytes) :
    captured schedule stream [] = decodedText stream ∧
      captured schedule [] stream = decodedText stream := by
  constructor
  · obtain ⟨more, hjoined, htext⟩ := exists_joined schedule stream []
    rw [← htext, Capture.text_run (s := .out) rfl, (appended_of_joined hjoined).1]
    rfl
  · obtain ⟨more, hjoined, htext⟩ := exists_joined schedule [] stream
    rw [← htext, Capture.text_run (s := .err) rfl, (appended_of_joined hjoined).2]
    rfl

theorem parse_decodedText (stream : Bytes) :
    Tap.parse (String.ofList (decodedText stream)) =
      Tap.parse (String.ofList (Utf8.lossy stream)) := by
  rw [Tap.parse_eq_ofItems_writtenLines, String.toList_ofList, writtenLines_decodedText,
    Tap.parse_eq_ofItems_writtenLines, String.toList_ofList]

/-! ## What is captured of one stream -/

/-- What a reader appends to the common text is its stream decoded at once, whatever the other
reader does.  A stream alone is captured so, each line of it by itself, and its report is that of
the decoded stream. -/
theorem captured_eq_decodedText (schedule : List Stream) :
    (∀ out err, (∃ more, ((Capture.start out err).run (schedule ++ more)).Joined) ∧
      (((Capture.start out err).run schedule).Joined →
        (Capture.start out err).appended .out schedule = decodedText out ∧
        (Capture.start out err).appended .err schedule = decodedText err)) ∧
    ∀ stream, captured schedule stream [] = decodedText stream ∧
      captured schedule [] stream = decodedText stream ∧
      segments '\n' (captured schedule stream []) =
        ((rawLines stream).map fun raw => cutReturns (Utf8.lossy raw)) ∧
      Tap.parse (String.ofList (captured schedule stream [])) =
        Tap.parse (String.ofList (Utf8.lossy stream)) := by
  refine ⟨fun out err => ⟨?_, appended_of_joined⟩, fun stream => ?_⟩
  · obtain ⟨more, hjoined, -⟩ := exists_joined schedule out err
    exact ⟨more, hjoined⟩
  · obtain ⟨hout, herr⟩ := captured_alone schedule stream
    refine ⟨hout, herr, ?_, ?_⟩
    · rw [hout, segments_decodedText]
    · rw [hout, parse_decodedText]

/-- A sequence that is cut off right before a line feed, and one at the end of the stream. -/
theorem captured_eq_decodedText_truncated :
    let schedule : List Stream :=
      [.out, .err, .err, .out, .err, .err, .err] ++ List.replicate 15 .out ++ [.err]
    let out : Bytes :=
      [0x6F, 0x6B, 0xE2, 0x82, 0x0A, 0x6F, 0x6B, 0x20, 0x31, 0x0D, 0x0D, 0x0A, 0xF0, 0x9F]
    let err : Bytes := [0xFF, 0x0A]
    ((Capture.start out err).run schedule).Joined ∧
      (Capture.start out err).appended .out schedule = "ok\ufffd\nok 1\n\ufffd\n".toList ∧
      (Capture.start out err).appended .err schedule = "\ufffd\n".toList ∧
      Tap.parse (String.ofList (captured schedule out [])) =
        ⟨[⟨true, some 1, "", none, 0⟩], none, false⟩ := by
  intro schedule out err
  have hjoined : ((Capture.start out err).run schedule).Joined := by decide
  obtain ⟨hreaders, halone⟩ := captured_eq_decodedText schedule
  obtain ⟨hout, herr⟩ := (hreaders out err).2 hjoined
  refine ⟨hjoined, hout.trans (by decide), herr.trans (by decide), ?_⟩
  exact (halone out).2.2.2.trans (by decide)

end TapSuite.Process

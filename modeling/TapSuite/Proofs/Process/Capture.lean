import TapSuite.Process.Capture
import TapSuite.Proofs.Text.Decode
import TapSuite.Text.Merge

/-!
# What is captured

Whatever the schedule, the captured text is a merge of the lines of both streams: no line is lost,
split, doubled or mixed with another one.

    Merge (lineTexts out) (lineTexts err) (segments '\n' (captured schedule out err))
                                                                                 (captured_merge)

The invariant of a run (`Capture.Sound`) ties the common text to what each reader has taken from
its stream: the text holds whole lines, and after them at most the text of one line that its reader,
who has the lock, has yet to end.
-/

namespace TapSuite.Process

open Text

/-! ## Lines of a stream -/

/-- The line feed at the end of a raw line does not show in the line's text. -/
theorem lineText_append_lineFeed (raw : Bytes) : lineText (raw ++ [lineFeed]) = lineText raw := by
  have hlossy : Utf8.lossy (raw ++ [lineFeed]) = Utf8.lossy raw ++ ['\n'] :=
    Utf8.lossy_append_lineFeed raw []
  simp [lineText, hlossy, cutLineEnds, isLineEnd]

/-- A line's text has no line feed. -/
theorem not_mem_lineTexts {stream : Bytes} : ∀ line ∈ lineTexts stream, '\n' ∉ line := by
  intro line hline hfeed
  obtain ⟨raw, hraw, rfl⟩ := List.mem_map.mp hline
  have hlossy : '\n' ∈ Utf8.lossy raw :=
    List.mem_reverse.mp ((List.dropWhile_sublist _).mem (List.mem_reverse.mp hfeed))
  exact not_mem_of_mem_segments _ _ _ hraw (Utf8.lineFeed_mem_of_mem_lossy hlossy)

/-- What reading a line takes from a stream. -/
theorem readLine_cases (stream : Bytes) :
    readLine stream = (stream, []) ∧ lineFeed ∉ stream ∨
    ∃ raw rest, lineFeed ∉ raw ∧ stream = raw ++ lineFeed :: rest ∧
      readLine stream = (raw ++ [lineFeed], rest) := by
  induction stream with
  | nil => exact .inl ⟨rfl, List.not_mem_nil⟩
  | cons b stream ih =>
    rw [readLine]
    by_cases hb : b = lineFeed
    · right
      subst hb
      exact ⟨[], stream, List.not_mem_nil, rfl, if_pos rfl⟩
    · have hcons : ∀ s : Bytes, lineFeed ∉ s → lineFeed ∉ b :: s := by
        intro s hs hmem
        rcases List.mem_cons.mp hmem with heq | hmem
        · exact hb heq.symm
        · exact hs hmem
      rw [if_neg hb]
      rcases ih with ⟨hread, hnot⟩ | ⟨raw, rest, hnot, rfl, hread⟩
      · left
        exact ⟨by rw [hread], hcons _ hnot⟩
      · right
        exact ⟨b :: raw, rest, hcons _ hnot, rfl, by rw [hread]; rfl⟩

theorem rawLines_append_lineFeed {raw : Bytes} (h : lineFeed ∉ raw) (rest : Bytes) :
    rawLines (raw ++ lineFeed :: rest) = raw :: rawLines rest :=
  segments_append_sep h rest

/-- Reading takes the first line. -/
theorem lineTexts_readLine {stream : Bytes} (h : (readLine stream).1 ≠ []) :
    lineTexts stream = lineText (readLine stream).1 :: lineTexts (readLine stream).2 := by
  rcases readLine_cases stream with ⟨hread, hnot⟩ | ⟨raw, rest, hnot, rfl, hread⟩
  · rw [hread] at h ⊢
    rw [lineTexts, rawLines, segments_of_not_mem hnot h]
    rfl
  · rw [hread, lineText_append_lineFeed, lineTexts, rawLines_append_lineFeed hnot]
    rfl

/-- A stream may be decoded first and cut into lines then. -/
theorem segments_lossy (stream : Bytes) :
    segments '\n' (Utf8.lossy stream) = (rawLines stream).map Utf8.lossy := by
  -- on the length: what is left after a line is not the tail of the stream
  induction hlength : stream.length using Nat.strongRecOn generalizing stream with
  | ind n ih =>
    have hfeed {raw : Bytes} (h : lineFeed ∉ raw) : '\n' ∉ Utf8.lossy raw :=
      fun hmem => h (Utf8.lineFeed_mem_of_mem_lossy hmem)
    rcases readLine_cases stream with ⟨-, hnot⟩ | ⟨raw, rest, hnot, rfl, -⟩
    · by_cases hstream : stream = []
      · rw [hstream]
        rfl
      · rw [rawLines, segments_of_not_mem hnot hstream,
          segments_of_not_mem (hfeed hnot) (Utf8.lossy_ne_nil hstream)]
        rfl
    · have hrest : rest.length < n := by
        rw [← hlength, List.length_append, List.length_cons]
        omega
      have hlossy : Utf8.lossy (raw ++ lineFeed :: rest) =
          Utf8.lossy raw ++ '\n' :: Utf8.lossy rest := Utf8.lossy_append_lineFeed raw rest
      rw [hlossy, segments_append_sep (hfeed hnot), ih _ hrest rest rfl,
        rawLines_append_lineFeed hnot, List.map_cons]

/-- A stream's lines with their ends are its whole text. -/
theorem unlines_lineTexts (stream : Bytes) : unlines (lineTexts stream) = wholeText stream := by
  rw [wholeText, segments_lossy, List.map_map]
  rfl

theorem eq_nil_of_readLine {stream : Bytes} (h : (readLine stream).1 = []) : stream = [] := by
  rcases readLine_cases stream with ⟨hread, -⟩ | ⟨raw, rest, -, -, hread⟩
  · rwa [hread] at h
  · rw [hread] at h
    simp at h

/-! ## Steps of a reader -/

/-- The lines that a reader has yet to end, given the text of the line that it has yet to end, if
it has appended one. -/
def Reader.left (r : Reader) (unended : List Char) : List (List Char) :=
  match r.phase with
  | .waiting line => cutLineEnds line :: lineTexts r.unread
  | .locked line => cutLineEnds line :: lineTexts r.unread
  | .unended => unended :: lineTexts r.unread
  | _ => lineTexts r.unread

theorem Reader.left_eq {r : Reader} (h : r.phase ≠ .unended) (u v : List Char) :
    r.left u = r.left v := by
  unfold Reader.left
  split
  · rfl
  · rfl
  · exact absurd (by assumption) h
  · rfl

theorem Reader.left_read {r : Reader} (h : r.phase = .reading) (u : List Char) :
    r.read.left u = r.left u := by
  obtain ⟨unread, phase⟩ := r
  obtain rfl : phase = .reading := h
  simp only [Reader.read]
  split
  · rfl
  · next hraw => exact (lineTexts_readLine hraw).symm

theorem Reader.phase_read (r : Reader) :
    r.read.phase ≠ .unended ∧ r.read.holds = false ∧
      (r.read.phase = .done → r.read.unread = []) := by
  simp only [Reader.read]
  split
  · next hraw => exact ⟨fun h => (by cases h), rfl, fun _ => eq_nil_of_readLine hraw⟩
  · exact ⟨fun h => (by cases h), rfl, fun h => (by cases h)⟩

/-- What a step of a reader does: it appends nothing, or the text of a line, or the line feed after
that text. -/
theorem Reader.step_cases (free : Bool) (r : Reader) :
    (r.phase ≠ .unended ∧ (r.step free).1.phase ≠ .unended ∧ (r.step free).2 = [] ∧
      ∀ u, (r.step free).1.left u = r.left u) ∨
    (r.phase ≠ .unended ∧ r.holds = true ∧ (r.step free).1.phase = .unended ∧
      ∀ u, (r.step free).1.left (r.step free).2 = r.left u) ∨
    (r.phase = .unended ∧ (r.step free).1.phase ≠ .unended ∧ (r.step free).2 = ['\n'] ∧
      ∀ u v, r.left u = u :: (r.step free).1.left v) := by
  obtain ⟨unread, phase⟩ := r
  cases phase with
  | reading =>
    left
    exact ⟨nofun, (Reader.phase_read _).1, rfl, fun u => Reader.left_read rfl u⟩
  | waiting line =>
    left
    cases free
    · exact ⟨nofun, nofun, rfl, fun _ => rfl⟩
    · exact ⟨nofun, nofun, rfl, fun _ => rfl⟩
  | locked line =>
    right; left
    exact ⟨nofun, rfl, rfl, fun _ => rfl⟩
  | unended =>
    right; right
    exact ⟨rfl, nofun, rfl, fun _ _ => rfl⟩
  | appended =>
    left
    exact ⟨nofun, nofun, rfl, fun _ => rfl⟩
  | done =>
    left
    exact ⟨nofun, nofun, rfl, fun _ => rfl⟩

/-- A reader takes the lock only if it is free. -/
theorem Reader.holds_step {free : Bool} {r : Reader} (h : (r.step free).1.holds = true) :
    r.holds = true ∨ free = true := by
  obtain ⟨unread, phase⟩ := r
  cases phase with
  | reading =>
    have hnot := (Reader.phase_read ⟨unread, .reading⟩).2.1
    exact absurd h (by simp [Reader.step, hnot])
  | waiting line =>
    cases free
    · cases h
    · exact .inr rfl
  | locked line => exact .inl rfl
  | unended => exact .inl rfl
  | appended => exact .inl rfl
  | done => cases h

/-- A reader is done only at the end of its stream. -/
theorem Reader.unread_step {free : Bool} {r : Reader} (hr : r.phase = .done → r.unread = [])
    (h : (r.step free).1.phase = .done) : (r.step free).1.unread = [] := by
  obtain ⟨unread, phase⟩ := r
  cases phase with
  | reading => exact (Reader.phase_read _).2.2 h
  | waiting line =>
    cases free
    · cases h
    · cases h
  | locked line => cases h
  | unended => cases h
  | appended => cases h
  | done => exact hr rfl

/-! ## Steps of a capture -/

theorem eq_or_eq_other (s t : Stream) : t = s ∨ t = s.other := by cases s <;> cases t <;> decide

theorem Stream.other_other (s : Stream) : s.other.other = s := by cases s <;> rfl

def Capture.stepped (c : Capture) (s : Stream) : Reader × List Char :=
  (c.reader s).step (!(c.reader s.other).holds)

theorem Capture.reader_step (c : Capture) (s : Stream) :
    (c.step s).reader s = (c.stepped s).1 ∧ (c.step s).reader s.other = c.reader s.other := by
  cases s <;> exact ⟨rfl, rfl⟩

theorem Capture.text_step (c : Capture) (s : Stream) :
    (c.step s).text = c.text ++ (c.stepped s).2 := by
  cases s <;> rfl

/-- What holds of the readers in a capture: at most one of them has the lock, and who is done has
nothing left to read. -/
structure Capture.Orderly (c : Capture) : Prop where
  exclusive : ∀ s, (c.reader s).holds = true → (c.reader s.other).holds = false
  drained : ∀ s, (c.reader s).phase = .done → (c.reader s).unread = []

/-- While a reader has the lock, the other one has no line to end. -/
theorem Capture.Orderly.ne_unended_of_holds {c : Capture} (h : c.Orderly) {s : Stream}
    (hholds : (c.reader s).holds = true) : (c.reader s.other).phase ≠ .unended := by
  intro hphase
  have hfree := h.exclusive s hholds
  simp [Reader.holds, hphase] at hfree

theorem Capture.Orderly.step {c : Capture} (h : c.Orderly) (s : Stream) : (c.step s).Orderly := by
  obtain ⟨hself, hother⟩ := c.reader_step s
  have htaken : (c.stepped s).1.holds = true → (c.reader s.other).holds = false := by
    intro hholds
    rcases Reader.holds_step hholds with hheld | hfree
    · exact h.exclusive s hheld
    · simpa using hfree
  constructor
  · intro t ht
    rcases eq_or_eq_other s t with rfl | rfl
    · rw [hself] at ht
      rw [hother]
      exact htaken ht
    · rw [hother] at ht
      rw [Stream.other_other, hself, ← Bool.not_eq_true]
      intro hholds
      rw [htaken hholds] at ht
      cases ht
  · intro t ht
    rcases eq_or_eq_other s t with rfl | rfl
    · rw [hself] at ht ⊢
      exact Reader.unread_step (h.drained t) ht
    · rw [hother] at ht ⊢
      exact h.drained _ ht

/-- The invariant of a capture: its text is a merge of the lines that the readers have ended, and
the text of a line that one of them has yet to end. -/
structure Capture.Sound (input : Stream → Bytes) (c : Capture) (ended : Stream → List (List Char))
    (merged : List (List Char)) (unended : List Char) : Prop extends c.Orderly where
  text : c.text = unlines merged ++ unended
  merge : Merge (ended .out) (ended .err) merged
  lines : ∀ s, lineTexts (input s) = ended s ++ (c.reader s).left unended
  settled : (∀ s, (c.reader s).phase ≠ .unended) → unended = []

section Steps

variable {input : Stream → Bytes} {c : Capture} {ended : Stream → List (List Char)}
  {merged : List (List Char)} {unended : List Char}

/-- A step that appends nothing changes nothing that the invariant speaks of. -/
theorem Capture.Sound.step_quiet (h : c.Sound input ended merged unended) {s : Stream}
    (hbefore : (c.reader s).phase ≠ .unended) (hafter : (c.stepped s).1.phase ≠ .unended)
    (htext : (c.stepped s).2 = [])
    (hleft : ∀ u, (c.stepped s).1.left u = (c.reader s).left u) :
    (c.step s).Sound input ended merged unended := by
  obtain ⟨hself, hother⟩ := c.reader_step s
  refine ⟨h.toOrderly.step s, ?_, h.merge, ?_, ?_⟩
  · rw [c.text_step, htext, List.append_nil, h.text]
  · intro t
    rcases eq_or_eq_other s t with rfl | rfl
    · rw [hself, hleft, h.lines]
    · rw [hother, h.lines]
  · intro hphase
    apply h.settled
    intro t
    rcases eq_or_eq_other s t with rfl | rfl
    · exact hbefore
    · rw [← hother]
      exact hphase _

/-- A reader with the lock appends the text of its line, which is not ended then. -/
theorem Capture.Sound.step_text (h : c.Sound input ended merged unended) {s : Stream}
    (hbefore : (c.reader s).phase ≠ .unended) (hholds : (c.reader s).holds = true)
    (hafter : (c.stepped s).1.phase = .unended)
    (hleft : ∀ u, (c.stepped s).1.left (c.stepped s).2 = (c.reader s).left u) :
    (c.step s).Sound input ended merged (c.stepped s).2 := by
  obtain ⟨hself, hother⟩ := c.reader_step s
  -- the other reader does not have the lock, so no line in the text is without its end
  have hbeside := h.ne_unended_of_holds hholds
  have hnone : unended = [] := by
    apply h.settled
    intro t
    rcases eq_or_eq_other s t with rfl | rfl
    · exact hbefore
    · exact hbeside
  refine ⟨h.toOrderly.step s, ?_, h.merge, ?_, ?_⟩
  · rw [c.text_step, h.text, hnone, List.append_nil]
  · intro t
    rcases eq_or_eq_other s t with rfl | rfl
    · rw [hself, hleft unended, h.lines]
    · rw [hother, Reader.left_eq hbeside _ unended, h.lines]
  · intro hphase
    exact absurd (hself ▸ hafter) (hphase s)

/-- A reader with the lock ends its line. -/
theorem Capture.Sound.step_feed (h : c.Sound input ended merged unended) {s : Stream}
    (hbefore : (c.reader s).phase = .unended) (hafter : (c.stepped s).1.phase ≠ .unended)
    (htext : (c.stepped s).2 = ['\n'])
    (hleft : ∀ u v, (c.reader s).left u = u :: (c.stepped s).1.left v) :
    (c.step s).Sound input (fun t => if t = s then ended t ++ [unended] else ended t)
      (merged ++ [unended]) [] := by
  obtain ⟨hself, hother⟩ := c.reader_step s
  have hbeside := h.ne_unended_of_holds (s := s) (by simp [Reader.holds, hbefore])
  refine ⟨h.toOrderly.step s, ?_, ?_, ?_, fun _ => rfl⟩
  · rw [c.text_step, htext, h.text, unlines_append]
    simp [unlines]
  · cases s with
    | out => exact h.merge.snoc_left unended
    | err => exact h.merge.snoc_right unended
  · intro t
    rcases eq_or_eq_other s t with rfl | rfl
    · rw [hself, if_pos rfl, List.append_assoc, List.singleton_append, ← hleft unended [], h.lines]
    · have hne : s.other ≠ s := by cases s <;> decide
      rw [hother, if_neg hne, Reader.left_eq hbeside [] unended, h.lines]

/-- Every step keeps the invariant. -/
theorem Capture.Sound.step (h : c.Sound input ended merged unended) (s : Stream) :
    ∃ ended' merged' unended', (c.step s).Sound input ended' merged' unended' := by
  rcases Reader.step_cases (!(c.reader s.other).holds) (c.reader s) with
    ⟨hbefore, hafter, htext, hleft⟩ | ⟨hbefore, hholds, hafter, hleft⟩ |
    ⟨hbefore, hafter, htext, hleft⟩
  · exact ⟨_, _, _, h.step_quiet hbefore hafter htext hleft⟩
  · exact ⟨_, _, _, h.step_text hbefore hholds hafter hleft⟩
  · exact ⟨_, _, _, h.step_feed hbefore hafter htext hleft⟩

end Steps

/-! ## Runs -/

def Capture.Reached (out err : Bytes) (c : Capture) : Prop :=
  ∃ ended merged unended,
    c.Sound (fun | .out => out | .err => err) ended merged unended

theorem Capture.reached_start (out err : Bytes) : (Capture.start out err).Reached out err := by
  refine ⟨fun _ => [], [], [], ⟨?_, ?_⟩, rfl, .nil, ?_, fun _ => rfl⟩
  · intro s hs
    cases s <;> cases hs
  · intro s hs
    cases s <;> cases hs
  · intro s
    cases s <;> rfl

theorem Capture.Reached.step {out err : Bytes} {c : Capture} (h : c.Reached out err) (s : Stream) :
    (c.step s).Reached out err := by
  obtain ⟨ended, merged, unended, hsound⟩ := h
  exact hsound.step s

theorem Capture.Reached.run {out err : Bytes} {c : Capture} (h : c.Reached out err)
    (schedule : List Stream) : (c.run schedule).Reached out err := by
  induction schedule generalizing c with
  | nil => exact h
  | cons s schedule ih => exact ih (h.step s)

/-- Going on to the end is a run, and it comes to the end. -/
theorem Capture.exists_run_eq_finish (c : Capture) :
    ∃ more, c.run more = c.finish ∧ c.finish.Joined := by
  induction c using Capture.finish.induct with
  | case1 c h =>
    rw [Capture.finish, if_pos h]
    exact ⟨[], rfl, h⟩
  | case2 c h ih =>
    rw [Capture.finish, if_neg h]
    obtain ⟨more, hrun, hjoined⟩ := ih
    exact ⟨c.turn :: more, hrun, hjoined⟩

theorem Capture.finish_of_joined {c : Capture} (h : c.Joined) : c.finish = c := by
  rw [Capture.finish, if_pos h]

/-- At the end of both streams the text is a merge of their lines. -/
theorem Capture.Reached.merge {out err : Bytes} {c : Capture} (h : c.Reached out err)
    (hjoined : c.Joined) :
    Merge (lineTexts out) (lineTexts err) (segments '\n' c.text) ∧
      unlines (segments '\n' c.text) = c.text := by
  obtain ⟨ended, merged, unended, hsound⟩ := h
  obtain ⟨hout, herr⟩ := hjoined
  have hphase : ∀ s, (c.reader s).phase = .done := by
    intro s
    cases s
    · exact hout
    · exact herr
  have hunended : unended = [] := hsound.settled fun s => by rw [hphase s]; nofun
  have hleft : ∀ s, (c.reader s).left unended = [] := by
    intro s
    simp [Reader.left, hphase s, hsound.drained s (hphase s), lineTexts, rawLines]
  have hlines := hsound.lines
  simp only [hleft, List.append_nil] at hlines
  have hmerge : Merge (lineTexts out) (lineTexts err) merged := by
    rw [hlines .out, hlines .err]
    exact hsound.merge
  have hfeed : ∀ line ∈ merged, '\n' ∉ line := by
    intro line hline
    rcases hmerge.mem_or_mem hline with hmem | hmem
    · exact not_mem_lineTexts line hmem
    · exact not_mem_lineTexts line hmem
  have htext : c.text = unlines merged := by rw [hsound.text, hunended, List.append_nil]
  rw [htext, segments_unlines hfeed]
  exact ⟨hmerge, rfl⟩

/-! ## The captured text -/

/-- The captured text is what every run with these steps comes to that goes on to the end of both
streams, and it is a merge of their lines, each of them with one line feed after it. -/
theorem captured_merge (schedule : List Stream) (out err : Bytes) :
    let c := (Capture.start out err).run schedule
    (c.Joined → c.text = captured schedule out err) ∧
      (∃ more, (c.run more).Joined ∧ (c.run more).text = captured schedule out err) ∧
      Merge (lineTexts out) (lineTexts err) (segments '\n' (captured schedule out err)) ∧
      unlines (segments '\n' (captured schedule out err)) = captured schedule out err := by
  intro c
  have hreached : c.Reached out err := (Capture.reached_start out err).run schedule
  obtain ⟨more, hrun, hjoined⟩ := c.exists_run_eq_finish
  rw [← hrun] at hjoined
  have htext : (c.run more).text = captured schedule out err := congrArg Capture.text hrun
  have hmerge := (hreached.run more).merge hjoined
  rw [htext] at hmerge
  refine ⟨fun hc => ?_, ⟨more, hjoined, htext⟩, hmerge⟩
  rw [← htext, hrun, Capture.finish_of_joined hc]

theorem captured_merge_contended :
    let schedule : List Stream :=
      [.out, .err, .err, .out, .err, .out, .err, .err, .out, .err, .out, .out, .out, .out, .out,
        .out, .out, .out, .out]
    let out : Bytes := [0x61, 0x0D, 0x0A, 0xE2, 0x82]
    let err : Bytes := [0x62, 0x0A]
    ((Capture.start out err).run schedule).Joined ∧
      captured schedule out err = ['b', '\n', 'a', '\n', '\ufffd', '\n'] := by
  refine ⟨by decide, ?_⟩
  rw [← (captured_merge _ _ _).1 (by decide)]
  decide

end TapSuite.Process

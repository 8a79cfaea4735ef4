import TapSuite.Text.Lines
import TapSuite.Text.Utf8
import TapSuite.Workspace.Basic

/-!
# Captured output

The two output streams of a process are read at the same time, by a reader each, into one text that
both share.  A reader goes through its stream line by line:

    read a line, take the lock, append the line's text, append a line feed, give the lock back

As long as one reader holds the lock the other one cannot take it, so it waits.

    captured schedule out err = the text after the steps of `schedule`, and after both readers
                                have gone on to the end of their streams

A schedule says whose step comes next.
-/

namespace TapSuite.Process

/-! ## Lines -/

/-- An output stream of a process. -/
inductive Stream where
  | out
  | err
  deriving DecidableEq

def Stream.other : Stream → Stream
  | .out => .err
  | .err => .out

def lineFeed : UInt8 := 0x0A

/-- A character that is cut off the end of a line. -/
def isLineEnd (c : Char) : Bool := c = '\r' || c = '\n'

/-- The text without the ends of lines at its end. -/
def cutLineEnds (t : List Char) : List Char := (t.reverse.dropWhile isLineEnd).reverse

def lineText (raw : Bytes) : List Char := cutLineEnds (Text.Utf8.lossy raw)

/-- The raw lines of a stream; the last one need not be ended. -/
def rawLines (stream : Bytes) : List Bytes := Text.segments lineFeed stream

def lineTexts (stream : Bytes) : List (List Char) := (rawLines stream).map lineText

/-- The text of a stream that is decoded first and cut into lines then.  A byte that writes no
character spoils no line but its own, so this is what a reader appends in the end. -/
def wholeText (stream : Bytes) : List Char :=
  Text.unlines ((Text.segments '\n' (Text.Utf8.lossy stream)).map cutLineEnds)

/-- The bytes up to the first line feed and with it, and the bytes after it. -/
def readLine : Bytes → Bytes × Bytes
  | [] => ([], [])
  | b :: rest => if b = lineFeed then ([b], rest) else (b :: (readLine rest).1, (readLine rest).2)

theorem length_readLine (stream : Bytes) :
    (readLine stream).1.length + (readLine stream).2.length = stream.length := by
  induction stream with
  | nil => rfl
  | cons b rest ih =>
    rw [readLine]
    split
    · simp [Nat.add_comm]
    · simp only [List.length_cons]
      omega

/-! ## Readers -/

/-- Where a reader stands. -/
inductive Phase where
  /-- It reads a line next. -/
  | reading
  /-- It has read a line and needs the lock. -/
  | waiting (line : List Char)
  /-- It holds the lock and appends the line's text next. -/
  | locked (line : List Char)
  /-- It holds the lock and appends the line feed next. -/
  | unended
  /-- It holds the lock and gives it back next. -/
  | appended
  /-- Its stream has ended. -/
  | done
  deriving DecidableEq

/-- A reader and what it has not read of its stream. -/
structure Reader where
  unread : Bytes
  phase : Phase := .reading
  deriving DecidableEq

/-- Whether a reader holds the lock. -/
def Reader.holds (r : Reader) : Bool :=
  match r.phase with
  | .locked _ => true
  | .unended => true
  | .appended => true
  | _ => false

/-- The reader after its next line is read and decoded; a line without bytes is no line. -/
def Reader.read (r : Reader) : Reader :=
  let (raw, rest) := readLine r.unread
  if raw = [] then { r with phase := .done } else ⟨rest, .waiting (Text.Utf8.lossy raw)⟩

/-- A reader's step, and what it appends.  `free` says that the other one does not hold the
lock. -/
def Reader.step (free : Bool) (r : Reader) : Reader × List Char :=
  match r.phase with
  | .reading => (r.read, [])
  | .waiting line => (if free then { r with phase := .locked line } else r, [])
  | .locked line => ({ r with phase := .unended }, cutLineEnds line)
  | .unended => ({ r with phase := .appended }, ['\n'])
  | .appended => ({ r with phase := .reading }, [])
  | .done => (r, [])

/-- A bound for the steps that a reader has yet to make. -/
def Reader.work (r : Reader) : Nat :=
  match r.phase with
  | .reading => 5 * r.unread.length + 1
  | .waiting _ => 5 * r.unread.length + 5
  | .locked _ => 5 * r.unread.length + 4
  | .unended => 5 * r.unread.length + 3
  | .appended => 5 * r.unread.length + 2
  | .done => 0

/-- A reader that is not done and has no need to wait gets on. -/
theorem Reader.work_step {free : Bool} {r : Reader} (hdone : r.phase ≠ .done)
    (hfree : free = true ∨ r.holds = true) : (r.step free).1.work < r.work := by
  obtain ⟨unread, phase⟩ := r
  cases phase with
  | reading =>
    simp only [Reader.step, Reader.read]
    split
    · simp [Reader.work]
    · next hraw =>
      have hpos := List.length_pos_iff.mpr hraw
      have hlen := length_readLine unread
      simp only [Reader.work]
      omega
  | waiting line =>
    have hfree : free = true := by simpa [Reader.holds] using hfree
    simp [Reader.step, Reader.work, hfree]
  | locked line => simp [Reader.step, Reader.work]
  | unended => simp [Reader.step, Reader.work]
  | appended => simp [Reader.step, Reader.work]
  | done => exact absurd rfl hdone

/-! ## Both readers -/

/-- Both readers and the text that they share. -/
structure Capture where
  out : Reader
  err : Reader
  text : List Char := []
  deriving DecidableEq

def Capture.start (out err : Bytes) : Capture := ⟨⟨out, .reading⟩, ⟨err, .reading⟩, []⟩

def Capture.reader (c : Capture) : Stream → Reader
  | .out => c.out
  | .err => c.err

/-- The step of one of the readers. -/
def Capture.step (c : Capture) (s : Stream) : Capture :=
  let stepped := (c.reader s).step (!(c.reader s.other).holds)
  match s with
  | .out => { c with out := stepped.1, text := c.text ++ stepped.2 }
  | .err => { c with err := stepped.1, text := c.text ++ stepped.2 }

def Capture.run (c : Capture) (schedule : List Stream) : Capture := schedule.foldl Capture.step c

/-- Whether both readers have come to the end of their streams. -/
def Capture.Joined (c : Capture) : Prop := c.out.phase = .done ∧ c.err.phase = .done

instance (c : Capture) : Decidable c.Joined := inferInstanceAs (Decidable (_ ∧ _))

/-- A reader that can get on, as long as there is one: who holds the lock goes first. -/
def Capture.turn (c : Capture) : Stream :=
  if c.err.holds = true ∨ c.out.phase = .done then .err else .out

/-- A bound for the steps that both readers have yet to make. -/
def Capture.work (c : Capture) : Nat := c.out.work + c.err.work

theorem Capture.work_step_turn {c : Capture} (h : ¬ c.Joined) : (c.step c.turn).work < c.work := by
  unfold Capture.turn
  split
  · next hturn =>
    have hdone : c.err.phase ≠ .done := by
      intro hdone
      rcases hturn with hholds | hout
      · simp [Reader.holds, hdone] at hholds
      · exact h ⟨hout, hdone⟩
    have hfree : (!c.out.holds) = true ∨ c.err.holds = true := by
      rcases hturn with hholds | hout
      · exact .inr hholds
      · left
        simp [Reader.holds, hout]
    exact Nat.add_lt_add_left (Reader.work_step hdone hfree) _
  · next hturn =>
    have hdone : c.out.phase ≠ .done := fun hdone => hturn (.inr hdone)
    have hfree : (!c.err.holds) = true := by
      rw [Bool.not_eq_true', ← Bool.not_eq_true]
      exact fun hholds => hturn (.inl hholds)
    exact Nat.add_lt_add_right (Reader.work_step hdone (.inl hfree)) _

/-- Both readers go on to the end of their streams. -/
def Capture.finish (c : Capture) : Capture :=
  if c.Joined then c else (c.step c.turn).finish
  termination_by c.work
  decreasing_by exact Capture.work_step_turn (by assumption)

/-- The text that is captured from two streams. -/
def captured (schedule : List Stream) (out err : Bytes) : List Char :=
  ((Capture.start out err).run schedule).finish.text

end TapSuite.Process

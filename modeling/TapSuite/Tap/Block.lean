import TapSuite.Tap.Parser

/-!
# YAML blocks

A YAML block follows a test point: `---` indented deeper than the point, lines that are blank or
indented no less, and `...` at the indentation of `---`.

    ok 1 - point
      ---
      message: not ok 2 - quoted
      ...

Blocks are given by their raw lines, so blanks after a marker and any kind of line end are allowed.
-/

namespace TapSuite.Tap

open Text

/-! ## Blocks -/

/-- Whether a line stays in a block of a depth: it is blank or not indented less, and not the
block's end. -/
def HiddenAt (depth : Nat) (line : Line) : Prop :=
  (line.text = [] ∨ depth ≤ line.depth) ∧ line ≠ ⟨depth, ['.', '.', '.']⟩

instance (depth : Nat) (line : Line) : Decidable (HiddenAt depth line) :=
  inferInstanceAs (Decidable (_ ∧ _))

/-- The raw lines of a block. -/
structure Block where
  opening : List Char
  body : List (List Char)
  closing : List Char
  deriving DecidableEq

/-- The depth of a block is that of its opening line. -/
def Block.depth (b : Block) : Nat := (Line.of b.opening).depth

/-- The lines of a block that is never closed. -/
def Block.openLines (b : Block) : List (List Char) := b.opening :: b.body

def Block.lines (b : Block) : List (List Char) := b.openLines ++ [b.closing]

/-- Whether a block can open after a point of a depth, and its body stays inside. -/
structure Block.Opens (b : Block) (depth : Nat) : Prop where
  marker : (Line.of b.opening).text = ['-', '-', '-']
  deeper : depth < b.depth
  hidden : ∀ raw ∈ b.body, HiddenAt b.depth (.of raw)
  one_line : ∀ raw ∈ b.openLines, '\n' ∉ raw

instance (b : Block) (depth : Nat) : Decidable (b.Opens depth) :=
  decidable_of_iff
    ((Line.of b.opening).text = ['-', '-', '-'] ∧ depth < b.depth ∧
      (∀ raw ∈ b.body, HiddenAt b.depth (.of raw)) ∧ ∀ raw ∈ b.openLines, '\n' ∉ raw)
    ⟨fun ⟨marker, deeper, hidden, one_line⟩ => ⟨marker, deeper, hidden, one_line⟩,
      fun h => ⟨h.marker, h.deeper, h.hidden, h.one_line⟩⟩

/-- Whether a block ends with its closing line. -/
structure Block.Closes (b : Block) : Prop where
  marker : Line.of b.closing = ⟨b.depth, ['.', '.', '.']⟩
  one_line : '\n' ∉ b.closing

instance (b : Block) : Decidable b.Closes :=
  decidable_of_iff (Line.of b.closing = ⟨b.depth, ['.', '.', '.']⟩ ∧ '\n' ∉ b.closing)
    ⟨fun ⟨marker, one_line⟩ => ⟨marker, one_line⟩, fun h => ⟨h.marker, h.one_line⟩⟩

/-! ## Streams around blocks -/

/-- Whether the last line of a stream that is not blank is recorded as a point. -/
def EndsWithPoint (text : String) (p : TestPoint) : Prop :=
  ∃ before line blanks, linesOf text.toList = before ++ line :: blanks ∧
    (∀ l ∈ blanks, l.text = []) ∧ (step (modeAfter {} before) line).2 = some (.point p)

/-- The first line of a stream that is not blank. -/
def firstLine? (text : String) : Option Line := (nonblank (linesOf text.toList)).head?

end TapSuite.Tap

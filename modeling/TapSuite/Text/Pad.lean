/-!
# Columns of text

A text shorter than its column is filled up with spaces; a longer one keeps its length.  Widths
count characters.
-/

namespace TapSuite.Text

/-- The text at the left end of a column. -/
def alignLeft (width : Nat) (s : String) : String := String.ofList (s.toList.rightpad width ' ')

/-- The text at the right end of a column. -/
def alignRight (width : Nat) (s : String) : String := String.ofList (s.toList.leftpad width ' ')

/-- A number in decimal digits, filled up with zeros. -/
def zeroPad (width n : Nat) : String := String.ofList ((toString n).toList.leftpad width '0')

end TapSuite.Text

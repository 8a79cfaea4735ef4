/-!
# Printed lines

What is printed is a list of lines, each ended by a line feed.  A line may hold line feeds of its
own.
-/

namespace TapSuite

/-- Lines, each with its end. -/
def printed (lines : List String) : String := String.join (lines.map (· ++ "\n"))

@[simp] theorem printed_nil : printed [] = "" := rfl

end TapSuite

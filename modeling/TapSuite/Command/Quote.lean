/-!
# Quoting words

A word between single quotes, each quote in it replaced by `'\''`, is read back as it was; so is a
list of such words with spaces between them.
-/

namespace TapSuite.Command

def quoteChar (c : Char) : List Char := if c = '\'' then ['\'', '\\', '\'', '\''] else [c]

def quoteWord (w : List Char) : List Char := '\'' :: w.flatMap quoteChar ++ ['\'']

/-- Words between single quotes, one space between two of them. -/
def quoteWords (ws : List String) : String :=
  String.ofList (List.intercalate [' '] (ws.map fun w => quoteWord w.toList))

end TapSuite.Command

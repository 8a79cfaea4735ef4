/-!
# Words of a command line

A command line is cut at spaces, tabs and line feeds into words.

* Between single quotes every character stands for itself.
* Between double quotes a backslash takes the meaning from `$`, a back quote, `"` and `\`, and
  removes a line feed; before any other character it stands for itself.
* Elsewhere a backslash takes the meaning from any character and removes a line feed.
* A `#` where a word could start begins a comment up to the end of the line.

    words? "a 'b c' d\ e" = ["a", "b c", "d e"]
-/

namespace TapSuite.Command

/-- Where the reader of a command line stands. -/
inductive Place where
  | between
  | comment
  | bare
  | escape
  | single
  | double
  | doubleEscape
  deriving DecidableEq

/-- A character that separates words. -/
def isGap (c : Char) : Bool := c = ' ' || c = '\t' || c = '\n'

/-- A character of a word outside quotes, added to the word so far, its latest character first. -/
def enter (word : List Char) (c : Char) : Place × List Char :=
  if c = '"' then (.double, word)
  else if c = '\'' then (.single, word)
  else if c = '\\' then (.escape, word)
  else (.bare, c :: word)

/-- A character that a backslash between double quotes takes the meaning from. -/
def isSpecial (c : Char) : Bool := c = '$' || c = '\x60' || c = '"' || c = '\\'

/-- The words from a place on, after the word so far, its latest character first.  None if a quote
or a backslash has nothing to go with. -/
def wordsFrom : Place → List Char → List Char → Option (List (List Char))
  | .between, _, [] => some []
  | .comment, _, [] => some []
  | .bare, word, [] => some [word.reverse]
  | _, _, [] => none
  | .between, _, c :: t =>
    if isGap c then wordsFrom .between [] t
    else if c = '#' then wordsFrom .comment [] t
    else wordsFrom (enter [] c).1 (enter [] c).2 t
  | .comment, _, c :: t => wordsFrom (if c = '\n' then .between else .comment) [] t
  | .bare, word, c :: t =>
    if isGap c then (wordsFrom .between [] t).map (word.reverse :: ·)
    else wordsFrom (enter word c).1 (enter word c).2 t
  | .escape, word, c :: t => wordsFrom .bare (if c = '\n' then word else c :: word) t
  | .single, word, c :: t =>
    if c = '\'' then wordsFrom .bare word t else wordsFrom .single (c :: word) t
  | .double, word, c :: t =>
    if c = '"' then wordsFrom .bare word t
    else if c = '\\' then wordsFrom .doubleEscape word t
    else wordsFrom .double (c :: word) t
  | .doubleEscape, word, c :: t =>
    if isSpecial c then wordsFrom .double (c :: word) t
    else if c = '\n' then wordsFrom .double word t
    else wordsFrom .double (c :: '\\' :: word) t

/-- The words of a command line; none if its quotes are unbalanced. -/
def words? (line : String) : Option (List String) :=
  (wordsFrom .between [] line.toList).map (·.map String.ofList)

end TapSuite.Command

import TapSuite.Html.Escape

/-!
# Entities

Reading escaped text back, and escaping by whole passes over a text.

    decode (escape t) = t
    escapeByPasses t  = escape t

The pass for `&` has to be the first: the later ones write `&` themselves.  In this order no pass
touches what an earlier one wrote.
-/

namespace TapSuite.Html

/-! ## Decoding -/

/-- The text that escaped text stands for, its entities read from left to right; a `&` that starts
none of them stands for itself. -/
def decode : List Char → List Char
  | '&' :: 'a' :: 'm' :: 'p' :: ';' :: t => '&' :: decode t
  | '&' :: 'l' :: 't' :: ';' :: t => '<' :: decode t
  | '&' :: 'g' :: 't' :: ';' :: t => '>' :: decode t
  | '&' :: 'q' :: 'u' :: 'o' :: 't' :: ';' :: t => '"' :: decode t
  | '&' :: '#' :: '3' :: '9' :: ';' :: t => '\'' :: decode t
  | c :: t => c :: decode t
  | [] => []

/-! ## Passes -/

/-- The characters that a document gives a meaning, with what stands for them, in the order of the
passes. -/
def entities : List (Char × List Char) :=
  [('&', ['&', 'a', 'm', 'p', ';']), ('<', ['&', 'l', 't', ';']), ('>', ['&', 'g', 't', ';']),
    ('"', ['&', 'q', 'u', 'o', 't', ';']), ('\'', ['&', '#', '3', '9', ';'])]

/-- A character as a table writes it; one that is not in the table stands for itself. -/
def writtenBy (table : List (Char × List Char)) (c : Char) : List Char :=
  (table.lookup c).getD [c]

/-- A text with a character replaced wherever it stands: the pieces between its places, joined by
what is written for it. -/
def replaceChar (c : Char) (written : List Char) (t : List Char) : List Char :=
  written.intercalate (t.splitOn c)

/-- A text after one pass over the whole of it for each entry of a table. -/
def passes (table : List (Char × List Char)) (t : List Char) : List Char :=
  table.foldl (fun t entry => replaceChar entry.1 entry.2 t) t

/-- A text escaped in five passes, one for each character. -/
def escapeByPasses (t : List Char) : List Char := passes entities t

end TapSuite.Html

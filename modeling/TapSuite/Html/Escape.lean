/-!
# Text in HTML

Five characters stand for themselves only as entities:

    &  &amp;      <  &lt;      >  &gt;      "  &quot;      '  &#39;
-/

namespace TapSuite.Html

/-- A character as it is written in a document. -/
def escapeChar (c : Char) : List Char :=
  if c = '&' then ['&', 'a', 'm', 'p', ';']
  else if c = '<' then ['&', 'l', 't', ';']
  else if c = '>' then ['&', 'g', 't', ';']
  else if c = '"' then ['&', 'q', 'u', 'o', 't', ';']
  else if c = '\'' then ['&', '#', '3', '9', ';']
  else [c]

/-- A text as it is written in a document. -/
def escape (t : List Char) : List Char := t.flatMap escapeChar

end TapSuite.Html

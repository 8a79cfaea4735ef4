/-!
# The language option

The language of messages has to be known before a command line is read, since the help text is a
message too.  So the last `--lang value` or `--lang=value` is looked for among the bare words.
-/

namespace TapSuite.Cli

/-- The value in a word `--lang=value`. -/
def languageIn? (word : String) : Option String :=
  match word.toList with
  | '-' :: '-' :: 'l' :: 'a' :: 'n' :: 'g' :: '=' :: value => some (String.ofList value)
  | _ => none

/-- The last value of the language option among some words. -/
def languageOption? : List String → Option String
  | [] => none
  | [word] => languageIn? word
  | word :: next :: rest =>
    if word = "--lang" then (languageOption? rest).or (some next)
    else (languageOption? (next :: rest)).or (languageIn? word)

end TapSuite.Cli

/-!
# Shell scripts

The syntax of a script: words, redirections, and commands put together from smaller ones.

    read x && echo got || echo eof
    i=0; while [ $i -lt 3 ]; do echo "ok $i"; i=$((i+1)); done
    echo text 1>&2; exit 4
-/

namespace TapSuite.Sandbox

/-! ## Words -/

/-- A part of a word.  `quoted` says that what the part brings in is not cut at blanks. -/
inductive WordPart where
  /-- text outside of quotes -/
  | bare (t : List Char)
  /-- text between quotes -/
  | text (t : List Char)
  /-- the value of a parameter, or a text in place of a value that is missing or empty -/
  | value (name : List Char) (fallback : Option (List Char)) (quoted : Bool)
  /-- what a script prints -/
  | output (script : List Char) (quoted : Bool)
  /-- the value of an arithmetic expression -/
  | number (expression : List Char)
  deriving DecidableEq

abbrev Word := List WordPart

/-! ## Commands -/

/-- What a redirection leads a descriptor to: a file, or another descriptor. -/
inductive RedirectKind where
  | input
  | output
  | append
  | copy
  deriving DecidableEq

structure Redirect where
  fd : Nat
  kind : RedirectKind
  target : Word
  deriving DecidableEq

/-- A command. -/
inductive Script where
  | nothing
  | simple (line : Nat) (words : List Word) (redirects : List Redirect)
  | sequence (first second : Script)
  | both (first second : Script)
  | either (first second : Script)
  | negated (c : Script)
  | piped (source sink : Script)
  | branch (condition yes no : Script)
  /-- a loop that goes on while its condition succeeds, or fails -/
  | loop (whileSuccess : Bool) (condition body : Script)
  | each (name : List Char) (items : List Word) (body : Script)
  | redirected (c : Script) (redirects : List Redirect)
  | subshell (c : Script)

end TapSuite.Sandbox

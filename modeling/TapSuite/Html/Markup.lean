import TapSuite.Html.Entity

/-!
# Markup

What a reader makes of a document's text: it is cut at its tags, and the tags have to nest.

    pieces "<b>x</b>" = [tag "b", text "x", tag "/b"]

A tag is everything from a `<` to the next `>`.  Tags that stand alone, such as `meta`, are set
aside before nesting is looked at.
-/

namespace TapSuite.Html

/-! ## Cutting -/

/-- A piece of a document's text: the inside of a tag, or what stands between two tags. -/
inductive Piece where
  | tag (inside : List Char)
  | text (between : List Char)
  deriving DecidableEq

/-- A text piece, unless it is empty. -/
def textPiece (t : List Char) : List Piece := if t.isEmpty then [] else [.text t]

/-- The pieces of a text.  `inTag` says that a tag is open, and `seen` is what of the present piece
was read so far, backwards.  A tag that never ends is text. -/
def cutPieces (inTag : Bool) (seen : List Char) : List Char → List Piece
  | [] => textPiece (if inTag then '<' :: seen.reverse else seen.reverse)
  | c :: t =>
    if inTag then
      if c = '>' then .tag seen.reverse :: cutPieces false [] t else cutPieces true (c :: seen) t
    else
      if c = '<' then textPiece seen.reverse ++ cutPieces true [] t
      else cutPieces false (c :: seen) t

def pieces (t : List Char) : List Piece := cutPieces false [] t

/-- The inside of a tag. -/
def Piece.tag? : Piece → Option (List Char)
  | .tag inside => some inside
  | .text _ => none

/-- The tags of a document's text, in order. -/
def tags (t : List Char) : List (List Char) := (pieces t).filterMap Piece.tag?

def tagName (inside : List Char) : List Char := inside.takeWhile (· ≠ ' ')

/-! ## Content -/

/-- The elements without elements in them, each as its opening tag and its text with the entities
read.  `last` is the tag before the pieces, and `seen` is the text since then. -/
def leavesFrom (last seen : List Char) : List Piece → List (List Char × List Char)
  | [] => []
  | .text between :: rest => leavesFrom last (seen ++ between) rest
  | .tag inside :: rest =>
    if inside = '/' :: tagName last then (last, decode seen) :: leavesFrom inside [] rest
    else leavesFrom inside [] rest

/-- The elements without elements in them in a document's text. -/
def leaves (t : List Char) : List (List Char × List Char) := leavesFrom [] [] (pieces t)

/-! ## Nesting -/

def standsAlone (inside : List Char) : Bool :=
  inside.head? = some '!' || tagName inside = ['m', 'e', 't', 'a']

/-- Whether every closing tag closes the tag opened last, and all tags are closed.  `openTags` are
the names of the tags that are open, the last one first. -/
def nestedFrom (openTags : List (List Char)) : List (List Char) → Bool
  | [] => openTags.isEmpty
  | inside :: rest =>
    if standsAlone inside then nestedFrom openTags rest
    else
      match inside with
      | '/' :: name =>
        match openTags with
        | [] => false
        | opened :: others => name = opened && nestedFrom others rest
      | _ => nestedFrom (tagName inside :: openTags) rest

/-- Whether the tags of a document's text nest. -/
def Nested (t : List Char) : Prop := nestedFrom [] (tags t) = true

end TapSuite.Html

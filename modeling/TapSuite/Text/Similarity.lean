/-!
# Similar words

How similar two words are, as a number from 0 to 1: the mean of three shares, those of the matched
characters in either word and that of the matched characters in the same order.

    similarity ['j', 'o', 'b'] ['j', 'o', 'b', 's'] = 11 / 12

A character matches an equal one that is at most half a word away.
-/

namespace TapSuite.Text

/-! ## Matching -/

/-- How far apart characters may match: less than half of the longer word. -/
def reach (a b : List Char) : Nat := max a.length b.length / 2 - 1

/-- The first place from `first` to `last` at which a word has a character that is still free. -/
def freePlace? (b : List Char) (taken : List Nat) (first last : Nat) (c : Char) : Option Nat :=
  (b.zipIdx.find? fun (d, j) => decide (first ≤ j ∧ j ≤ last) && d = c && !taken.contains j).map
    (·.2)

/-- The matches of a word's characters, given as the characters and the places that they match.
`i` is the place of the next character. -/
def matchesFrom (b : List Char) (reach i : Nat) (taken : List Nat) :
    List Char → List (Char × Nat)
  | [] => []
  | c :: a =>
    match freePlace? b taken (i - reach) (i + reach) c with
    | some j => (c, j) :: matchesFrom b reach (i + 1) (j :: taken) a
    | none => matchesFrom b reach (i + 1) taken a

/-- The matched characters of two words, each in its own order. -/
def matched (a b : List Char) : List Char × List Char :=
  let found := matchesFrom b (reach a b) 0 [] a
  let places := found.map (·.2)
  (found.map (·.1), (b.zipIdx.filter fun p => places.contains p.2).map (·.1))

/-! ## Measure -/

def similarity (a b : List Char) : Rat :=
  if a = [] ∧ b = [] then 1
  else
    let (inA, inB) := matched a b
    let m : Rat := inA.length
    let moved : Nat := ((inA.zip inB).filter fun (c, d) => c ≠ d).length / 2
    if inA = [] then 0 else (m / a.length + m / b.length + (m - moved) / m) / 3

/-- Whether two words are so similar that one may be meant by the other. -/
def areSimilar (a b : List Char) : Bool := decide (7 / 10 < similarity a b)

/-- The words of a list that are similar to a word, the most similar last. -/
def similarTo (a : String) (words : List String) : List String :=
  (words.filter fun b => areSimilar a.toList b.toList).mergeSort fun b c =>
    decide (similarity a.toList b.toList ≤ similarity a.toList c.toList)

end TapSuite.Text

import TapSuite.Console.Style

/-!
# Text without styles

A printed text with its colour escapes taken out:

    plain "ESC[31mno ESC[0m" = "no "

An escape is ESC, `[`, digits and semicolons, and `m`; what only begins like one stays.
-/

namespace TapSuite

/-- Whether a character can stand among the codes of an escape. -/
def isCode (c : Char) : Bool := c.isDigit || c = ';'

/-- What follows the codes of an escape and its `m`, if the text goes on like that. -/
def afterCodes? : List Char → Option (List Char)
  | [] => none
  | c :: t => if isCode c then afterCodes? t else if c = 'm' then some t else none

/-- What follows the escape that a text starts with, if it does. -/
def afterEscape? : List Char → Option (List Char)
  | '\x1b' :: '[' :: t => afterCodes? t
  | _ => none

theorem length_of_afterCodes? {t rest : List Char} (h : afterCodes? t = some rest) :
    rest.length < t.length := by
  induction t with
  | nil => simp [afterCodes?] at h
  | cons c t ih =>
    rw [afterCodes?] at h
    split at h
    · have := ih h
      simp only [List.length_cons]
      omega
    · split at h
      · simp only [Option.some.injEq] at h
        simp [h]
      · simp at h

theorem length_of_afterEscape? {t rest : List Char} (h : afterEscape? t = some rest) :
    rest.length < t.length := by
  unfold afterEscape? at h
  split at h
  · have := length_of_afterCodes? h
    simp only [List.length_cons]
    omega
  · simp at h

/-- The text without its escapes. -/
def plain (t : List Char) : List Char :=
  match _h : afterEscape? t with
  | some rest => plain rest
  | none =>
    match t with
    | [] => []
    | c :: t => c :: plain t
  termination_by t.length
  decreasing_by
    · exact length_of_afterEscape? _h
    · simp

end TapSuite

/-!
# Blank characters

The characters with the property White_Space, and the three ways to cut them off a text.

    trimStart t = t.dropWhile isBlank
    trimEnd   t = (trimStart t.reverse).reverse
    trim      t = trimEnd (trimStart t)

Texts are lists of characters here, so that cutting is a list function.
-/

namespace TapSuite.Text

/-! ## The class -/

/-- The 25 code points with the property White_Space. -/
def isBlank (c : Char) : Bool :=
  let n := c.toNat
  (9 ≤ n && n ≤ 13) || n == 0x20 || n == 0x85 || n == 0xA0 || n == 0x1680 ||
    (0x2000 ≤ n && n ≤ 0x200A) || n == 0x2028 || n == 0x2029 || n == 0x202F || n == 0x205F ||
    n == 0x3000

/-! ## Cutting -/

def trimStart (t : List Char) : List Char := t.dropWhile isBlank

def trimEnd (t : List Char) : List Char := (t.reverse.dropWhile isBlank).reverse

def trim (t : List Char) : List Char := trimEnd (trimStart t)

def indent (t : List Char) : List Char := t.takeWhile isBlank

/-- The bytes that a text takes in UTF-8. -/
def width : List Char → Nat
  | [] => 0
  | c :: t => c.utf8Size + width t

/-! ## Lemmas -/

@[simp] theorem trimStart_nil : trimStart [] = [] := rfl

@[simp] theorem trimEnd_nil : trimEnd [] = [] := rfl

theorem trimStart_cons (c : Char) (t : List Char) :
    trimStart (c :: t) = if isBlank c then trimStart t else c :: t := by
  unfold trimStart
  rw [List.dropWhile_cons]

theorem indent_append_trimStart (t : List Char) : indent t ++ trimStart t = t :=
  List.takeWhile_append_dropWhile

@[simp] theorem width_nil : width [] = 0 := rfl

@[simp] theorem width_cons (c : Char) (t : List Char) : width (c :: t) = c.utf8Size + width t := rfl

@[simp] theorem width_append (s t : List Char) : width (s ++ t) = width s + width t := by
  induction s with
  | nil => simp
  | cons c s ih => simp [ih, Nat.add_assoc]

end TapSuite.Text

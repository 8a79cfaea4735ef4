import Mathlib
import TapSuite.Proofs.Text.Offset
import TapSuite.Tap.Offset
import TapSuite.Tap.Printer

/-!
# Words of directives

A comment has a directive exactly if it starts, after its blanks, with the directive's word in any
case.  The word is as wide as it has letters, so its bytes can be cut off instead of its characters.

    directive? comment = some d ↔ StartsWith d.word comment                 (directive?_eq_some_iff)
    directiveByOffsets? comment = directive? comment                        (directiveByOffsets?_eq)
-/

namespace TapSuite.Tap

open Text

/-! ## Letters in any case -/

/-- Whether letters write a word, each as it is in the word or small. -/
def Spells (word letters : List Char) : Prop :=
  List.Forall₂ (fun u c => c = u ∨ c = u.toLower) word letters

/-- Whether a comment starts with a word in any case, after its blanks. -/
def StartsWith (word comment : List Char) : Prop :=
  ∃ letters rest, trimStart comment = letters ++ rest ∧ Spells word letters

theorem toUpper_eq_iff {u : Char} (hu : u.isUpper = true) (c : Char) :
    c.toUpper = u ↔ c = u ∨ c = u.toLower := by
  have hself : u.toUpper = u := Char.toUpper_eq_of_not_isLower (Char.not_isLower_of_isUpper hu)
  constructor
  · rintro rfl
    by_cases hc : c.isLower = true
    · right
      rw [Char.toLower_toUpper_eq_toLower]
      exact (Char.toLower_eq_of_not_isUpper (Char.not_isUpper_of_isLower hc)).symm
    · exact .inl (Char.toUpper_eq_of_not_isLower hc).symm
  · rintro (rfl | rfl)
    · exact hself
    · rw [Char.toUpper_toLower_eq_toUpper, hself]

/-- A letter is one byte wide, capital or small. -/
theorem utf8Size_of_isAlpha {c : Char} (h : c.isAlpha = true) : c.utf8Size = 1 := by
  rw [Char.utf8Size_eq_one_iff]
  simp only [Char.isAlpha, Char.isUpper, Char.isLower, Bool.or_eq_true, Bool.and_eq_true,
    decide_eq_true_eq] at h
  rcases h with ⟨-, hle⟩ | ⟨-, hle⟩
  · exact UInt32.le_trans hle (by decide)
  · exact UInt32.le_trans hle (by decide)

section

variable {word letters : List Char} (hword : ∀ u ∈ word, u.isUpper = true)

include hword

theorem map_toUpper_eq_iff : letters.map Char.toUpper = word ↔ Spells word letters := by
  unfold Spells
  induction word generalizing letters with
  | nil => rw [List.map_eq_nil_iff, List.forall₂_nil_left_iff]
  | cons u word ih =>
    obtain ⟨hu, hrest⟩ := List.forall_mem_cons.mp hword
    cases letters with
    | nil => simp
    | cons c letters =>
      rw [List.map_cons, List.cons_eq_cons, List.forall₂_cons, toUpper_eq_iff hu, ih hrest]

/-- A word is as wide as it has letters, whatever their case. -/
theorem width_of_spells (h : Spells word letters) :
    width letters = word.length ∧ letters.length = word.length := by
  refine ⟨?_, h.length_eq.symm⟩
  induction h with
  | nil => rfl
  | @cons u c word letters hc _ ih =>
    obtain ⟨hu, hrest⟩ := List.forall_mem_cons.mp hword
    have halpha : c.isAlpha = true := by
      rcases hc with rfl | rfl <;> simp [Char.isAlpha, hu]
    rw [width_cons, utf8Size_of_isAlpha halpha, ih hrest, List.length_cons, Nat.add_comm]

end

/-! ## Directives -/

theorem isUpper_word (d : Directive) : ∀ u ∈ d.word, u.isUpper = true := by
  cases d <;> exact List.all_eq_true.mp rfl

theorem length_word (d : Directive) : d.word.length = 4 := by
  cases d <;> rfl

/-- Of a comment's first letters only those of a word make a directive. -/
theorem directive_of_letters {letters : List Char} {d : Directive} :
    (if letters.map Char.toUpper = ['S', 'K', 'I', 'P'] then some .skip
      else if letters.map Char.toUpper = ['T', 'O', 'D', 'O'] then some .todo
      else none) = some d ↔ Spells d.word letters := by
  rw [← map_toUpper_eq_iff (isUpper_word d)]
  cases d with
  | skip =>
    rw [Directive.word]
    split
    · next h => simp [h]
    · next h => split <;> simp [h]
  | todo =>
    rw [Directive.word]
    split
    · next h => simp [h]
    · next h => split <;> simp_all

/-- The first four characters tell the directive of a comment. -/
theorem directive?_eq_some_iff {comment : List Char} {d : Directive} :
    directive? comment = some d ↔ StartsWith d.word comment := by
  unfold directive?
  rw [directive_of_letters]
  constructor
  · intro h
    exact ⟨_, _, (List.take_append_drop 4 _).symm, h⟩
  · rintro ⟨letters, rest, hsplit, h⟩
    have hlength : letters.length = 4 :=
      (width_of_spells (isUpper_word d) h).2.trans (length_word d)
    rwa [hsplit, ← hlength, List.take_left]

/-- The first four bytes tell the directive of a comment. -/
theorem directiveByOffsets?_eq_some_iff {comment : List Char} {d : Directive} :
    directiveByOffsets? comment = some d ↔ StartsWith d.word comment := by
  unfold directiveByOffsets?
  constructor
  · intro h
    split at h
    · cases h
    · next letters hletters =>
      obtain ⟨rest, hsplit, -⟩ := before?_eq_some_iff.mp hletters
      exact ⟨letters, rest, hsplit, directive_of_letters.mp h⟩
  · rintro ⟨letters, rest, hsplit, h⟩
    have hwidth : width letters = 4 :=
      (width_of_spells (isUpper_word d) h).1.trans (length_word d)
    rw [hsplit, ← hwidth, before?_width]
    exact directive_of_letters.mpr h

theorem directiveByOffsets?_eq (comment : List Char) :
    directiveByOffsets? comment = directive? comment := by
  apply Option.ext
  intro d
  rw [directiveByOffsets?_eq_some_iff, directive?_eq_some_iff]

/-- A comment that cannot be cut after four bytes has no directive. -/
theorem directiveByOffsets?_of_not_boundary {comment : List Char}
    (h : isBoundary (Utf8.encode (trimStart comment)) 4 = false) :
    directiveByOffsets? comment = none := by
  have hnone : cutAt? 4 (trimStart comment) = none := by
    rw [← Option.not_isSome_iff_eq_none, isSome_cutAt?, h]
    exact Bool.false_ne_true
  rw [directiveByOffsets?, before?, hnone]
  rfl

end TapSuite.Tap

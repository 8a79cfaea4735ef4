import Mathlib.Data.List.Basic
import Mathlib.Data.List.TakeWhile
import TapSuite.Proofs.Results
import TapSuite.Proofs.Text.Digits
import TapSuite.Toml.Parser

/-!
# Integers of a document

An integer in decimal digits is read as it is written, whatever its size.

    bareValue? (toString n).toList = some (.integer n)                     (bareValue?_toString)
-/

namespace TapSuite.Toml

/-! ## Digits -/

def digitsOf (n : Nat) : List Char := Nat.toDigits 10 n

theorem isDigit_of_mem_digitsOf {n : Nat} {c : Char} (h : c ∈ digitsOf n) : c.isDigit = true :=
  Text.isDigit_of_mem_toDigits h

theorem hexDigit?_of_isDigit {c : Char} (h : c.isDigit = true) :
    hexDigit? c = some (c.toNat - '0'.toNat) ∧ c.toNat - '0'.toNat < 10 := by
  simp only [Char.isDigit, Bool.and_eq_true, decide_eq_true_eq, UInt32.le_iff_toNat_le] at h
  have hlow : 48 ≤ c.toNat := h.1
  have hhigh : c.toNat ≤ 57 := h.2
  have hlt : c.toNat - 48 < 10 := by omega
  exact ⟨if_pos ⟨hlow, hhigh⟩, hlt⟩

theorem ofDigits_digitsOf (n : Nat) : ofDigits 10 (digitsOf n) = n := by
  have hfold : ∀ digits : List Char, (∀ c ∈ digits, c.isDigit = true) → ∀ m,
      digits.foldl (fun n c => 10 * n + (hexDigit? c).getD 0) m = Nat.ofDigitChars 10 digits m := by
    intro digits
    induction digits with
    | nil => exact fun _ _ => rfl
    | cons c t ih =>
      intro h m
      obtain ⟨hc, ht⟩ := List.forall_mem_cons.mp h
      rw [List.foldl_cons, ih ht, (hexDigit?_of_isDigit hc).1]
      rfl
  rw [ofDigits, hfold _ fun _ => isDigit_of_mem_digitsOf]
  exact Nat.ofDigitChars_ten_toDigits

theorem runOf?_digitsOf (n : Nat) : runOf? 10 (digitsOf n) = some n := by
  have hall : (digitsOf n).all (fun c => (hexDigit? c).any (· < 10)) = true := by
    rw [List.all_eq_true]
    intro c hc
    obtain ⟨hdigit, hlt⟩ := hexDigit?_of_isDigit (isDigit_of_mem_digitsOf hc)
    rw [hdigit]
    exact decide_eq_true hlt
  rw [runOf?, if_pos ⟨Nat.toDigits_ne_nil, hall⟩, ofDigits_digitsOf]

/-! ## Integers -/

/-- A minus sign, for a number below zero. -/
def signOf (negative : Bool) : List Char := if negative then ['-'] else []

theorem unsigned_digitsOf (negative : Bool) (n : Nat) :
    unsigned (signOf negative ++ digitsOf n) = (negative, digitsOf n) := by
  cases negative with
  | true => rfl
  | false =>
    cases hdigits : digitsOf n with
    | nil => exact absurd hdigits Nat.toDigits_ne_nil
    | cons c t =>
      have hc : c.isDigit = true := isDigit_of_mem_digitsOf (hdigits ▸ List.mem_cons_self)
      unfold unsigned
      split
      · next heq =>
        cases heq
        cases hc
      · next heq =>
        cases heq
        cases hc
      · rfl

/-- The decimal integer that a word of a sign and digits writes. -/
theorem integer?_digitsOf (negative : Bool) (n : Nat) :
    integer? (signOf negative ++ digitsOf n) =
      some (.integer (if negative then -(n : Int) else n)) := by
  have hlow : '_' ∉ signOf negative ++ digitsOf n := by
    intro h
    rcases List.mem_append.mp h with hsign | hdigit
    · cases negative <;> simp [signOf] at hsign
    · cases isDigit_of_mem_digitsOf hdigit
  have hkept : (signOf negative ++ digitsOf n).filter (· ≠ '_') =
      signOf negative ++ digitsOf n := by
    rw [List.filter_eq_self]
    intro c hc
    exact decide_eq_true fun h => hlow (h ▸ hc)
  have hdrop : dropLowLines? isHexDigit (signOf negative ++ digitsOf n) =
      some (signOf negative ++ digitsOf n) := by
    rw [dropLowLines?, List.splitOn_eq_singleton hlow, hkept]
    rfl
  simp only [integer?, hdrop, Option.map_some, unsigned_digitsOf, runOf?_digitsOf]

theorem leadingZero_digitsOf (n : Nat) :
    ¬ ((digitsOf n).head? = some '0' ∧ 1 < (digitsOf n).length) := by
  rintro ⟨hhead, hlength⟩
  rcases Nat.eq_zero_or_pos n with rfl | hpos
  · revert hlength
    decide
  · exact Text.head_toDigits hpos hhead

theorem numberOrMoment?_digitsOf (negative : Bool) (n : Nat) :
    numberOrMoment? (signOf negative ++ digitsOf n) =
      some (.integer (if negative then -(n : Int) else n)) := by
  have hrest : (digitsOf n).dropWhile Char.isDigit = [] :=
    List.dropWhile_eq_nil_iff.mpr fun c => isDigit_of_mem_digitsOf
  simp only [numberOrMoment?, unsigned_digitsOf, hrest]
  rw [if_neg, integer?_digitsOf]
  rintro (hnil | hzero)
  · exact Nat.toDigits_ne_nil hnil
  · exact leadingZero_digitsOf n hzero

theorem sign_or_digit {negative : Bool} {n : Nat} {c : Char}
    (h : c ∈ signOf negative ++ digitsOf n) : c = '-' ∨ c.isDigit = true := by
  rcases List.mem_append.mp h with hsign | hdigit
  · cases negative with
    | false => cases hsign
    | true => exact .inl (List.mem_singleton.mp hsign)
  · exact .inr (isDigit_of_mem_digitsOf hdigit)

/-- A word with some other character than a sign and digits is no decimal integer. -/
theorem ne_of_mem {negative : Bool} {n : Nat} {word : List Char} {c : Char} (hc : c ∈ word)
    (h : ¬ (c = '-' ∨ c.isDigit = true)) : signOf negative ++ digitsOf n ≠ word :=
  fun heq => h (sign_or_digit (heq ▸ hc))

theorem bareValue?_digitsOf (negative : Bool) (n : Nat) :
    bareValue? (signOf negative ++ digitsOf n) =
      some (.integer (if negative then -(n : Int) else n)) := by
  have hplain {word : List Char} {c : Char} (hc : c ∈ word) (h : ¬ (c = '-' ∨ c.isDigit = true)) :
      digitsOf n ≠ word := fun heq => h (.inr (isDigit_of_mem_digitsOf (heq ▸ hc)))
  simp only [bareValue?, unsigned_digitsOf]
  rw [if_neg (ne_of_mem (c := 't') (by decide) (by decide)),
    if_neg (ne_of_mem (c := 'f') (by decide) (by decide)),
    if_neg (hplain (c := 'i') (by decide) (by decide)),
    if_neg (hplain (c := 'n') (by decide) (by decide))]
  split
  · next heq => exact absurd heq (ne_of_mem (c := 'x') (by simp) (by decide))
  · next heq => exact absurd heq (ne_of_mem (c := 'o') (by simp) (by decide))
  · next heq => exact absurd heq (ne_of_mem (c := 'b') (by simp) (by decide))
  · exact numberOrMoment?_digitsOf negative n

theorem exists_sign_digits (n : Int) : ∃ negative m,
    (toString n).toList = signOf negative ++ digitsOf m ∧
      (if negative then -(m : Int) else m) = n := by
  cases n with
  | ofNat m =>
    refine ⟨false, m, ?_, rfl⟩
    rw [Int.toString_eq_repr]
    exact Nat.toList_repr
  | negSucc m =>
    refine ⟨true, m + 1, ?_, rfl⟩
    rw [Int.toString_eq_repr]
    change ("-" ++ (m + 1).repr).toList = _
    rw [String.toList_append, Nat.toList_repr]
    rfl

/-- An integer in decimal digits is read as it is. -/
theorem bareValue?_toString (n : Int) : bareValue? (toString n).toList = some (.integer n) := by
  obtain ⟨negative, m, htext, hvalue⟩ := exists_sign_digits n
  rw [htext, bareValue?_digitsOf, hvalue]

end TapSuite.Toml

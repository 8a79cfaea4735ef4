import Mathlib.Data.List.Basic

/-!
# Decimal digits

The digits of a number are found again at the start of a text, and their value is the number.

    takeWhile isDigit (digits n ++ t) = digits n          if t starts with no digit
    the value of (digits n) is n
    only 0 is written with a 0 in front                                       (head_toDigits)
-/

namespace TapSuite.Text

/-! ## Members -/

theorem toList_toString (n : Nat) : (toString n).toList = Nat.toDigits 10 n := by
  rw [Nat.toString_eq_repr, Nat.toList_repr]

theorem isDigit_of_mem_toDigits {n : Nat} {c : Char} (h : c ∈ Nat.toDigits 10 n) :
    c.isDigit = true :=
  Nat.isDigit_of_mem_toDigits (by decide) (by decide) h

/-- Only zero is written with a zero in front. -/
theorem head_toDigits {n : Nat} (h : 0 < n) : (Nat.toDigits 10 n).head? ≠ some '0' := by
  induction n using Nat.strongRecOn with
  | ind n ih =>
    by_cases hlt : n < 10
    · have hdigit : ∀ d < 10, 0 < d → Nat.digitChar d ≠ '0' := by decide
      rw [Nat.toDigits_of_lt_base hlt]
      exact fun hzero => hdigit n hlt h (Option.some.inj hzero)
    -- all digits but the last one are those of a smaller number
    · rw [Nat.toDigits_of_base_le (by decide) (Nat.le_of_not_lt hlt),
        List.head?_append_of_ne_nil (Nat.toDigits 10 (n / 10)) Nat.toDigits_ne_nil]
      exact ih (n / 10) (by omega) (by omega)

/-! ## Reading -/

theorem takeWhile_toDigits (n : Nat) {t : List Char} (ht : t.head?.all (!·.isDigit)) :
    (Nat.toDigits 10 n ++ t).takeWhile Char.isDigit = Nat.toDigits 10 n ∧
      (Nat.toDigits 10 n ++ t).dropWhile Char.isDigit = t := by
  rw [List.takeWhile_append_of_pos fun _ => isDigit_of_mem_toDigits,
    List.dropWhile_append_of_pos fun _ => isDigit_of_mem_toDigits]
  cases t with
  | nil => exact ⟨List.append_nil _, rfl⟩
  | cons c t =>
    have hc : ¬ c.isDigit = true := by simpa using ht
    rw [List.takeWhile_cons_of_neg hc, List.dropWhile_cons_of_neg hc, List.append_nil]
    exact ⟨rfl, rfl⟩

/-- The value of a number's digits is the number. -/
theorem foldl_toDigits (n : Nat) :
    (Nat.toDigits 10 n).foldl (fun n c => 10 * n + (c.toNat - '0'.toNat)) 0 = n :=
  Nat.ofDigitChars_ten_toDigits

end TapSuite.Text

import TapSuite.Proofs.Text.Digits
import TapSuite.Text.Pad
import TapSuite.Time.Timestamp

/-!
# Texts without a character

Numbers and times hold no character that a document or a terminal gives a meaning: none but digits
and the marks between them.

    Lacks x (s ++ t) ↔ Lacks x s ∧ Lacks x t                                         (lacks_append)
    Lacks x (toString n)                       if x is no digit                    (lacks_toString)
-/

namespace TapSuite

variable {x : Char} {s t : String}

def Lacks (x : Char) (s : String) : Prop := x ∉ s.toList

/-! ## Putting texts together -/

namespace Lacks

/-- The characters of a literal are looked through. -/
theorem literal {l : List Char} (h : s = String.ofList l) (hl : l.all (· ≠ x) = true) :
    Lacks x s := by
  rw [Lacks, h, String.toList_ofList]
  exact fun hmem => of_decide_eq_true (List.all_eq_true.mp hl x hmem) rfl

theorem ite {p : Prop} [Decidable p] (h : Lacks x s) (k : Lacks x t) :
    Lacks x (if p then s else t) := by
  split
  · exact h
  · exact k

end Lacks

theorem lacks_append : Lacks x (s ++ t) ↔ Lacks x s ∧ Lacks x t := by
  rw [Lacks, String.toList_append, List.mem_append, not_or, ← Lacks, ← Lacks]

theorem lacks_join {l : List String} : Lacks x (String.join l) ↔ ∀ s ∈ l, Lacks x s := by
  rw [Lacks, String.toList_join, List.mem_flatMap]
  exact ⟨fun h s hs hmem => h ⟨s, hs, hmem⟩, fun h ⟨s, hs, hmem⟩ => h s hs hmem⟩

/-! ## Numbers, columns and times -/

/-- A number is written in digits. -/
theorem lacks_toString (hx : x.isDigit = false) (n : Nat) : Lacks x (toString n) := by
  rw [Lacks, Text.toList_toString]
  exact fun hmem => Bool.false_ne_true (hx.symm.trans (Text.isDigit_of_mem_toDigits hmem))

/-- An integer is written in digits, after a sign if it is negative. -/
theorem lacks_toString_int (hx : x.isDigit = false) (hsign : x ≠ '-') (n : Int) :
    Lacks x (toString n) := by
  cases n with
  | ofNat n => exact lacks_toString hx n
  | negSucc n =>
    show Lacks x ("-" ++ toString (n + 1))
    refine lacks_append.mpr ⟨?_, lacks_toString hx (n + 1)⟩
    simpa [Lacks] using hsign

theorem lacks_zeroPad (hx : x.isDigit = false) (width n : Nat) :
    Lacks x (Text.zeroPad width n) := by
  rw [Lacks, Text.zeroPad, String.toList_ofList, List.leftpad, List.mem_append, not_or]
  refine ⟨fun hmem => ?_, lacks_toString hx n⟩
  rw [List.eq_of_mem_replicate hmem] at hx
  exact Bool.false_ne_true hx.symm

theorem lacks_alignLeft (hx : x ≠ ' ') (width : Nat) (h : Lacks x s) :
    Lacks x (Text.alignLeft width s) := by
  rw [Lacks, Text.alignLeft, String.toList_ofList, List.rightpad, List.mem_append, not_or]
  exact ⟨h, fun hmem => hx (List.eq_of_mem_replicate hmem)⟩

theorem lacks_alignRight (hx : x ≠ ' ') (width : Nat) (h : Lacks x s) :
    Lacks x (Text.alignRight width s) := by
  rw [Lacks, Text.alignRight, String.toList_ofList, List.leftpad, List.mem_append, not_or]
  exact ⟨fun hmem => hx (List.eq_of_mem_replicate hmem), h⟩

theorem lacks_hundredths (hx : x.isDigit = false) (hpoint : x ≠ '.') (n : Nat) :
    Lacks x (Decimal.hundredths n) := by
  have hdigits := lacks_toString hx
  have hzero : Lacks x "0" := hdigits 0
  have hmark : Lacks x "." := by simpa [Lacks] using hpoint
  have hpadded : Lacks x ("0" ++ toString (n % 100)) := lacks_append.mpr ⟨hzero, hdigits _⟩
  rw [Decimal.hundredths, lacks_append, lacks_append]
  exact ⟨⟨hdigits _, hmark⟩, .ite hpadded (hdigits _)⟩

theorem lacks_spanText (hx : x.isDigit = false) (hpoint : x ≠ '.') (d : Span) : Lacks x d.text :=
  lacks_hundredths hx hpoint _

theorem lacks_dateText (d : Date) : Lacks '<' d.text := by
  have hpad := lacks_zeroPad (x := '<') rfl
  have hsign : Lacks '<' (if d.year < 0 then "-" else if 9999 < d.year then "+" else "") :=
    .ite (.literal rfl rfl) (.ite (.literal rfl rfl) (.literal rfl rfl))
  simp only [Date.text, Date.yearText, lacks_append]
  exact ⟨⟨⟨⟨⟨hsign, hpad _ _⟩, .literal rfl rfl⟩, hpad _ _⟩, .literal rfl rfl⟩, hpad _ _⟩

theorem lacks_timestampText (t : Timestamp) : Lacks '<' t.text := by
  have hpad := lacks_zeroPad (x := '<') rfl
  simp only [Timestamp.text, Timestamp.clock, hourMinute, lacks_append]
  exact ⟨⟨lacks_dateText t.date, .literal rfl rfl⟩,
    ⟨⟨⟨hpad _ _, .literal rfl rfl⟩, hpad _ _⟩, .literal rfl rfl⟩, hpad _ _⟩

end TapSuite

import TapSuite.Json.Parser
import TapSuite.Json.Printer
import TapSuite.Proofs.Text.Digits

/-!
# Written texts and numbers are read back

Texts and numbers of JSON, followed by whatever comes next, are read as what was written.

    readText? (s in quotes, without the first ++ rest) = some (s, rest)      (readText?_writeText)
    readNumber? (n ++ rest) = some (n, rest)                                 (readNumber?_toString)

What comes after a number must not go on with it.
-/

namespace TapSuite.Json

/-! ## Characters -/

/-- The characters with a letter of their own. -/
def short : List Char := ['"', '\\', '\x08', '\t', '\n', '\x0c', '\r']

theorem shortEscape?_of_not_mem {c : Char} (h : c ∉ short) : shortEscape? c = none := by
  simp only [short, List.mem_cons, List.not_mem_nil, or_false, not_or] at h
  obtain ⟨hquote, hslash, hb, ht, hn, hf, hr⟩ := h
  rw [shortEscape?, if_neg hquote, if_neg hslash, if_neg hb, if_neg ht, if_neg hn, if_neg hf,
    if_neg hr]

/-- The escape of a control character is read as its number. -/
theorem hexUnit?_control {n : Nat} (h : n < 0x20) :
    hexUnit? '0' '0' (Nat.digitChar (n / 16)) (Nat.digitChar (n % 16)) = some n := by
  have hall : ∀ n < 0x20,
      hexUnit? '0' '0' (Nat.digitChar (n / 16)) (Nat.digitChar (n % 16)) = some n := by decide
  exact hall n h

/-- A written character is read before what follows it. -/
theorem readUnits?_writeChar (c : Char) (rest : List Char) :
    readUnits? (writeChar c ++ rest) =
      (readUnits? rest).map fun (units, rest) => (c.toNat :: units, rest) := by
  by_cases hshort : c ∈ short
  · simp only [short, List.mem_cons, List.not_mem_nil, or_false] at hshort
    obtain rfl | rfl | rfl | rfl | rfl | rfl | rfl := hshort <;> rfl
  rw [writeChar, shortEscape?_of_not_mem hshort]
  dsimp only
  split
  · next hcontrol =>
    simp only [List.cons_append, List.nil_append, readUnits?, hexUnit?_control hcontrol]
  · next hprint =>
    have hquote : c ≠ '"' := fun h => hshort (h ▸ List.mem_cons_self)
    have hslash : c ≠ '\\' := fun h => hshort (h ▸ List.mem_cons_of_mem _ List.mem_cons_self)
    rw [List.singleton_append, readUnits?]
    · exact if_neg (not_or.mpr ⟨hslash, hprint⟩)
    · exact hquote
    · exact fun _ _ _ _ _ hc => absurd hc hslash
    · exact fun _ _ hc => absurd hc hslash

theorem readUnits?_flatMap (t rest : List Char) :
    readUnits? (t.flatMap writeChar ++ '"' :: rest) = some (t.map Char.toNat, rest) := by
  induction t with
  | nil => rfl
  | cons c t ih =>
    rw [List.flatMap_cons, List.append_assoc, readUnits?_writeChar, ih]
    rfl

/-! ## Units -/

/-- No character is half of a surrogate pair. -/
theorem not_half (c : Char) : isHighHalf c.toNat = false ∧ isLowHalf c.toNat = false := by
  have hvalid : c.toNat < 0xD800 ∨ 0xDFFF < c.toNat ∧ c.toNat < 0x110000 := c.valid
  simp only [isHighHalf, isLowHalf, Bool.and_eq_false_iff, decide_eq_false_iff_not]
  omega

theorem ofUnits?_map (t : List Char) : ofUnits? (t.map Char.toNat) = some t := by
  induction t with
  | nil => rfl
  | cons c t ih =>
    obtain ⟨hhigh, hlow⟩ := not_half c
    cases t with
    | nil =>
      rw [List.map_cons, List.map_nil, ofUnits?, hhigh, hlow, Char.ofNat_toNat]
      rfl
    | cons d t =>
      rw [List.map_cons, List.map_cons, ofUnits?, hhigh, hlow, ← List.map_cons, ih,
        Char.ofNat_toNat]
      rfl

/-- A written text is read back, whatever follows it. -/
theorem readText?_writeText (s : String) (rest : List Char) :
    readText? (s.toList.flatMap writeChar ++ '"' :: rest) = some (s, rest) := by
  rw [readText?, readUnits?_flatMap]
  dsimp only
  rw [ofUnits?_map, Option.map_some, String.ofList_toList]

/-! ## Numbers -/

/-- A text that does not go on with a number in front of it. -/
def EndsNumber (t : List Char) : Prop :=
  t.head?.all (!·.isDigit) = true ∧ continuesNumber t = false

theorem readNatural?_toDigits (n : Nat) {rest : List Char} (h : EndsNumber rest) :
    readNatural? (Nat.toDigits 10 n ++ rest) = some (n, rest) := by
  obtain ⟨htake, hdrop⟩ := Text.takeWhile_toDigits n h.1
  have hplain : isPlainNumber (Nat.toDigits 10 n) = true := by
    obtain rfl | hpos := Nat.eq_zero_or_pos n
    · rfl
    · have hne : (Nat.toDigits 10 n).isEmpty = false :=
        List.isEmpty_eq_false_iff.mpr Nat.toDigits_ne_nil
      rw [isPlainNumber, hne, decide_eq_true (Text.head_toDigits hpos)]
      rfl
  simp only [readNatural?, htake, hdrop, hplain, h.2]
  rw [ofDigits, Text.foldl_toDigits]
  rfl

theorem toList_negSucc (n : Nat) :
    (toString (Int.negSucc n)).toList = '-' :: Nat.toDigits 10 (n + 1) := by
  change ("-" ++ toString (n + 1)).toList = _
  rw [String.toList_append, Text.toList_toString]
  rfl

/-- A number starts with a digit or a sign. -/
theorem exists_toString (n : Int) :
    ∃ c t, (toString n).toList = c :: t ∧ (c.isDigit = true ∨ c = '-') := by
  cases n with
  | ofNat n =>
    have hdigits : (toString (Int.ofNat n)).toList = Nat.toDigits 10 n := Text.toList_toString n
    obtain ⟨c, t, hcons⟩ := List.exists_cons_of_ne_nil (Nat.toDigits_ne_nil (n := n) (b := 10))
    refine ⟨c, t, hdigits.trans hcons, .inl (Text.isDigit_of_mem_toDigits (n := n) ?_)⟩
    rw [hcons]
    exact List.mem_cons_self
  | negSucc n => exact ⟨'-', _, toList_negSucc n, .inr rfl⟩

/-- A written number is read back, if what follows does not go on with it. -/
theorem readNumber?_toString (n : Int) {rest : List Char} (h : EndsNumber rest) :
    readNumber? ((toString n).toList ++ rest) = some (n, rest) := by
  cases n with
  | ofNat n =>
    have hdigits : (toString (Int.ofNat n)).toList = Nat.toDigits 10 n := Text.toList_toString n
    have hread := readNatural?_toDigits n h
    rw [hdigits]
    rw [readNumber?.eq_def]
    split
    · next t heq =>
      -- no digit is a minus sign
      have hhead : (Nat.toDigits 10 n ++ rest).head? = some '-' := heq ▸ rfl
      rw [List.head?_append_of_ne_nil _ Nat.toDigits_ne_nil] at hhead
      exact absurd (Text.isDigit_of_mem_toDigits (List.mem_of_mem_head? hhead)) (by decide)
    · rw [hread]
      rfl
  | negSucc n =>
    rw [toList_negSucc, List.cons_append, readNumber?, readNatural?_toDigits (n + 1) h]
    rfl

end TapSuite.Json

import TapSuite.Proofs.Text.Utf8
import TapSuite.Text.Blank
import TapSuite.Text.Offset

/-!
# Offsets and characters

A text is cut exactly at its boundaries, the pieces are the bytes on either side, and a byte below
0x80 is always a character of its own.

    cutAt? n t = some (a, b) ↔ t = a ++ b ∧ width a = n                        (cutAt?_eq_some_iff)
    (cutAt? n t).isSome = isBoundary (encode t) n                                    (isSome_cutAt?)
    (encode t)[n]? = the byte of x ↔ x stands n bytes into t               (getElem?_encode_eq_iff)
-/

namespace TapSuite.Text

open Utf8

/-! ## Widths -/

theorem length_encode (t : List Char) : (encode t).length = width t := by
  induction t with
  | nil => rfl
  | cons c t ih =>
    rw [encode_cons, List.length_append, String.length_utf8EncodeChar, ih, width_cons]

theorem width_pos {t : List Char} (h : t ≠ []) : 0 < width t := by
  obtain ⟨c, s, rfl⟩ := List.exists_cons_of_ne_nil h
  have hpos := c.utf8Size_pos
  rw [width_cons]
  omega

theorem width_concat {c : Char} (hc : c.utf8Size = 1) (t : List Char) :
    width (t ++ [c]) = width t + 1 := by
  rw [width_append, width_cons, hc, width_nil]

/-- A text can be cut after a number of bytes in one way only. -/
theorem append_inj_of_width {a b a' b' : List Char} (h : a ++ b = a' ++ b')
    (hwidth : width a = width a') : a = a' ∧ b = b' := by
  induction a generalizing a' with
  | nil =>
    cases a' with
    | nil => exact ⟨rfl, h⟩
    | cons c a' =>
      have hpos := c.utf8Size_pos
      rw [width_nil, width_cons] at hwidth
      omega
  | cons c a ih =>
    have hpos := c.utf8Size_pos
    cases a' with
    | nil =>
      rw [width_nil, width_cons] at hwidth
      omega
    | cons d a' =>
      obtain ⟨rfl, htail⟩ := List.cons_eq_cons.mp h
      rw [width_cons, width_cons] at hwidth
      obtain ⟨rfl, rfl⟩ := ih htail (by omega)
      exact ⟨rfl, rfl⟩

/-! ## Cuts -/

theorem cutAt?_width (a b : List Char) : cutAt? (width a) (a ++ b) = some (a, b) := by
  induction a with
  | nil => cases b <;> rfl
  | cons c a ih =>
    have hpos := c.utf8Size_pos
    rw [List.cons_append, width_cons, cutAt?, if_neg (by omega), if_pos (by omega),
      Nat.add_sub_cancel_left, ih]
    rfl

theorem before?_width (a b : List Char) : before? (width a) (a ++ b) = some a := by
  rw [before?, cutAt?_width]
  rfl

theorem cutAt?_eq_some_iff {n : Nat} {t a b : List Char} :
    cutAt? n t = some (a, b) ↔ t = a ++ b ∧ width a = n := by
  constructor
  · intro h
    fun_induction cutAt? n t generalizing a with
    | case1 => cases h; exact ⟨rfl, rfl⟩
    | case2 => cases h
    | case3 => cases h; exact ⟨rfl, rfl⟩
    | case4 n c t _ hle ih =>
      obtain ⟨⟨a', b'⟩, hcut, heq⟩ := Option.map_eq_some_iff.mp h
      cases heq
      obtain ⟨rfl, hwidth⟩ := ih hcut
      refine ⟨rfl, ?_⟩
      rw [width_cons]
      omega
    | case5 => cases h
  · rintro ⟨rfl, rfl⟩
    exact cutAt?_width a b

theorem before?_eq_some_iff {n : Nat} {t a : List Char} :
    before? n t = some a ↔ ∃ b, t = a ++ b ∧ width a = n := by
  simp only [before?, Option.map_eq_some_iff, Prod.exists, cutAt?_eq_some_iff]
  constructor
  · rintro ⟨a', b, hcut, rfl⟩
    exact ⟨b, hcut⟩
  · rintro ⟨b, hcut⟩
    exact ⟨a, b, hcut, rfl⟩

/-- The pieces of a text are the bytes on either side of the offset. -/
theorem encode_of_cutAt? {n : Nat} {t a b : List Char} (h : cutAt? n t = some (a, b)) :
    encode a = (encode t).take n ∧ encode b = (encode t).drop n := by
  obtain ⟨rfl, rfl⟩ := cutAt?_eq_some_iff.mp h
  rw [encode_append, ← length_encode]
  exact ⟨List.take_left.symm, List.drop_left.symm⟩

/-! ## Bytes of a character -/

theorem toNat_byte {n : Nat} (h : n < 256) : (UInt8.ofNat n).toNat = n := by
  rw [UInt8.toNat_ofNat']
  omega

theorem le_lead {n : Nat} (hlow : 0xC0 ≤ n) (hhigh : n < 256) : 0xC0 ≤ UInt8.ofNat n := by
  rw [UInt8.le_iff_toNat_le, toNat_byte hhigh]
  exact hlow

theorem mem_continuation {v n : Nat} {b : UInt8} (h : b ∈ continuation v n) :
    0x80 ≤ b ∧ b < 0xC0 := by
  induction n with
  | zero => cases h
  | succ n ih =>
    rcases List.mem_cons.mp h with rfl | h
    · rw [UInt8.le_iff_toNat_le, UInt8.lt_iff_toNat_lt, toNat_byte (by omega)]
      show 128 ≤ _ ∧ _ < 192
      omega
    · exact ih h

/-- An ASCII character is its own byte; of the bytes of any other the first is at least 0xC0 and
those that follow are between 0x80 and 0xBF. -/
theorem utf8EncodeChar_cases (c : Char) :
    (c.toNat < 0x80 ∧ String.utf8EncodeChar c = [.ofNat c.toNat]) ∨
    (0x80 ≤ c.toNat ∧ ∃ lead rest, String.utf8EncodeChar c = lead :: rest ∧ 0xC0 ≤ lead ∧
      ∀ b ∈ rest, 0x80 ≤ b ∧ b < 0xC0) := by
  have hvalid : c.toNat.isValidChar := c.valid
  have henc := utf8EncodeChar_ofNat hvalid
  rw [Char.ofNat_toNat] at henc
  split at henc
  · next hascii => exact .inl ⟨by omega, henc⟩
  · next hascii =>
    refine .inr ⟨by omega, ?_⟩
    split at henc
    · exact ⟨_, _, henc, le_lead (by omega) (by omega), fun b => mem_continuation⟩
    split at henc
    · exact ⟨_, _, henc, le_lead (by omega) (by omega), fun b => mem_continuation⟩
    · exact ⟨_, _, henc, le_lead (by omega) (by omega), fun b => mem_continuation⟩

/-- The first byte of a character begins it. -/
theorem utf8EncodeChar_first (c : Char) :
    ∃ b rest, String.utf8EncodeChar c = b :: rest ∧ (b < 0x80 ∨ 0xC0 ≤ b) ∧
      ∀ b ∈ rest, 0x80 ≤ b ∧ b < 0xC0 := by
  rcases utf8EncodeChar_cases c with ⟨hascii, henc⟩ | ⟨-, lead, rest, henc, hlead, hrest⟩
  · refine ⟨_, [], henc, .inl ?_, List.forall_mem_nil _⟩
    rw [UInt8.lt_iff_toNat_lt, toNat_byte (by omega)]
    exact hascii
  · exact ⟨lead, rest, henc, .inr hlead, hrest⟩

/-! ## Boundaries -/

theorem isBoundary_zero (t : List Char) : isBoundary (encode t) 0 = true := by
  cases t with
  | nil => rfl
  | cons c t =>
    obtain ⟨b, rest, henc, hb, -⟩ := utf8EncodeChar_first c
    rw [encode_cons, henc]
    simpa [isBoundary] using hb

theorem isBoundary_inside {c : Char} {n : Nat} (hpos : 0 < n) (hlt : n < c.utf8Size)
    (bs : List UInt8) : isBoundary (String.utf8EncodeChar c ++ bs) n = false := by
  obtain ⟨b, rest, henc, -, hrest⟩ := utf8EncodeChar_first c
  have hsize : rest.length + 1 = c.utf8Size := by
    rw [← String.length_utf8EncodeChar, henc, List.length_cons]
  obtain ⟨m, rfl⟩ : ∃ m, n = m + 1 := ⟨n - 1, by omega⟩
  have hm : m < rest.length := by omega
  obtain ⟨hlow, hhigh⟩ := hrest _ (List.getElem_mem hm)
  rw [henc, List.cons_append, isBoundary, List.getElem?_cons_succ,
    List.getElem?_append_left hm, List.getElem?_eq_getElem hm, List.length_cons,
    List.length_append]
  simp only [Option.any_some, Bool.or_eq_false_iff, beq_eq_false_iff_ne, decide_eq_false_iff_not,
    UInt8.not_lt, UInt8.not_le]
  exact ⟨by omega, hlow, hhigh⟩

theorem isBoundary_append {bs cs : List UInt8} {n : Nat} (h : bs.length ≤ n) :
    isBoundary (bs ++ cs) n = isBoundary cs (n - bs.length) := by
  rw [isBoundary, isBoundary, List.getElem?_append_right h, List.length_append]
  congr 1
  rw [Bool.eq_iff_iff, beq_iff_eq, beq_iff_eq]
  omega

/-- A text is cut exactly at its boundaries. -/
theorem isSome_cutAt? (n : Nat) (t : List Char) :
    (cutAt? n t).isSome = isBoundary (encode t) n := by
  fun_induction cutAt? n t with
  | case1 => rfl
  | case2 n hn =>
    have hne : (n == 0) = false := beq_false_of_ne hn
    simp [isBoundary, encode, hne]
  | case3 c t => exact (isBoundary_zero (c :: t)).symm
  | case4 n c t hn hle ih =>
    rw [Option.isSome_map, ih, encode_cons, isBoundary_append]
    · rw [String.length_utf8EncodeChar]
    · rw [String.length_utf8EncodeChar]
      exact hle
  | case5 n c t hn hlt =>
    exact (isBoundary_inside (Nat.pos_of_ne_zero hn) (Nat.lt_of_not_le hlt) _).symm

/-! ## Bytes that are characters -/

/-- A byte below 0x80 stands where its character stands: it is no part of a longer one. -/
theorem getElem?_encode_eq_iff {x : Char} (hx : x.toNat < 0x80) {n : Nat} {t : List Char} :
    (encode t)[n]? = some (.ofNat x.toNat) ↔ ∃ a b, t = a ++ x :: b ∧ width a = n := by
  have hxbyte : (UInt8.ofNat x.toNat).toNat = x.toNat := toNat_byte (by omega)
  constructor
  · intro h
    have hboundary : isBoundary (encode t) n = true := by
      have hlt : UInt8.ofNat x.toNat < 0x80 := by
        rw [UInt8.lt_iff_toNat_lt, hxbyte]
        exact hx
      rw [isBoundary, h]
      simp [hlt]
    rw [← isSome_cutAt?, Option.isSome_iff_exists] at hboundary
    obtain ⟨⟨a, b⟩, hcut⟩ := hboundary
    obtain ⟨rfl, rfl⟩ := cutAt?_eq_some_iff.mp hcut
    rw [encode_append, List.getElem?_append_right (Nat.le_of_eq (length_encode a)), length_encode,
      Nat.sub_self] at h
    cases b with
    | nil => cases h
    | cons c b =>
      rcases utf8EncodeChar_cases c with ⟨hascii, henc⟩ | ⟨-, lead, rest, henc, hlead, -⟩
      · rw [encode_cons, henc] at h
        have hbyte := congrArg UInt8.toNat (Option.some.inj h)
        rw [hxbyte, toNat_byte (by omega)] at hbyte
        obtain rfl := Char.toNat_inj.mp hbyte
        exact ⟨a, b, rfl, rfl⟩
      · -- the first byte of a longer character is too great
        rw [encode_cons, henc] at h
        obtain rfl : lead = .ofNat x.toNat := Option.some.inj h
        rw [UInt8.le_iff_toNat_le, hxbyte] at hlead
        have hlarge : 192 ≤ x.toNat := hlead
        omega
  · rintro ⟨a, b, rfl, rfl⟩
    rw [encode_append, List.getElem?_append_right (Nat.le_of_eq (length_encode a)), length_encode,
      Nat.sub_self, encode_cons]
    rcases utf8EncodeChar_cases x with ⟨-, henc⟩ | ⟨hlarge, -⟩
    · rw [henc]
      rfl
    · omega

/-! ## Searches -/

/-- A search for the first character with a property passes over those without it. -/
theorem findOffset?_getD (p : Char → Bool) (t : List Char) :
    (findOffset? p t).getD (encode t).length = width (t.takeWhile (!p ·)) := by
  induction t with
  | nil => rfl
  | cons c t ih =>
    rw [findOffset?, List.takeWhile_cons]
    by_cases hc : p c = true
    · simp [hc]
    · rw [Bool.not_eq_true] at hc
      rw [if_neg (by simp [hc]), if_pos (by simp [hc]), width_cons, ← ih, encode_cons,
        List.length_append, String.length_utf8EncodeChar]
      cases findOffset? p t with
      | none => rfl
      | some n => exact Nat.add_comm n _

end TapSuite.Text

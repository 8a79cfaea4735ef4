import Mathlib.Algebra.Group.Nat.Defs
import TapSuite.Proofs.Text.Decode

/-!
# Texts and their bytes

Bytes write a text exactly if they are its encoding.

    text? bs = some t ↔ encode t = bs                                       (text?_eq_some_iff)

A sequence that has begun is tied to the bytes read of it by the numbers that can come of it:
`p.Begins v` says that `v` starts with the bits so far and goes on in the range of the next byte.
-/

namespace TapSuite.Text.Utf8

/-! ## Numbers and groups of six bits -/

/-- The bytes that go on with a sequence: one for each of the lowest groups of six bits. -/
def continuation (v : Nat) : Nat → List UInt8
  | 0 => []
  | n + 1 => .ofNat (v / 64 ^ n % 64 + 0x80) :: continuation v n

/-- Whether a number can come of a sequence that has begun. -/
structure Pending.Begins (p : Pending) (v : Nat) : Prop where
  bits : v / 64 ^ (p.missing + 1) = p.bits
  low : p.low.toNat ≤ v / 64 ^ p.missing % 64 + 0x80
  high : v / 64 ^ p.missing % 64 + 0x80 ≤ p.high.toNat

/-- One more group of six bits. -/
theorem div_pow_eq_iff {b : Nat} (hlow : 0x80 ≤ b) (hhigh : b ≤ 0xBF) (v bits m : Nat) :
    v / 64 ^ m = 64 * bits + b % 64 ↔
      v / 64 ^ (m + 1) = bits ∧ v / 64 ^ m % 64 + 0x80 = b := by
  have hdiv : v / 64 ^ (m + 1) = v / 64 ^ m / 64 := by
    rw [Nat.pow_succ, Nat.div_div_eq_div_mul]
  rw [hdiv]
  omega

/-! ## Lead bytes -/

theorem toNat_ofNat {v : Nat} (h : v.isValidChar) : (Char.ofNat v).toNat = v := by
  rw [Char.ofNat, dif_pos h]
  rfl

theorem utf8EncodeChar_ofNat {v : Nat} (h : v.isValidChar) :
    String.utf8EncodeChar (Char.ofNat v) =
      if v ≤ 0x7F then [.ofNat v]
      else if v ≤ 0x7FF then .ofNat (v / 64 % 32 + 0xC0) :: continuation v 1
      else if v ≤ 0xFFFF then .ofNat (v / 4096 % 16 + 0xE0) :: continuation v 2
      else .ofNat (v / 262144 % 8 + 0xF0) :: continuation v 3 := by
  have hv : (Char.ofNat v).val.toNat = v := toNat_ofNat h
  simp [String.utf8EncodeChar, hv, continuation]

/-- The lead bytes, by the number of bytes that follow them.  Next to the ends of a range the second
byte is kept from writing a number that is too small for it, a surrogate, or one too great. -/
theorem begin?_ofNat : ∀ n, n < 256 → begin? (.ofNat n) =
    if 0xC2 ≤ n ∧ n < 0xE0 then some ⟨n - 0xC0, 0x80, 0xBF, 0⟩
    else if 0xE0 ≤ n ∧ n < 0xF0 then
      some ⟨n - 0xE0, if n = 0xE0 then 0xA0 else 0x80, if n = 0xED then 0x9F else 0xBF, 1⟩
    else if 0xF0 ≤ n ∧ n < 0xF5 then
      some ⟨n - 0xF0, if n = 0xF0 then 0x90 else 0x80, if n = 0xF4 then 0x8F else 0xBF, 2⟩
    else none := by
  decide +kernel

theorem begins_two_iff {n v : Nat} (h : 0xC2 ≤ n ∧ n < 0xE0) :
    Pending.Begins ⟨n - 0xC0, 0x80, 0xBF, 0⟩ v ↔ n = v / 64 + 0xC0 := by
  constructor
  · rintro ⟨hbits, -, -⟩
    simp only [Nat.reduceAdd, Nat.reducePow] at hbits
    omega
  · rintro rfl
    refine ⟨?_, ?_, ?_⟩ <;>
    simp only [Nat.reduceAdd, Nat.reducePow, UInt8.reduceToNat] <;>
    omega

theorem begins_three_iff {n v : Nat} (h : 0xE0 ≤ n ∧ n < 0xF0) :
    Pending.Begins
      ⟨n - 0xE0, if n = 0xE0 then 0xA0 else 0x80, if n = 0xED then 0x9F else 0xBF, 1⟩ v ↔
      n = v / 4096 + 0xE0 ∧ 0x800 ≤ v ∧ (v < 0xD800 ∨ 0xDFFF < v) := by
  constructor
  · rintro ⟨hbits, hlow, hhigh⟩
    simp only [Nat.reduceAdd, Nat.reducePow, UInt8.reduceToNat, apply_ite UInt8.toNat]
      at hbits hlow hhigh
    split at hlow <;> split at hhigh <;> omega
  · rintro ⟨rfl, hsmall, hsurrogate⟩
    refine ⟨?_, ?_, ?_⟩ <;>
    simp only [Nat.reduceAdd, Nat.reducePow, UInt8.reduceToNat, apply_ite UInt8.toNat]
    · omega
    · split <;> omega
    · split <;> omega

theorem begins_four_iff {n v : Nat} (h : 0xF0 ≤ n ∧ n < 0xF5) :
    Pending.Begins
      ⟨n - 0xF0, if n = 0xF0 then 0x90 else 0x80, if n = 0xF4 then 0x8F else 0xBF, 2⟩ v ↔
      n = v / 262144 + 0xF0 ∧ 0x10000 ≤ v ∧ v < 0x110000 := by
  constructor
  · rintro ⟨hbits, hlow, hhigh⟩
    simp only [Nat.reduceAdd, Nat.reducePow, UInt8.reduceToNat, apply_ite UInt8.toNat]
      at hbits hlow hhigh
    split at hlow <;> split at hhigh <;> omega
  · rintro ⟨rfl, hsmall, hgreat⟩
    refine ⟨?_, ?_, ?_⟩ <;>
    simp only [Nat.reduceAdd, Nat.reducePow, UInt8.reduceToNat, apply_ite UInt8.toNat]
    · omega
    · split <;> omega
    · split <;> omega

/-- A lead byte starts the encoding of every character that can come of it. -/
theorem encode_of_begin? {b : UInt8} {p : Pending} (hp : begin? b = some p) {v : Nat}
    (hv : p.Begins v) :
    v.isValidChar ∧ String.utf8EncodeChar (Char.ofNat v) = b :: continuation v (p.missing + 1) := by
  have hb := begin?_ofNat b.toNat b.toNat_lt
  rw [UInt8.ofNat_toNat, hp] at hb
  rw [← UInt8.ofNat_toNat (x := b)]
  split at hb
  · next htwo =>
    obtain rfl := Option.some.inj hb
    have hlead := (begins_two_iff htwo).mp hv
    have hvalid : v.isValidChar := .inl (by omega)
    rw [utf8EncodeChar_ofNat hvalid, if_neg (by omega), if_pos (by omega),
      Nat.mod_eq_of_lt (by omega), ← hlead]
    exact ⟨hvalid, rfl⟩
  split at hb
  · next hthree =>
    obtain rfl := Option.some.inj hb
    obtain ⟨hlead, hsmall, hsurrogate⟩ := (begins_three_iff hthree).mp hv
    have hvalid : v.isValidChar := by
      unfold Nat.isValidChar
      omega
    rw [utf8EncodeChar_ofNat hvalid, if_neg (by omega), if_neg (by omega), if_pos (by omega),
      Nat.mod_eq_of_lt (by omega), ← hlead]
    exact ⟨hvalid, rfl⟩
  split at hb
  · next hfour =>
    obtain rfl := Option.some.inj hb
    obtain ⟨hlead, hsmall, hgreat⟩ := (begins_four_iff hfour).mp hv
    have hvalid : v.isValidChar := .inr ⟨by omega, hgreat⟩
    rw [utf8EncodeChar_ofNat hvalid, if_neg (by omega), if_neg (by omega), if_neg (by omega),
      Nat.mod_eq_of_lt (by omega), ← hlead]
    exact ⟨hvalid, rfl⟩
  · cases hb

/-- Every character beyond ASCII comes of a lead byte. -/
theorem exists_begin? {v : Nat} (hv : v.isValidChar) (h : 0x80 ≤ v) :
    ∃ b p, begin? b = some p ∧ p.Begins v := by
  unfold Nat.isValidChar at hv
  by_cases htwo : v ≤ 0x7FF
  · refine ⟨.ofNat (v / 64 + 0xC0), _, ?_, (begins_two_iff (by omega)).mpr rfl⟩
    rw [begin?_ofNat _ (by omega), if_pos (by omega)]
  by_cases hthree : v ≤ 0xFFFF
  · refine ⟨.ofNat (v / 4096 + 0xE0), _, ?_,
      (begins_three_iff (by omega)).mpr ⟨rfl, by omega, by omega⟩⟩
    rw [begin?_ofNat _ (by omega), if_neg (by omega), if_pos (by omega)]
  · refine ⟨.ofNat (v / 262144 + 0xF0), _, ?_,
      (begins_four_iff (by omega)).mpr ⟨rfl, by omega, by omega⟩⟩
    rw [begin?_ofNat _ (by omega), if_neg (by omega), if_neg (by omega), if_pos (by omega)]

theorem fresh_of_begin? {b : UInt8} {p : Pending} (hp : begin? b = some p) :
    fresh b = ([], some p) := by
  have hb : ¬ b < 0x80 := by
    intro hlt
    have hlead : b < 0xC2 := UInt8.lt_trans hlt (by decide)
    rw [begin?, if_pos hlead] at hp
    cases hp
  rw [fresh, if_neg hb, hp]

/-! ## Bytes that go on with a sequence -/

/-- A number that can come of a sequence and goes on with a byte, by one more group of six bits. -/
theorem Pending.Sound.begins_of_div {p : Pending} (h : p.Sound) {b : UInt8}
    (hb : p.low ≤ b ∧ b ≤ p.high) {v : Nat} (hv : v / 64 ^ p.missing = 64 * p.bits + b.toNat % 64) :
    p.Begins v ∧ continuation v (p.missing + 1) = b :: continuation v p.missing := by
  have hlow := UInt8.le_iff_toNat_le.mp hb.1
  have hhigh := UInt8.le_iff_toNat_le.mp hb.2
  obtain ⟨h80, hBF, -, -⟩ := h
  obtain ⟨hbits, hgroup⟩ := (div_pow_eq_iff (by omega) (by omega) v p.bits p.missing).mp hv
  refine ⟨⟨hbits, by omega, by omega⟩, ?_⟩
  rw [continuation, hgroup, UInt8.ofNat_toNat]

/-- What is known of a sequence after the bytes read of it: they start the encoding of every
character that can come of it. -/
structure Pending.After (p : Pending) (read : List UInt8) : Prop where
  sound : p.Sound
  encode : ∀ v, p.Begins v → v.isValidChar ∧
    String.utf8EncodeChar (Char.ofNat v) = read ++ continuation v (p.missing + 1)

theorem after_begin? {b : UInt8} {p : Pending} (hp : begin? b = some p) : p.After [b] where
  sound := sound_fresh b p (by rw [fresh_of_begin? hp]; rfl)
  encode _ hv := encode_of_begin? hp hv

theorem Pending.After.encode_of_div {p : Pending} {read : List UInt8} (h : p.After read)
    {b : UInt8} (hb : p.low ≤ b ∧ b ≤ p.high) {v : Nat}
    (hv : v / 64 ^ p.missing = 64 * p.bits + b.toNat % 64) :
    v.isValidChar ∧
      String.utf8EncodeChar (Char.ofNat v) = (read ++ [b]) ++ continuation v p.missing := by
  obtain ⟨hbegins, hcont⟩ := h.sound.begins_of_div hb hv
  obtain ⟨hvalid, henc⟩ := h.encode v hbegins
  refine ⟨hvalid, ?_⟩
  rw [henc, hcont, List.append_assoc, List.singleton_append]

/-- What is known between two bytes: those of the sequence that has begun, if there is one. -/
def Since : Option Pending → List UInt8 → Prop
  | none, read => read = []
  | some p, read => p.After read

/-- A byte ends a sequence without a character, completes one, or goes on with it. -/
theorem step_cases {p : Option Pending} {read : List UInt8} (h : Since p read) (b : UInt8) :
    none ∈ (step p b).1 ∨
    (∃ c, step p b = ([some c], none) ∧ String.utf8EncodeChar c = read ++ [b]) ∨
    (∃ q, step p b = ([], some q) ∧ q.After (read ++ [b])) := by
  cases p with
  | none =>
    obtain rfl : read = [] := h
    by_cases hb : b < 0x80
    · have hv : b.toNat ≤ 0x7F := Nat.le_of_lt_succ (UInt8.lt_iff_toNat_lt.mp hb)
      have hvalid : b.toNat.isValidChar := .inl (by omega)
      refine .inr (.inl ⟨Char.ofNat b.toNat, by rw [step, fresh, if_pos hb], ?_⟩)
      rw [utf8EncodeChar_ofNat hvalid, if_pos hv, UInt8.ofNat_toNat, List.nil_append]
    · cases hp : begin? b with
      | none => simp [step, fresh, hb, hp]
      | some q => exact .inr (.inr ⟨q, fresh_of_begin? hp, after_begin? hp⟩)
  | some p =>
    by_cases hb : p.low ≤ b ∧ b ≤ p.high
    · have hnext := fun v => h.encode_of_div hb (v := v)
      obtain ⟨bits, low, high, missing⟩ := p
      cases missing with
      | zero =>
        refine .inr (.inl ⟨_, if_pos hb, ?_⟩)
        exact (hnext (64 * bits + b.toNat % 64) (Nat.div_one _)).2.trans (List.append_nil _)
      | succ n =>
        refine .inr (.inr ⟨_, if_pos hb, ?_, fun v hv => hnext v hv.bits⟩)
        exact sound_step (p := some ⟨bits, low, high, n + 1⟩)
          (fun q hq => Option.some.inj hq ▸ h.sound) b _ (by rw [step, if_pos hb]; rfl)
    · exact .inl (by simp [step, hb])

/-! ## Encodings -/

theorem encode_cons (c : Char) (t : List Char) :
    encode (c :: t) = String.utf8EncodeChar c ++ encode t := rfl

theorem encode_append (s t : List Char) : encode (s ++ t) = encode s ++ encode t :=
  List.flatMap_append

theorem encode_eq_nil_iff {t : List Char} : encode t = [] ↔ t = [] := by
  cases t with
  | nil => simp [encode]
  | cons c t => simp [encode_cons, String.utf8EncodeChar_ne_nil]

/-! ## From bytes to a text -/

theorem append_eq_of_decode {bs : List UInt8} {t : List Char} {p : Option Pending}
    {read : List UInt8} (h : Since p read) (hd : decode p bs = t.map some) :
    encode t = read ++ bs := by
  induction bs generalizing t p read with
  | nil =>
    cases p with
    | none =>
      obtain rfl : read = [] := h
      obtain rfl := List.map_eq_nil_iff.mp hd.symm
      rfl
    | some p =>
      have : none ∈ t.map some := hd ▸ List.mem_singleton.mpr rfl
      simp at this
  | cons b bs ih =>
    rw [decode] at hd
    obtain hnone | ⟨c, hstep, hc⟩ | ⟨q, hstep, hq⟩ := step_cases h b
    · have : none ∈ t.map some := hd ▸ List.mem_append_left _ hnone
      simp at this
    · rw [hstep, List.singleton_append] at hd
      obtain ⟨d, t, rfl, hd1, hd2⟩ := List.map_eq_cons_iff.mp hd.symm
      obtain rfl := Option.some.inj hd1
      have := ih (show Since none [] from rfl) hd2.symm
      rw [encode_cons, this, hc, List.nil_append, List.append_assoc, List.singleton_append]
    · rw [hstep, List.nil_append] at hd
      rw [ih (p := some q) hq hd, List.append_assoc, List.singleton_append]

/-! ## From a text to bytes -/

/-- The next group of six bits is in the range of the next byte. -/
theorem Pending.Begins.step {p : Pending} {v : Nat} (hv : p.Begins v) :
    step (some p) (.ofNat (v / 64 ^ p.missing % 64 + 0x80)) =
      match p.missing with
      | 0 => ([some (Char.ofNat v)], none)
      | n + 1 => ([], some ⟨v / 64 ^ (n + 1), 0x80, 0xBF, n⟩) := by
  obtain ⟨hbits, hlow, hhigh⟩ := hv
  have hgroup : (UInt8.ofNat (v / 64 ^ p.missing % 64 + 0x80)).toNat =
      v / 64 ^ p.missing % 64 + 0x80 := by
    rw [UInt8.toNat_ofNat']
    omega
  have hnext : v / 64 ^ p.missing =
      64 * p.bits + (UInt8.ofNat (v / 64 ^ p.missing % 64 + 0x80)).toNat % 64 := by
    rw [hgroup, div_pow_eq_iff (by omega) (by omega)]
    exact ⟨hbits, rfl⟩
  rw [Utf8.step, if_pos ⟨by rwa [UInt8.le_iff_toNat_le, hgroup],
    by rwa [UInt8.le_iff_toNat_le, hgroup]⟩, ← hnext]
  obtain ⟨bits, low, high, missing⟩ := p
  cases missing with
  | zero => simp
  | succ n => rfl

/-- The bytes that follow a lead byte complete the character. -/
theorem decode_continuation {p : Pending} {v : Nat} (hv : p.Begins v) (bs : List UInt8) :
    decode (some p) (continuation v (p.missing + 1) ++ bs) =
      some (Char.ofNat v) :: decode none bs := by
  obtain ⟨bits, low, high, missing⟩ := p
  induction missing generalizing bits low high with
  | zero =>
    have hstep := hv.step
    rw [continuation, List.cons_append, decode, hstep]
    rfl
  | succ n ih =>
    have hnext : Pending.Begins ⟨v / 64 ^ (n + 1), 0x80, 0xBF, n⟩ v := by
      refine ⟨rfl, ?_, ?_⟩ <;>
      simp only [UInt8.reduceToNat] <;>
      omega
    rw [continuation, List.cons_append, decode, hv.step]
    exact ih _ _ _ hnext

theorem decode_utf8EncodeChar (c : Char) (bs : List UInt8) :
    decode none (String.utf8EncodeChar c ++ bs) = some c :: decode none bs := by
  have hvalid : c.toNat.isValidChar := c.valid
  by_cases h : c.toNat ≤ 0x7F
  · have hb : (UInt8.ofNat c.toNat).toNat = c.toNat := by
      rw [UInt8.toNat_ofNat']
      omega
    have hlt : UInt8.ofNat c.toNat < 0x80 := by
      rw [UInt8.lt_iff_toNat_lt, hb]
      exact Nat.lt_succ_of_le h
    rw [← Char.ofNat_toNat c, utf8EncodeChar_ofNat hvalid, if_pos h, List.singleton_append, decode,
      step, fresh, if_pos hlt, hb]
    rfl
  · obtain ⟨b, p, hp, hv⟩ := exists_begin? hvalid (Nat.lt_of_not_le h)
    have henc := (encode_of_begin? hp hv).2
    rw [Char.ofNat_toNat] at henc
    rw [henc, List.cons_append, decode, step, fresh_of_begin? hp, List.nil_append,
      decode_continuation hv, Char.ofNat_toNat]

theorem decode_encode (t : List Char) : decode none (encode t) = t.map some := by
  induction t with
  | nil => rfl
  | cons c t ih =>
    rw [encode_cons, decode_utf8EncodeChar, ih, List.map_cons]

/-! ## Texts -/

theorem mapM_id_eq_some_iff {α : Type} {l : List (Option α)} {t : List α} :
    l.mapM id = some t ↔ l = t.map some := by
  induction l generalizing t with
  | nil => cases t <;> simp
  | cons o l ih =>
    cases o with
    | none => cases t <;> simp
    | some a =>
      cases t with
      | nil => simp [Option.bind_eq_some_iff]
      | cons b t =>
        simp only [List.mapM_cons, id, Option.bind_eq_bind, Option.bind_some, ih, List.map_cons,
          Option.bind_eq_some_iff, Option.pure_def, Option.some.injEq, List.cons.injEq]
        constructor
        · rintro ⟨_, rfl, rfl, rfl⟩
          exact ⟨rfl, rfl⟩
        · rintro ⟨rfl, rfl⟩
          exact ⟨t, rfl, rfl, rfl⟩

/-- Bytes write a text exactly if they are its encoding. -/
theorem text?_eq_some_iff {bs : List UInt8} {t : List Char} :
    text? bs = some t ↔ encode t = bs := by
  rw [text?, mapM_id_eq_some_iff]
  constructor
  · exact append_eq_of_decode (show Since none [] from rfl)
  · rintro rfl
    exact decode_encode t

end TapSuite.Text.Utf8

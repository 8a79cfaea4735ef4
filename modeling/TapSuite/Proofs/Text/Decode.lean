import TapSuite.Text.Utf8

/-!
# Decoding line by line

A line feed is a byte of its own in UTF-8: no sequence goes on with it, and nothing else writes it.
So bytes may be cut into lines before they are decoded or after.

    lossy (bs ++ 0x0A :: cs) = lossy bs ++ '\n' :: lossy cs
    '\n' ∈ lossy bs → 0x0A ∈ bs
-/

namespace TapSuite.Text.Utf8

/-! ## Sequences that have begun -/

/-- What holds of a sequence that has begun: only a byte beyond ASCII goes on with it, and its
character will lie beyond ASCII control characters; if there are no bits yet, the next byte brings
some. -/
def Pending.Sound (p : Pending) : Prop :=
  0x80 ≤ p.low.toNat ∧ p.high.toNat ≤ 0xBF ∧ (0x90 ≤ p.low.toNat ∨ 1 ≤ p.bits) ∧
    (p.missing = 0 → 2 ≤ p.bits)

instance (p : Pending) : Decidable p.Sound := inferInstanceAs (Decidable (_ ∧ _ ∧ _ ∧ _))

theorem sound_begin?_all : ∀ n, n < 256 → ∀ p ∈ begin? (.ofNat n), p.Sound := by
  decide +kernel

theorem sound_fresh (b : UInt8) : ∀ p ∈ (fresh b).2, p.Sound := by
  intro p hp
  unfold fresh at hp
  split at hp
  · cases hp
  · have hall := sound_begin?_all b.toNat b.toNat_lt
    rw [UInt8.ofNat_toNat] at hall
    cases hb : begin? b with
    | none =>
      rw [hb] at hp
      cases hp
    | some q =>
      rw [hb] at hp hall
      cases hp
      exact hall p rfl

/-- One more byte brings enough bits for a character beyond the line feed. -/
theorem Pending.Sound.bits_step {p : Pending} (h : p.Sound) {b : UInt8}
    (hb : p.low ≤ b ∧ b ≤ p.high) : 16 ≤ 64 * p.bits + b.toNat % 64 := by
  have hlow := UInt8.le_iff_toNat_le.mp hb.1
  have hhigh := UInt8.le_iff_toNat_le.mp hb.2
  obtain ⟨-, hBF, hbits, -⟩ := h
  omega

/-- A step keeps what holds of a sequence that has begun. -/
theorem sound_step {p : Option Pending} (h : ∀ q ∈ p, q.Sound) (b : UInt8) :
    ∀ q ∈ (step p b).2, q.Sound := by
  cases p with
  | none => exact sound_fresh b
  | some p =>
    simp only [step]
    split
    · next hb =>
      have hbits := (h p rfl).bits_step hb
      split
      · intro q hq
        cases hq
      · intro q hq
        obtain rfl := Option.mem_some_iff.mp hq
        refine ⟨by simp, by simp, .inr ?_, fun _ => ?_⟩
        · dsimp only
          omega
        · dsimp only
          omega
    · exact sound_fresh b

/-! ## Line feeds -/

/-- A line feed ends a sequence that has begun, and is read as itself. -/
theorem step_lineFeed {p : Option Pending} (h : ∀ q ∈ p, q.Sound) :
    step p 0x0A = (decode p [] ++ [some '\n'], none) := by
  cases p with
  | none => rfl
  | some p =>
    have hout : ¬ (p.low ≤ 0x0A ∧ 0x0A ≤ p.high) := by
      rintro ⟨hlow, -⟩
      have hle : p.low.toNat ≤ 10 := UInt8.le_iff_toNat_le.mp hlow
      have := (h p rfl).1
      omega
    rw [step, if_neg hout]
    rfl

/-- What stands before a line feed and what follows it are decoded each by itself. -/
theorem decode_append_lineFeed {p : Option Pending} (h : ∀ q ∈ p, q.Sound) (bs cs : List UInt8) :
    decode p (bs ++ 0x0A :: cs) = decode p bs ++ some '\n' :: decode none cs := by
  induction bs generalizing p with
  | nil =>
    change (step p 0x0A).1 ++ decode (step p 0x0A).2 cs = _
    rw [step_lineFeed h, List.append_assoc]
    rfl
  | cons b bs ih =>
    rw [List.cons_append, decode, decode, ih (sound_step h b), List.append_assoc]

theorem lossy_append_lineFeed (bs cs : List UInt8) :
    lossy (bs ++ 0x0A :: cs) = lossy bs ++ '\n' :: lossy cs := by
  unfold lossy
  rw [decode_append_lineFeed (by simp), List.map_append, List.map_cons]
  rfl

theorem ofNat_eq_feed {n : Nat} (h : Char.ofNat n = '\n') : n = 10 := by
  by_cases hn : n.isValidChar
  · rw [Char.ofNat, dif_pos hn] at h
    exact congrArg Char.toNat h
  · rw [Char.ofNat, dif_neg hn] at h
    cases h

theorem eq_lineFeed_of_mem_fresh {b : UInt8} (h : some '\n' ∈ (fresh b).1) : b = 0x0A := by
  unfold fresh at h
  split at h
  · have heq := Option.some.inj (List.mem_singleton.mp h)
    exact UInt8.toNat_inj.mp (ofNat_eq_feed heq.symm)
  · split at h
    · cases h
    · cases List.mem_singleton.mp h

/-- Only a line feed is read as one. -/
theorem eq_lineFeed_of_mem_step {p : Option Pending} (h : ∀ q ∈ p, q.Sound) {b : UInt8}
    (hmem : some '\n' ∈ (step p b).1) : b = 0x0A := by
  cases p with
  | none => exact eq_lineFeed_of_mem_fresh hmem
  | some p =>
    simp only [step] at hmem
    split at hmem
    · next hb =>
      have hbits := (h p rfl).bits_step hb
      split at hmem
      · have heq := Option.some.inj (List.mem_singleton.mp hmem)
        have := ofNat_eq_feed heq.symm
        omega
      · cases hmem
    · rcases List.mem_cons.mp hmem with heq | hmem
      · cases heq
      · exact eq_lineFeed_of_mem_fresh hmem

theorem lineFeed_mem_of_mem_decode {p : Option Pending} (h : ∀ q ∈ p, q.Sound) {bs : List UInt8}
    (hmem : some '\n' ∈ decode p bs) : 0x0A ∈ bs := by
  induction bs generalizing p with
  | nil =>
    rw [decode] at hmem
    split at hmem
    · cases List.mem_singleton.mp hmem
    · cases hmem
  | cons b bs ih =>
    rcases List.mem_append.mp hmem with hmem | hmem
    · rw [eq_lineFeed_of_mem_step h hmem]
      exact List.mem_cons_self
    · exact List.mem_cons_of_mem _ (ih (sound_step h b) hmem)

/-- Bytes without a line feed write a text without one. -/
theorem lineFeed_mem_of_mem_lossy {bs : List UInt8} (h : '\n' ∈ lossy bs) : 0x0A ∈ bs := by
  obtain ⟨c, hc, hfeed⟩ := List.mem_map.mp h
  cases c with
  | none => cases hfeed
  | some c =>
    obtain rfl : c = '\n' := hfeed
    exact lineFeed_mem_of_mem_decode (by simp) hc

/-! ## Texts of bytes -/

/-- A byte that writes nothing begins a sequence or goes on with one. -/
theorem isSome_of_step_eq_nil {p : Option Pending} {b : UInt8} (h : (step p b).1 = []) :
    (step p b).2.isSome = true := by
  have hfresh (h : (fresh b).1 = []) : (fresh b).2.isSome = true := by
    unfold fresh at h ⊢
    split at h
    · cases h
    · next hb =>
      rw [if_neg hb]
      cases hbegin : begin? b with
      | none =>
        rw [hbegin] at h
        cases h
      | some q => rfl
  cases p with
  | none => exact hfresh h
  | some p =>
    simp only [step] at h ⊢
    split at h
    · next hb =>
      rw [if_pos hb]
      cases hmissing : p.missing with
      | zero =>
        rw [hmissing] at h
        cases h
      | succ n => rfl
    · cases h

/-- Bytes and sequences that have begun write something. -/
theorem decode_ne_nil {p : Option Pending} {bs : List UInt8} (h : p.isSome = true ∨ bs ≠ []) :
    decode p bs ≠ [] := by
  induction bs generalizing p with
  | nil =>
    have hp : p.isSome = true := h.resolve_right fun hne => hne rfl
    rw [decode, if_pos hp]
    exact List.cons_ne_nil _ _
  | cons b bs ih =>
    rw [decode]
    intro hnil
    obtain ⟨hwritten, hrest⟩ := List.append_eq_nil_iff.mp hnil
    exact ih (.inl (isSome_of_step_eq_nil hwritten)) hrest

theorem lossy_ne_nil {bs : List UInt8} (h : bs ≠ []) : lossy bs ≠ [] :=
  fun hnil => decode_ne_nil (.inr h) (List.map_eq_nil_iff.mp hnil)

end TapSuite.Text.Utf8

import Mathlib.Data.List.Basic
import TapSuite.Html.Entity

/-!
# Escaped text

Escaped text is read back as it was, holds nothing that could start or end a tag or a quoted
attribute, and comes out the same if it is escaped in passes over the whole text.

    decode (escape t) = t                                                    (decode_escape)
    passes table t = t.flatMap (writtenBy table)                                 (passes_eq)
    escapeByPasses t = escape t                                          (escapeByPasses_eq)

The passes agree with the characters because no entity holds the character of a later pass.
-/

namespace TapSuite.Html

/-- The characters that a document gives a meaning. -/
def special : List Char := ['&', '<', '>', '"', '\'']

theorem mem_special_iff {c : Char} :
    c ∈ special ↔ c = '&' ∨ c = '<' ∨ c = '>' ∨ c = '"' ∨ c = '\'' := by
  simp only [special, List.mem_cons, List.not_mem_nil, or_false]

theorem escapeChar_of_not_mem {c : Char} (h : c ∉ special) : escapeChar c = [c] := by
  simp only [mem_special_iff, not_or] at h
  obtain ⟨hamp, hlt, hgt, hquot, hapos⟩ := h
  rw [escapeChar, if_neg hamp, if_neg hlt, if_neg hgt, if_neg hquot, if_neg hapos]

/-! ## Reading back -/

theorem decode_cons {c : Char} (h : c ≠ '&') (t : List Char) : decode (c :: t) = c :: decode t := by
  rw [decode]
  all_goals exact fun _ hc => absurd hc h

/-- An escaped character is read before what follows it. -/
theorem decode_escapeChar (c : Char) (t : List Char) :
    decode (escapeChar c ++ t) = c :: decode t := by
  by_cases h : c ∈ special
  · obtain rfl | rfl | rfl | rfl | rfl := mem_special_iff.mp h <;> rfl
  · have hamp : c ≠ '&' := fun hc => h (hc ▸ List.mem_cons_self)
    rw [escapeChar_of_not_mem h, List.singleton_append, decode_cons hamp]

/-- Escaped text is read back as it was. -/
theorem decode_escape (t : List Char) : decode (escape t) = t := by
  induction t with
  | nil => rfl
  | cons c t ih => rw [escape, List.flatMap_cons, decode_escapeChar, ← escape, ih]

/-! ## No tags and no quotes -/

/-- Of the characters with a meaning, escaped text holds only the one that starts an entity. -/
theorem not_mem_escape {x : Char} (hx : x ∈ special) (hamp : x ≠ '&') (t : List Char) :
    x ∉ escape t := by
  rw [escape, List.mem_flatMap]
  rintro ⟨c, -, hc⟩
  by_cases h : c ∈ special
  · have hall : (special.all fun c => special.all fun x => x = '&' || x ∉ escapeChar c) = true := by
      decide
    have hcx := List.all_eq_true.mp (List.all_eq_true.mp hall c h) x hx
    rw [decide_eq_false hamp, Bool.false_or] at hcx
    exact of_decide_eq_true hcx hc
  · rw [escapeChar_of_not_mem h, List.mem_singleton] at hc
    exact h (hc ▸ hx)

/-! ## Ampersands -/

theorem mem_entities_of_mem_special {c : Char} (h : c ∈ special) :
    (c, escapeChar c) ∈ entities := by
  obtain rfl | rfl | rfl | rfl | rfl := mem_special_iff.mp h <;> simp [entities, escapeChar]

theorem not_mem_tail_escapeChar {c : Char} (h : c ∈ special) : '&' ∉ (escapeChar c).tail := by
  obtain rfl | rfl | rfl | rfl | rfl := mem_special_iff.mp h <;> simp [escapeChar]

/-- A character with a `&` in its written form has an entity, and the `&` is its start. -/
theorem ampersand_escapeChar {c : Char} {before after : List Char}
    (h : escapeChar c = before ++ '&' :: after) :
    before = [] ∧ (c, escapeChar c) ∈ entities := by
  by_cases hc : c ∈ special
  · refine ⟨?_, mem_entities_of_mem_special hc⟩
    cases before with
    | nil => rfl
    | cons x before =>
      refine absurd ?_ (not_mem_tail_escapeChar hc)
      rw [h, List.cons_append, List.tail_cons]
      exact List.mem_append_right _ List.mem_cons_self
  · -- a character that is written as it is would be the `&` itself
    rw [escapeChar_of_not_mem hc] at h
    have hamp : '&' ∈ [c] := h ▸ List.mem_append_right _ List.mem_cons_self
    obtain rfl := List.mem_singleton.mp hamp
    exact absurd List.mem_cons_self hc

/-- Every `&` of an escaped text starts an entity. -/
theorem ampersand_escape {t before after : List Char} (h : escape t = before ++ '&' :: after) :
    ∃ entry ∈ entities, entry.2 <+: '&' :: after := by
  induction t generalizing before with
  | nil => exact absurd h.symm (List.append_ne_nil_of_right_ne_nil _ (List.cons_ne_nil _ _))
  | cons c t ih =>
    have hcons : escapeChar c ++ escape t = before ++ '&' :: after := h
    rcases List.append_eq_append_iff.mp hcons with ⟨later, -, hlater⟩ | ⟨rest, hfirst, hrest⟩
    · -- it stands behind the first character
      exact ih hlater
    · cases rest with
      | nil =>
        have hnext : escape t = [] ++ '&' :: after := hrest.symm
        exact ih hnext
      | cons x rest =>
        obtain ⟨rfl, hafter⟩ := List.cons_eq_cons.mp hrest
        obtain ⟨rfl, hentry⟩ := ampersand_escapeChar hfirst
        refine ⟨_, hentry, ?_⟩
        rw [hfirst, hafter]
        exact List.prefix_append _ _

/-! ## Passes -/

/-- A pass replaces one character after the other. -/
theorem replaceChar_eq (c : Char) (written t : List Char) :
    replaceChar c written t = t.flatMap fun x => if x = c then written else [x] := by
  induction t with
  | nil => rfl
  | cons x t ih =>
    unfold replaceChar at ih ⊢
    rw [List.flatMap_cons, ← ih, List.splitOn_cons_eq_if_modifyHead]
    have hne : t.splitOn c ≠ [] := List.splitOn_ne_nil c t
    by_cases hx : x = c
    · rw [if_pos hx, if_pos (beq_iff_eq.mpr hx), List.intercalate_cons_of_ne_nil hne]
      rfl
    · rw [if_neg hx, if_neg (mt beq_iff_eq.mp hx)]
      -- the character goes before the first piece
      obtain ⟨piece, pieces, hpieces⟩ := List.exists_cons_of_ne_nil hne
      rw [hpieces, List.modifyHead_cons, List.intercalate_cons_cons_left]
      rfl

/-- What is written stays as it is under passes for characters that it does not hold. -/
theorem flatMap_writtenBy {table : List (Char × List Char)} {t : List Char}
    (h : ∀ entry ∈ table, entry.1 ∉ t) : t.flatMap (writtenBy table) = t := by
  have hself : ∀ c ∈ t, writtenBy table c = [c] := by
    intro c hc
    have hnone : table.lookup c = none := by
      rw [List.lookup_eq_none_iff]
      intro entry hentry
      exact bne_iff_ne.mpr fun heq : c = entry.1 => h entry hentry (heq ▸ hc)
    rw [writtenBy, hnone]
    rfl
  rw [List.flatMap_congr hself, List.flatMap_singleton']

/-- Passes over a text come to what a table writes for each of its characters, if no pass touches
what an earlier one wrote. -/
theorem passes_eq {table : List (Char × List Char)}
    (h : table.Pairwise fun earlier later => later.1 ∉ earlier.2) (t : List Char) :
    passes table t = t.flatMap (writtenBy table) := by
  induction table generalizing t with
  | nil => exact (flatMap_writtenBy (List.forall_mem_nil _)).symm
  | cons entry table ih =>
    obtain ⟨c, written⟩ := entry
    obtain ⟨hwritten, htable⟩ := List.pairwise_cons.mp h
    show passes table (replaceChar c written t) = _
    rw [ih htable, replaceChar_eq, List.flatMap_assoc]
    congr 1
    funext x
    by_cases hx : x = c
    · have hlookup : writtenBy ((c, written) :: table) x = written := by
        rw [writtenBy, List.lookup_cons, beq_iff_eq.mpr hx]
        rfl
      rw [if_pos hx, hlookup, flatMap_writtenBy hwritten]
    · have hlookup : writtenBy ((c, written) :: table) x = writtenBy table x := by
        rw [writtenBy, List.lookup_cons, beq_false_of_ne hx]
        rfl
      rw [if_neg hx, hlookup, List.flatMap_singleton]

/-- In the opposite order the last pass escapes what the others wrote. -/
example : passes entities.reverse ['<'] = ['&', 'a', 'm', 'p', ';', 'l', 't', ';'] := by decide

/-- The table writes the entity of each character. -/
theorem writtenBy_entities (c : Char) : writtenBy entities c = escapeChar c := by
  by_cases h : c ∈ special
  · obtain rfl | rfl | rfl | rfl | rfl := mem_special_iff.mp h <;> rfl
  · have hnone : entities.lookup c = none := by
      rw [List.lookup_eq_none_iff]
      intro entry hentry
      have hspecial : ∀ entry ∈ entities, entry.1 ∈ special := by decide
      exact bne_iff_ne.mpr fun heq : c = entry.1 => h (heq ▸ hspecial entry hentry)
    rw [writtenBy, hnone, escapeChar_of_not_mem h]
    rfl

/-- Five passes over a text come to what they make of each character, and that is its entity. -/
theorem escapeByPasses_eq (t : List Char) : escapeByPasses t = escape t := by
  rw [escapeByPasses, passes_eq (by decide), escape, funext writtenBy_entities]

/-! ## Faithful writing -/

/-- Five passes write each character once and for itself, so a text can be escaped in parts.  What
they write holds none of the characters that could end it in a page, every `&` of it starts an
entity, and reading the entities gives the text back. -/
theorem escapeByPasses_faithful (s : List Char) :
    escapeByPasses s = s.flatMap (writtenBy entities) ∧
    escapeByPasses s = escape s ∧
    (∀ t, escapeByPasses (s ++ t) = escapeByPasses s ++ escapeByPasses t) ∧
    (∀ c ∈ ['<', '>', '"', '\''], c ∉ escapeByPasses s) ∧
    (∀ before after, escapeByPasses s = before ++ '&' :: after →
      ∃ entry ∈ entities, entry.2 <+: '&' :: after) ∧
    decode (escapeByPasses s) = s := by
  have hpasses := escapeByPasses_eq s
  refine ⟨passes_eq (by decide) s, hpasses, fun t => ?_, fun c hc => ?_, ?_, ?_⟩
  · rw [escapeByPasses_eq, hpasses, escapeByPasses_eq]
    exact List.flatMap_append
  · have hamp : c ≠ '&' := by
      rintro rfl
      simp at hc
    rw [hpasses]
    exact not_mem_escape (List.mem_cons_of_mem _ hc) hamp s
  · intro before after h
    exact ampersand_escape (hpasses ▸ h)
  · rw [hpasses, decode_escape]

/-- A text that already looks like an entity, and a quote. -/
theorem escapeByPasses_faithful_entityLike :
    let s := "&lt;'".toList
    let before := "&amp;lt;".toList
    let after := "#39;".toList
    '<' ∈ ['<', '>', '"', '\''] ∧ escapeByPasses s = before ++ '&' :: after ∧
      '<' ∉ escapeByPasses s ∧ (∃ entry ∈ entities, entry.2 <+: '&' :: after) ∧
      decode (before ++ '&' :: after) = s := by
  intro s before after
  have hwritten : escapeByPasses s = before ++ '&' :: after := by decide
  obtain ⟨-, -, -, hnone, hentity, hdecode⟩ := escapeByPasses_faithful s
  exact ⟨by decide, hwritten, hnone _ (by decide), hentity _ _ hwritten, hwritten ▸ hdecode⟩

end TapSuite.Html

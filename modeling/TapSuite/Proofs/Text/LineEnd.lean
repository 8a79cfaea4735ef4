import TapSuite.Text.Blank
import TapSuite.Text.Lines

/-!
# Line ends

Where a text is cut into lines, it may be cut before.

    lines (a ++ b)          = lines a ++ lines b                if a ends with a line feed
    lines (unlines ls ++ t) = ls.map dropReturn ++ lines t      if no line of ls has a line feed

`dropReturn` takes away the carriage return that belongs to a line's end.
-/

namespace TapSuite.Text

/-! ## Lines of two texts -/

def EndsLine (t : List Char) : Prop := t.getLast? = some '\n'

instance (t : List Char) : Decidable (EndsLine t) := inferInstanceAs (Decidable (_ = _))

theorem lines_eq_nil_iff (t : List Char) : lines t = [] ↔ t = [] := by
  induction t with
  | nil => simp
  | cons c t ih =>
    simp only [lines]
    split
    · simp
    · split
      · next h =>
        rw [ih]
        obtain ⟨-, h⟩ := h
        cases t with
        | nil => cases h
        | cons d t => simp
      · split <;> simp

theorem lines_append_feed (a b : List Char) :
    lines (a ++ '\n' :: b) = lines (a ++ ['\n']) ++ lines b := by
  induction a with
  | nil => simp [lines]
  | cons c a ih =>
    have hhead : (a ++ '\n' :: b).head? = (a ++ ['\n']).head? := by cases a <;> rfl
    have hne : lines (a ++ ['\n']) ≠ [] := by simp [lines_eq_nil_iff]
    simp only [List.cons_append, lines, hhead, ih]
    split
    · rfl
    · split
      · rfl
      · -- the character joins the first line, and there is one on both sides
        cases hl : lines (a ++ ['\n']) with
        | nil => exact absurd hl hne
        | cons s rest => rfl

/-- A text is read in two parts if the first ends where a line ends. -/
theorem lines_append {a : List Char} (h : EndsLine a) (b : List Char) :
    lines (a ++ b) = lines a ++ lines b := by
  obtain ⟨s, rfl⟩ := List.getLast?_eq_some_iff.mp h
  rw [List.append_assoc, List.singleton_append, lines_append_feed]

/-- No line holds a line feed. -/
theorem not_mem_of_mem_lines (t s : List Char) (h : s ∈ lines t) : '\n' ∉ s := by
  induction t generalizing s with
  | nil => cases h
  | cons c t ih =>
    simp only [lines] at h
    split at h
    · rcases List.mem_cons.mp h with rfl | h
      · simp
      · exact ih s h
    · next hc =>
      split at h
      · exact ih s h
      · split at h
        · rw [List.mem_singleton.mp h]
          simpa using fun e => hc e.symm
        · next s' rest hl =>
          rcases List.mem_cons.mp h with rfl | h
          · have hs' : '\n' ∉ s' := ih s' (by rw [hl]; exact List.mem_cons_self)
            intro hm
            rcases List.mem_cons.mp hm with e | hm
            · exact hc e.symm
            · exact hs' hm
          · exact ih s (by rw [hl]; exact List.mem_cons_of_mem _ h)

/-! ## Carriage returns -/

/-- A line without the carriage return at its end. -/
def dropReturn : List Char → List Char
  | [] => []
  | c :: t => if c = '\r' ∧ t = [] then [] else c :: dropReturn t

theorem exists_dropReturn_append (raw : List Char) :
    ∃ b, (∀ c ∈ b, isBlank c = true) ∧ raw = dropReturn raw ++ b := by
  induction raw with
  | nil => exact ⟨[], by simp, rfl⟩
  | cons c t ih =>
    by_cases h : c = '\r' ∧ t = []
    · obtain ⟨rfl, rfl⟩ := h
      exact ⟨['\r'], List.forall_mem_singleton.mpr (by decide), rfl⟩
    · obtain ⟨b, hb, ht⟩ := ih
      refine ⟨b, hb, ?_⟩
      rw [dropReturn, if_neg h, List.cons_append, ← ht]

theorem lines_raw_append {raw : List Char} (h : '\n' ∉ raw) (t : List Char) :
    lines (raw ++ '\n' :: t) = dropReturn raw :: lines t := by
  induction raw with
  | nil => simp [lines, dropReturn]
  | cons c raw ih =>
    have hc : c ≠ '\n' := fun e => h (e ▸ List.mem_cons_self)
    have hraw : '\n' ∉ raw := fun hm => h (List.mem_cons_of_mem _ hm)
    -- the next character is a line feed just when the raw line ends here
    have hhead : (raw ++ '\n' :: t).head? = some '\n' ↔ raw = [] := by
      cases raw with
      | nil => simp
      | cons d raw =>
        have hd : d ≠ '\n' := fun e => hraw (e ▸ List.mem_cons_self)
        simp [hd]
    simp only [List.cons_append, lines, dropReturn, hhead, ih hraw]
    rw [if_neg hc]
    by_cases hr : c = '\r' ∧ raw = []
    · obtain ⟨rfl, rfl⟩ := hr
      rfl
    · rw [if_neg hr, if_neg hr]

/-- Lines written one after the other are read back without their carriage returns. -/
theorem lines_unlines_append {ls : List (List Char)} (h : ∀ raw ∈ ls, '\n' ∉ raw) (t : List Char) :
    lines (unlines ls ++ t) = ls.map dropReturn ++ lines t := by
  induction ls with
  | nil => rfl
  | cons raw ls ih =>
    have hls : ∀ raw ∈ ls, '\n' ∉ raw := fun r hr => h r (List.mem_cons_of_mem _ hr)
    have hcons : unlines (raw :: ls) ++ t = raw ++ '\n' :: (unlines ls ++ t) := by simp [unlines]
    rw [hcons, lines_raw_append (h raw List.mem_cons_self), ih hls, List.map_cons, List.cons_append]

end TapSuite.Text

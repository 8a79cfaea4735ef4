import TapSuite.Text.Lines

/-!
# Pieces between separators

A text is a piece without separators, or such a piece, a separator, and a text: inductions on
texts that are cut at separators go piece by piece.

    (segments sep (a ++ sep :: b)).filterMap f =
      (segments sep a).filterMap f ++ (segments sep b).filterMap f           if f [] = none
-/

namespace TapSuite.Text

variable {α : Type} [DecidableEq α] {sep : α}

@[elab_as_elim]
theorem segments_induction (sep : α) {motive : List α → Prop}
    (last : ∀ s, sep ∉ s → motive s)
    (more : ∀ s t, sep ∉ s → motive t → motive (s ++ sep :: t)) (t : List α) : motive t := by
  -- on the length: what follows a separator is not the tail of the text
  induction hlength : t.length using Nat.strongRecOn generalizing t with
  | ind n ih =>
    by_cases hsep : sep ∈ t
    · obtain ⟨s, rest, rfl, hs⟩ := List.eq_append_cons_of_mem hsep
      have hrest : rest.length < n := by
        rw [← hlength, List.length_append, List.length_cons]
        omega
      exact more s rest hs (ih _ hrest rest rfl)
    · exact last t hsep

variable {β : Type} {f : List α → Option β}

theorem filterMap_segments_of_not_mem (hf : f [] = none) {s : List α} (h : sep ∉ s) :
    (segments sep s).filterMap f = (f s).toList := by
  by_cases hne : s = []
  · rw [hne, hf]
    rfl
  · rw [segments_of_not_mem h hne]
    cases hfs : f s <;> simp [hfs]

theorem filterMap_segments_append (hf : f [] = none) (a b : List α) :
    (segments sep (a ++ sep :: b)).filterMap f =
      (segments sep a).filterMap f ++ (segments sep b).filterMap f := by
  have hpiece : ∀ s t, sep ∉ s → (segments sep (s ++ sep :: t)).filterMap f =
      (segments sep s).filterMap f ++ (segments sep t).filterMap f := by
    intro s t hs
    rw [segments_append_sep hs, filterMap_segments_of_not_mem hf hs, List.filterMap_cons]
    cases f s <;> rfl
  induction a using segments_induction sep with
  | last s hs => exact hpiece s b hs
  | more s t hs ih =>
    rw [List.append_assoc, List.cons_append, hpiece s _ hs, ih, hpiece s t hs, List.append_assoc]

end TapSuite.Text

/-!
# Lines of a text

A line ends at a line feed; one carriage return right before that line feed belongs to the line
end.  What follows the last line feed is a line too unless it is empty.

    lines "a\r\nb\n" = ["a", "b"]
    lines "a\r"      = ["a\r"]

`segments` is the bare splitting at a separator, over any alphabet.
-/

namespace TapSuite.Text

/-- The pieces between separators, an empty last piece left out. -/
def segments {α : Type} [DecidableEq α] (sep : α) : List α → List (List α)
  | [] => []
  | c :: t =>
    if c = sep then [] :: segments sep t
    else
      match segments sep t with
      | [] => [[c]]
      | s :: rest => (c :: s) :: rest

/-- The lines of a text, their ends cut off. -/
def lines : List Char → List (List Char)
  | [] => []
  | c :: t =>
    if c = '\n' then [] :: lines t
    else if c = '\r' ∧ t.head? = some '\n' then lines t
    else
      match lines t with
      | [] => [[c]]
      | s :: rest => (c :: s) :: rest

/-- Lines as one text, each with a line feed after it. -/
def unlines (ls : List (List Char)) : List Char := ls.flatMap (· ++ ['\n'])

/-! ## Lemmas -/

@[simp] theorem segments_nil {α : Type} [DecidableEq α] (sep : α) : segments sep [] = [] := rfl

@[simp] theorem lines_nil : lines [] = [] := rfl

/-- No piece holds the separator. -/
theorem not_mem_of_mem_segments {α : Type} [DecidableEq α] (sep : α) (t s : List α)
    (h : s ∈ segments sep t) : sep ∉ s := by
  induction t generalizing s with
  | nil => simp at h
  | cons c t ih =>
    simp only [segments] at h
    split at h
    · rcases List.mem_cons.mp h with rfl | h
      · simp
      · exact ih s h
    · next hc =>
      cases hs : segments sep t with
      | nil =>
        rw [hs] at h
        simp only [List.mem_singleton] at h
        subst h
        simpa using fun e => hc e.symm
      | cons s' rest =>
        rw [hs] at h ih
        rcases List.mem_cons.mp h with rfl | h
        · intro hm
          rcases List.mem_cons.mp hm with e | hm
          · exact hc e.symm
          · exact ih s' List.mem_cons_self hm
        · exact ih s (List.mem_cons_of_mem _ h)

theorem segments_append_sep {α : Type} [DecidableEq α] {sep : α} {s : List α} (h : sep ∉ s)
    (t : List α) : segments sep (s ++ sep :: t) = s :: segments sep t := by
  induction s with
  | nil => simp [segments]
  | cons c s ih =>
    have hc : c ≠ sep := fun e => h (e ▸ List.mem_cons_self)
    rw [List.cons_append, segments, if_neg hc, ih fun hs => h (List.mem_cons_of_mem _ hs)]

theorem segments_of_not_mem {α : Type} [DecidableEq α] {sep : α} {s : List α} (h : sep ∉ s)
    (hne : s ≠ []) : segments sep s = [s] := by
  induction s with
  | nil => exact absurd rfl hne
  | cons c s ih =>
    have hc : c ≠ sep := fun e => h (e ▸ List.mem_cons_self)
    rw [segments, if_neg hc]
    cases s with
    | nil => rfl
    | cons d s => rw [ih (fun hs => h (List.mem_cons_of_mem _ hs)) (List.cons_ne_nil _ _)]

theorem unlines_cons (line : List Char) (ls : List (List Char)) :
    unlines (line :: ls) = line ++ '\n' :: unlines ls := by
  simp [unlines]

/-- Lines without line feeds are read back from the text that they make up. -/
theorem segments_unlines {ls : List (List Char)} (h : ∀ line ∈ ls, '\n' ∉ line) :
    segments '\n' (unlines ls) = ls := by
  induction ls with
  | nil => rfl
  | cons line ls ih =>
    rw [unlines_cons, segments_append_sep (h line List.mem_cons_self),
      ih fun l hl => h l (List.mem_cons_of_mem _ hl)]

theorem unlines_append (a b : List (List Char)) : unlines (a ++ b) = unlines a ++ unlines b :=
  List.flatMap_append

end TapSuite.Text

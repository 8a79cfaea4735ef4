import TapSuite.Proofs.Text.Trim
import TapSuite.Tap.Printer

/-!
# Escaped descriptions

In a printed description every `#` is hidden behind a backslash, so the comment of the line is
found after it, and unescaping gives the description back.

    unescapeHash (escapeHash t) = t                                       (unescapeHash_escapeHash)
    cutComment of escapeHash t ++ rest = cutComment of rest, after t      (cutComment_escapeHash)
-/

namespace TapSuite.Tap

open Text

/-! ## Escaping -/

theorem first_escapeHash (t : List Char) : (escapeHash t).head? ≠ some '#' := by
  cases t with
  | nil => simp [escapeHash]
  | cons c t =>
    rw [escapeHash]
    by_cases hc : c = '#'
    · rw [if_pos hc]
      simp
    · rw [if_neg hc]
      simpa using hc

theorem unescapeHash_cons {c : Char} {t : List Char} (h : t.head? ≠ some '#') :
    unescapeHash (c :: t) = c :: unescapeHash t := by
  rw [unescapeHash]
  rintro s - rfl
  exact h rfl

/-- Escaping is undone, whatever backslashes the text holds. -/
theorem unescapeHash_escapeHash (t : List Char) : unescapeHash (escapeHash t) = t := by
  induction t with
  | nil => rfl
  | cons c t ih =>
    rw [escapeHash]
    by_cases hc : c = '#'
    · rw [if_pos hc, unescapeHash, ih, hc]
    · rw [if_neg hc, unescapeHash_cons (first_escapeHash t), ih]

theorem last_escapeHash (t : List Char) : (escapeHash t).getLast? = t.getLast? := by
  induction t with
  | nil => rfl
  | cons c t ih =>
    rw [escapeHash]
    split
    · next hc => rw [List.getLast?_cons, List.getLast?_cons, List.getLast?_cons, ih, hc]; rfl
    · rw [List.getLast?_cons, List.getLast?_cons, ih]

/-- Escaping puts no blanks at the ends of a text. -/
theorem trimmed_escapeHash {t : List Char} (h : Trimmed t) : Trimmed (escapeHash t) := by
  refine ⟨?_, ?_⟩
  · cases t with
    | nil => simp [escapeHash]
    | cons c t =>
      rw [escapeHash]
      split
      · simp only [List.head?_cons, Option.mem_def, Option.some.injEq]
        rintro d rfl
        decide
      · simpa using h.first
  · rw [last_escapeHash]
    exact h.last

theorem first_unescapeHash (t : List Char) :
    (unescapeHash t).head? = t.head? ∨ (unescapeHash t).head? = some '#' := by
  fun_cases unescapeHash t with
  | case1 t => exact .inr rfl
  | case2 c t h => exact .inl rfl
  | case3 => exact .inl rfl

theorem last_unescapeHash (t : List Char) : (unescapeHash t).getLast? = t.getLast? := by
  fun_induction unescapeHash t with
  | case1 t ih => rw [List.getLast?_cons, List.getLast?_cons, List.getLast?_cons, ih]; rfl
  | case2 c t h ih => rw [List.getLast?_cons, List.getLast?_cons, ih]
  | case3 => rfl

/-- Unescaping puts no blanks at the ends of a text. -/
theorem trimmed_unescapeHash {t : List Char} (h : Trimmed t) : Trimmed (unescapeHash t) := by
  refine ⟨?_, ?_⟩
  · intro c hc
    rcases first_unescapeHash t with heq | heq
    · rw [heq] at hc
      exact h.first c hc
    · rw [heq, Option.mem_def, Option.some.injEq] at hc
      rw [← hc]
      decide
  · rw [last_unescapeHash]
    exact h.last

theorem mem_of_mem_unescapeHash {c : Char} {t : List Char} (h : c ∈ unescapeHash t) : c ∈ t := by
  fun_induction unescapeHash t with
  | case1 t ih =>
    rcases List.mem_cons.mp h with rfl | h
    · simp
    · exact List.mem_cons_of_mem _ (List.mem_cons_of_mem _ (ih h))
  | case2 d t _ ih =>
    rcases List.mem_cons.mp h with rfl | h
    · exact List.mem_cons_self
    · exact List.mem_cons_of_mem _ (ih h)
  | case3 => exact h

/-! ## Comments -/

theorem mem_of_mem_cutComment {c : Char} (escaped : Bool) {t : List Char}
    (h : c ∈ (cutComment escaped t).1) : c ∈ t := by
  induction t generalizing escaped with
  | nil => exact h
  | cons d t ih =>
    rw [cutComment] at h
    split at h
    · cases h
    · rcases List.mem_cons.mp h with rfl | h
      · exact List.mem_cons_self
      · exact List.mem_cons_of_mem _ (ih _ h)

/-- An escaped text has no comment of its own. -/
theorem cutComment_escapeHash (escaped : Bool) (t : List Char) {rest before : List Char}
    {after : Option (List Char)} (h : ∀ escaped, cutComment escaped rest = (before, after)) :
    cutComment escaped (escapeHash t ++ rest) = (escapeHash t ++ before, after) := by
  induction t generalizing escaped with
  | nil => exact h escaped
  | cons c t ih =>
    rw [escapeHash]
    by_cases hc : c = '#'
    · -- the backslash is passed over and hides the hash
      rw [if_pos hc]
      simp [cutComment, ih]
    · rw [if_neg hc, List.cons_append, cutComment, if_neg (by simp [hc]), ih]
      rfl

/-- What follows the description is at most a blank and the comment that holds the directive. -/
theorem cutComment_directiveField (d : Option Directive) :
    ∃ gap comment, (∀ c ∈ gap, isBlank c = true) ∧ comment.bind directive? = d ∧
      ∀ escaped, cutComment escaped (directiveField d) = (gap, comment) := by
  cases d with
  | none => exact ⟨[], none, by simp, rfl, fun _ => rfl⟩
  | some d =>
    refine ⟨[' '], some (' ' :: d.word), List.forall_mem_singleton.mpr (by decide), ?_,
      fun escaped => ?_⟩
    · cases d <;> rfl
    · cases escaped <;> rfl

theorem last_directiveField (d : Directive) :
    ∀ c ∈ (directiveField (some d)).getLast?, isBlank c = false := by
  intro c hc
  cases d with
  | skip =>
    obtain rfl : 'P' = c := by simpa [directiveField, Directive.word] using hc
    decide
  | todo =>
    obtain rfl : 'O' = c := by simpa [directiveField, Directive.word] using hc
    decide

/-- The description and the directive are found in what follows the dash. -/
theorem cutComment_body {t : List Char} (ht : Trimmed t) (d : Option Directive) :
    trim (cutComment false (trimEnd (' ' :: (escapeHash t ++ directiveField d)))).1 =
        escapeHash t ∧
      (cutComment false (trimEnd (' ' :: (escapeHash t ++ directiveField d)))).2.bind directive? =
        d := by
  by_cases hempty : t = [] ∧ d = none
  · -- nothing is left of the blank after the dash
    obtain ⟨rfl, rfl⟩ := hempty
    exact ⟨rfl, rfl⟩
  · have hlast : ∀ c ∈ (' ' :: (escapeHash t ++ directiveField d)).getLast?, isBlank c = false := by
      rw [List.getLast?_cons, List.getLast?_append, last_escapeHash]
      cases d with
      | some d =>
        have hword := last_directiveField d
        cases d <;> simpa [directiveField, Directive.word] using hword
      | none =>
        rcases List.eq_nil_or_concat t with rfl | ⟨s, c, rfl⟩
        · exact absurd ⟨rfl, rfl⟩ hempty
        · simpa [directiveField] using ht.last
    obtain ⟨gap, comment, hgap, hd, hcut⟩ := cutComment_directiveField d
    have hbody : cutComment false (' ' :: (escapeHash t ++ directiveField d)) =
        ([' '] ++ escapeHash t ++ gap, comment) := by
      rw [cutComment, if_neg (by decide), cutComment_escapeHash _ t hcut]
      rfl
    rw [trimEnd_of_last hlast, hbody]
    have hspace : ∀ c ∈ [' '], isBlank c = true := List.forall_mem_singleton.mpr (by decide)
    exact ⟨(trimmed_escapeHash ht).trim_append hspace hgap, hd⟩

end TapSuite.Tap

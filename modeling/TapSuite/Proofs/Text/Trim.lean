import TapSuite.Text.Blank

/-!
# Trimming

What is left of a text between the blanks at its ends.

    trim (a ++ t ++ b) = t          for blank a and b, if t has no blank at its ends
    t = a ++ trim t ++ b            for some blank a and b
-/

namespace TapSuite.Text

/-! ## Trimmed texts -/

/-- A text with no blank at either end. -/
structure Trimmed (t : List Char) : Prop where
  first : ∀ c ∈ t.head?, isBlank c = false
  last : ∀ c ∈ t.getLast?, isBlank c = false

/-! ## The start -/

theorem trimStart_append {a : List Char} (ha : ∀ c ∈ a, isBlank c = true) (t : List Char) :
    trimStart (a ++ t) = trimStart t :=
  List.dropWhile_append_of_pos ha

theorem trimStart_of_first {t : List Char} (h : ∀ c ∈ t.head?, isBlank c = false) :
    trimStart t = t := by
  cases t with
  | nil => rfl
  | cons c t =>
    have hc : isBlank c = false := h c rfl
    rw [trimStart_cons, hc]
    rfl

theorem trimStart_eq_nil_iff (t : List Char) : trimStart t = [] ↔ ∀ c ∈ t, isBlank c = true := by
  induction t with
  | nil => simp
  | cons c t ih =>
    rw [trimStart_cons]
    by_cases hc : isBlank c = true
    · rw [if_pos hc, ih]
      simp [hc]
    · rw [if_neg hc]
      simp [hc]

/-- What is left after the leading blanks does not start with one. -/
theorem first_trimStart (t : List Char) : ∀ c ∈ (trimStart t).head?, isBlank c = false := by
  induction t with
  | nil => simp
  | cons d t ih =>
    rw [trimStart_cons]
    by_cases hd : isBlank d = true
    · rw [if_pos hd]
      exact ih
    · rw [if_neg hd]
      simpa using hd

/-- The indentation of an indented text is the indentation alone. -/
theorem indent_append {a t : List Char} (ha : ∀ c ∈ a, isBlank c = true)
    (ht : ∀ c ∈ t.head?, isBlank c = false) : indent (a ++ t) = a := by
  unfold indent
  rw [List.takeWhile_append_of_pos ha]
  cases t with
  | nil => simp
  | cons c t =>
    have hc : isBlank c = false := ht c rfl
    rw [List.takeWhile_cons_of_neg (by simp [hc]), List.append_nil]

/-- Text after a character that is no blank does not change the indentation. -/
theorem indent_append_of_mem {t : List Char} {c : Char} (hc : c ∈ t) (hb : isBlank c = false)
    (s : List Char) : indent (t ++ s) = indent t := by
  induction t with
  | nil => cases hc
  | cons d t ih =>
    unfold indent at ih ⊢
    rw [List.cons_append, List.takeWhile_cons, List.takeWhile_cons]
    by_cases hd : isBlank d = true
    · rw [if_pos hd, if_pos hd]
      rcases List.mem_cons.mp hc with rfl | hc
      · rw [hd] at hb
        cases hb
      · rw [ih hc]
    · rw [if_neg hd, if_neg hd]

/-! ## The end -/

theorem trimEnd_append {b : List Char} (hb : ∀ c ∈ b, isBlank c = true) (t : List Char) :
    trimEnd (t ++ b) = trimEnd t := by
  unfold trimEnd
  rw [List.reverse_append, List.dropWhile_append_of_pos (by simpa using hb)]

theorem trimEnd_eq_nil_iff (t : List Char) : trimEnd t = [] ↔ ∀ c ∈ t, isBlank c = true := by
  have hstart := trimStart_eq_nil_iff t.reverse
  simp only [List.mem_reverse] at hstart
  rw [trimEnd, List.reverse_eq_nil_iff]
  exact hstart

/-- Nothing up to a character that is no blank is cut off the end. -/
theorem trimEnd_append_cons {c : Char} (hc : isBlank c = false) (a b : List Char) :
    trimEnd (a ++ c :: b) = a ++ c :: trimEnd b := by
  unfold trimEnd
  rw [List.reverse_append, List.reverse_cons, List.append_assoc, List.singleton_append,
    List.dropWhile_append, List.dropWhile_cons_of_neg (by simp [hc])]
  split
  · next h => simp [List.isEmpty_iff.mp h]
  · simp

theorem trimEnd_of_last {t : List Char} (h : ∀ c ∈ t.getLast?, isBlank c = false) :
    trimEnd t = t := by
  rcases List.eq_nil_or_concat t with rfl | ⟨s, c, rfl⟩
  · rfl
  · have hc : isBlank c = false := h c (by simp)
    rw [List.concat_eq_append, trimEnd_append_cons hc, trimEnd_nil]

/-- What is left before the trailing blanks does not end with one. -/
theorem last_trimEnd (t : List Char) : ∀ c ∈ (trimEnd t).getLast?, isBlank c = false := by
  unfold trimEnd
  rw [List.getLast?_reverse]
  exact first_trimStart t.reverse

/-- Cutting the end leaves the text's start, the rest being blank. -/
theorem exists_trimEnd_append (t : List Char) :
    ∃ b, (∀ c ∈ b, isBlank c = true) ∧ t = trimEnd t ++ b := by
  refine ⟨(indent t.reverse).reverse, ?_, ?_⟩
  · intro c hc
    exact List.all_eq_true.mp List.all_takeWhile c (List.mem_reverse.mp hc)
  · rw [trimEnd, ← List.reverse_append]
    have h := indent_append_trimStart t.reverse
    rw [trimStart] at h
    rw [h, List.reverse_reverse]

/-! ## Both ends -/

theorem Trimmed.trim_eq {t : List Char} (h : Trimmed t) : trim t = t := by
  rw [trim, trimStart_of_first h.first, trimEnd_of_last h.last]

/-- A text without blanks at its ends is found again between blanks. -/
theorem Trimmed.trim_append {t a b : List Char} (h : Trimmed t) (ha : ∀ c ∈ a, isBlank c = true)
    (hb : ∀ c ∈ b, isBlank c = true) : trim (a ++ t ++ b) = t := by
  rw [List.append_assoc, trim, trimStart_append ha]
  cases t with
  | nil =>
    rw [List.nil_append, (trimStart_eq_nil_iff b).mpr hb, trimEnd_nil]
  | cons c t =>
    have hc : isBlank c = false := h.first c rfl
    rw [trimStart_of_first (by simpa using hc), trimEnd_append hb, trimEnd_of_last h.last]

/-- Trimming leaves a text without blanks at its ends. -/
theorem trimmed_trim (t : List Char) : Trimmed (trim t) := by
  refine ⟨?_, last_trimEnd _⟩
  intro c hc
  obtain ⟨b, -, hb⟩ := exists_trimEnd_append (trimStart t)
  have hfirst := first_trimStart t
  rw [hb] at hfirst
  apply hfirst c
  rw [trim] at hc
  rw [List.head?_append, hc]
  rfl

theorem trim_eq_self_iff (t : List Char) : trim t = t ↔ Trimmed t := by
  constructor
  · intro h
    rw [← h]
    exact trimmed_trim t
  · exact Trimmed.trim_eq

/-- Blanks after a text do not survive trimming. -/
theorem trim_append {b : List Char} (hb : ∀ c ∈ b, isBlank c = true) (t : List Char) :
    trim (t ++ b) = trim t := by
  by_cases ht : ∀ c ∈ t, isBlank c = true
  · have hall : ∀ c ∈ t ++ b, isBlank c = true := by
      intro c hc
      rcases List.mem_append.mp hc with hc | hc
      · exact ht c hc
      · exact hb c hc
    rw [trim, trim, (trimStart_eq_nil_iff _).mpr hall, (trimStart_eq_nil_iff _).mpr ht]
  · have hne : trimStart t ≠ [] := fun h => ht ((trimStart_eq_nil_iff t).mp h)
    have hstart : trimStart (t ++ b) = trimStart t ++ b := by
      unfold trimStart at hne ⊢
      rw [List.dropWhile_append, if_neg (by simpa using hne)]
    rw [trim, trim, hstart, trimEnd_append hb]

/-- A text is blank throughout if trimming leaves nothing. -/
theorem trim_eq_nil_iff (t : List Char) : trim t = [] ↔ ∀ c ∈ t, isBlank c = true := by
  constructor
  · intro h
    obtain ⟨b, hb, hsplit⟩ := exists_trimEnd_append (trimStart t)
    rw [← trim, h, List.nil_append] at hsplit
    apply (trimStart_eq_nil_iff t).mp
    cases hs : trimStart t with
    | nil => rfl
    | cons c s =>
      have hc : isBlank c = false := first_trimStart t c (by rw [hs]; rfl)
      rw [hs] at hsplit
      rw [hb c (by rw [← hsplit]; exact List.mem_cons_self)] at hc
      cases hc
  · intro h
    rw [trim, (trimStart_eq_nil_iff t).mpr h, trimEnd_nil]

/-- Trimming only leaves characters out. -/
theorem mem_of_mem_trim {c : Char} {t : List Char} (h : c ∈ trim t) : c ∈ t := by
  unfold trim trimEnd at h
  have h' := (List.dropWhile_sublist _).mem (List.mem_reverse.mp h)
  exact (List.dropWhile_sublist _).mem (List.mem_reverse.mp h')

end TapSuite.Text

import TapSuite.Command.Line
import TapSuite.Command.Quote

/-!
# Quoted words are read back

A command line of quoted words names these words.  Without a dollar sign in them there is nothing to
expand: no piece of the line is a variable, and the quote in front keeps a `~` from its start.  What
cuts the line into words then undoes the quoting.

    expand env (quoteWords (w :: ws)) = .ok (quoteWords (w :: ws))
    words? (quoteWords (w :: ws))     = some (w :: ws)
    parse env (quoteWords (w :: ws))  = .ok ⟨w, ws⟩                               (parse_quoteWords)

The cutting does not mind dollar signs; they matter to the expansion alone.
-/

namespace TapSuite.Command

/-! ## Cutting -/

/-- A character of a quoted word is read as itself.  A quote leaves the quotes, comes after a
backslash, and enters them again. -/
theorem wordsFrom_quoteChar (word t : List Char) (c : Char) :
    wordsFrom .single word (quoteChar c ++ t) = wordsFrom .single (c :: word) t := by
  by_cases hc : c = '\''
  · subst hc
    simp [quoteChar, wordsFrom, enter, isGap]
  · simp [quoteChar, wordsFrom, hc]

theorem wordsFrom_quoteChars (word w t : List Char) :
    wordsFrom .single word (w.flatMap quoteChar ++ t) =
      wordsFrom .single (w.reverse ++ word) t := by
  induction w generalizing word with
  | nil => rfl
  | cons c w ih =>
    rw [List.flatMap_cons, List.append_assoc, wordsFrom_quoteChar, ih]
    simp

/-- A quoted word is read as a word to which characters may still be added. -/
theorem wordsFrom_quoteWord (w t : List Char) :
    wordsFrom .between [] (quoteWord w ++ t) = wordsFrom .bare w.reverse t := by
  have hopen : wordsFrom .between [] (quoteWord w ++ t) =
      wordsFrom .single [] (w.flatMap quoteChar ++ ('\'' :: t)) := by
    simp [quoteWord, wordsFrom, enter, isGap]
  rw [hopen, wordsFrom_quoteChars, List.append_nil]
  simp [wordsFrom]

theorem wordsFrom_intercalate (w : List Char) (ws : List (List Char)) :
    wordsFrom .between [] (List.intercalate [' '] ((w :: ws).map quoteWord)) = some (w :: ws) := by
  induction ws generalizing w with
  | nil =>
    have h := wordsFrom_quoteWord w []
    simpa [wordsFrom] using h
  | cons u ws ih =>
    rw [List.map_cons, List.map_cons, List.intercalate_cons_cons, ← List.map_cons,
      List.append_assoc, wordsFrom_quoteWord]
    simp only [List.singleton_append, wordsFrom, isGap, ih u]
    simp

/-- The words of a line of quoted words are these words. -/
theorem words?_quoteWords (w : String) (ws : List String) :
    words? (quoteWords (w :: ws)) = some (w :: ws) := by
  have hmap : (w :: ws).map (fun w => quoteWord w.toList) =
      ((w :: ws).map String.toList).map quoteWord := by
    simp
  rw [words?, quoteWords, String.toList_ofList, hmap, List.map_cons, wordsFrom_intercalate]
  simp

/-! ## Expansion -/

/-- A line without dollar signs has no variables. -/
theorem pieces_of_not_mem {fuel : Nat} {t : List Char} (hfuel : t.length ≤ fuel) (h : '$' ∉ t) :
    pieces fuel t = t.map .char := by
  induction fuel generalizing t with
  | zero =>
    rw [List.length_eq_zero_iff.mp (Nat.le_zero.mp hfuel)]
    rfl
  | succ fuel ih =>
    cases t with
    | nil => rfl
    | cons c t =>
      obtain ⟨hc, ht⟩ := not_or.mp (mt List.mem_cons.mpr h)
      have hlength : t.length ≤ fuel := Nat.le_of_succ_le_succ hfuel
      rw [pieces, ih hlength ht, List.map_cons]
      exact Ne.symm hc

theorem expandAll_chars (env : Environment) (t : List Char) :
    expandAll env (t.map .char) = .ok t := by
  induction t with
  | nil => rfl
  | cons c t ih =>
    rw [List.map_cons, expandAll, ih]
    rfl

/-- A line without dollar signs that starts with no `~` stays as it is. -/
theorem expand_of_not_mem (env : Environment) {line : String} (h : '$' ∉ line.toList)
    (hstart : line.toList.head? ≠ some '~') : expand env line = .ok line := by
  simp only [expand, pieces_of_not_mem (Nat.le_refl _) h, expandAll_chars, if_neg hstart]
  simp [Except.map]

/-- Quoting brings in quotes, backslashes and spaces only. -/
theorem not_mem_quoteWord {x : Char} {w : List Char} (hx : x ≠ '\'' ∧ x ≠ '\\') (h : x ∉ w) :
    x ∉ quoteWord w := by
  have hchar : ∀ c, x ∈ quoteChar c → x = c := by
    intro c hmem
    by_cases hc : c = '\''
    · simp [quoteChar, hc, hx] at hmem
    · simpa [quoteChar, hc] using hmem
  intro hmem
  simp only [quoteWord, List.cons_append, List.mem_cons, List.mem_append, List.mem_flatMap, hx.1,
    List.not_mem_nil, or_false, false_or] at hmem
  obtain ⟨c, hc, hmem⟩ := hmem
  exact h (hchar c hmem ▸ hc)

theorem not_mem_intercalate {x y : Char} (hx : x ≠ y) {ws : List (List Char)}
    (h : ∀ w ∈ ws, x ∉ w) : x ∉ List.intercalate [y] ws := by
  induction ws with
  | nil => simp
  | cons w ws ih =>
    obtain ⟨hw, hws⟩ := List.forall_mem_cons.mp h
    cases ws with
    | nil => simpa using hw
    | cons u ws =>
      rw [List.intercalate_cons_cons, List.mem_append, List.mem_append, List.mem_singleton]
      rintro ((hmem | hmem) | hmem)
      · exact hw hmem
      · exact hx hmem
      · exact ih hws hmem

/-- Quotes have no part in the expansion, which finds nothing to replace between them. -/
theorem expand_quoteWords (env : Environment) {w : String} {ws : List String}
    (h : ∀ u ∈ w :: ws, '$' ∉ u.toList) :
    expand env (quoteWords (w :: ws)) = .ok (quoteWords (w :: ws)) := by
  apply expand_of_not_mem
  · rw [quoteWords, String.toList_ofList]
    refine not_mem_intercalate (by decide) (List.forall_mem_map.mpr fun u hu => ?_)
    exact not_mem_quoteWord (by decide) (h u hu)
  · rw [quoteWords, String.toList_ofList]
    cases ws with
    | nil => simp [quoteWord]
    | cons u ws => simp [quoteWord, List.intercalate_cons_cons]

/-! ## Command lines -/

/-- Quoted words without dollar signs reach the interpreter as they are: the expansion leaves their
line alone, the cutting undoes the quoting, and of the words the first is the program and the others
are its arguments. -/
theorem parse_quoteWords (env : Environment) (w : String) (ws : List String)
    (h : ∀ u ∈ w :: ws, '$' ∉ u.toList) :
    expand env (quoteWords (w :: ws)) = .ok (quoteWords (w :: ws)) ∧
      words? (quoteWords (w :: ws)) = some (w :: ws) ∧
      parse env (quoteWords (w :: ws)) = .ok ⟨w, ws⟩ := by
  have hexpand := expand_quoteWords env h
  have hwords := words?_quoteWords w ws
  refine ⟨hexpand, hwords, ?_⟩
  rw [parse, hexpand]
  simp only [hwords]

/-- A program with a blank and a quote in its name, and as arguments an empty word, words that would
be a comment and the home directory, and one with a line feed after a backslash. -/
theorem parse_quoteWords_odd :
    let env : Environment := [("HOME", "/home/t")]
    let w := "it's me"
    let ws := ["", "#", "~", "\\\n\""]
    (∀ u ∈ w :: ws, '$' ∉ u.toList) ∧
      quoteWords (w :: ws) = "'it'\\''s me' '' '#' '~' '\\\n\"'" ∧
      parse env "'it'\\''s me' '' '#' '~' '\\\n\"'" = .ok ⟨w, ws⟩ := by
  intro env w ws
  have hplain : ∀ u ∈ w :: ws, '$' ∉ u.toList := by decide
  have hquoted : quoteWords (w :: ws) = "'it'\\''s me' '' '#' '~' '\\\n\"'" := by decide
  exact ⟨hplain, hquoted, hquoted ▸ (parse_quoteWords env w ws hplain).2.2⟩

end TapSuite.Command

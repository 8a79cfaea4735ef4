import TapSuite.Toml.Printer
import TapSuite.Toml.Text

/-!
# Quoted texts are read back

Between its quotes a text stands as a body: characters stand for themselves or are escaped, and as
many quotes in a row stand for themselves as the kind of quotes allows, two or none.

    Body quote limit stands run body t

The word of a written text ends where the text was written to end, and it says the text.

    (textWord s).quoted? = some s.toList                                        (quoted?_textWord)
    (writeText s).toList = c :: w →
      cut c (w ++ '\n' :: rest) = (.word (textWord s), '\n' :: rest)              (cut_writeText)
-/

namespace TapSuite.Toml

/-! ## Bodies -/

/-- What stands between quotes for a text.  Up to `limit` quotes in a row stand for themselves, and
`run` of them stand right before. -/
inductive Body (quote : Char) (limit : Nat) (stands : Char → List Char → Prop) :
    Nat → List Char → List Char → Prop where
  | nil {run : Nat} : Body quote limit stands run [] []
  | quote {run : Nat} {body t : List Char} (hrun : run < limit)
      (h : Body quote limit stands (run + 1) body t) :
      Body quote limit stands run (quote :: body) (quote :: t)
  | char {run : Nat} {c : Char} {written body t : List Char} (hc : stands c written)
      (h : Body quote limit stands 0 body t) :
      Body quote limit stands run (written ++ body) (c :: t)

/-- What is written for a character starts with no quote and no carriage return, and with a line
feed only if the character is one. -/
def StartsWell (quote : Char) (stands : Char → List Char → Prop) : Prop :=
  ∀ c written, stands c written →
    ∃ d more, written = d :: more ∧ d ≠ quote ∧ d ≠ '\r' ∧ (d = '\n' → c = '\n')

/-- The two parts of a text, with more before the first. -/
def prepend (before : List Char) (parts : List Char × List Char) : List Char × List Char :=
  (before ++ parts.1, parts.2)

section Bodies

variable {quote : Char} {limit : Nat} {stands : Char → List Char → Prop} {run : Nat}
  {body t : List Char}

/-- After a quote a body on several lines consists of one more quote at most, or no two quotes
follow, whatever comes after the body. -/
theorem Body.quotes_or (h : Body quote 2 stands run body t) (hrun : 0 < run)
    (hstands : StartsWell quote stands) :
    (∃ n ≤ 1, body = List.replicate n quote ∧ t = List.replicate n quote) ∨
      ∀ rest r, body ++ rest ≠ quote :: quote :: r := by
  cases h with
  | nil => exact .inl ⟨0, by decide, rfl, rfl⟩
  | quote hlt h =>
    cases h with
    | nil => exact .inl ⟨1, by decide, rfl, rfl⟩
    | quote hlt' _ => omega
    | char hc _ =>
      obtain ⟨d, more, rfl, hd, -⟩ := hstands _ _ hc
      exact .inr fun rest r => by simp [hd]
  | char hc _ =>
    obtain ⟨d, more, rfl, hd, -⟩ := hstands _ _ hc
    exact .inr fun rest r => by simp [hd]

/-- A text without line feeds is written on the line of its opening quotes. -/
theorem Body.head (h : Body quote limit stands run body t) (hstands : StartsWell quote stands)
    (hquote : quote ≠ '\n' ∧ quote ≠ '\r') (hfeed : '\n' ∉ t) (rest : List Char) :
    ∀ c ∈ (body ++ quote :: rest).head?, c ≠ '\n' ∧ c ≠ '\r' := by
  intro c hc
  cases h with
  | nil =>
    cases hc
    exact hquote
  | quote _ _ =>
    cases hc
    exact hquote
  | char hchar _ =>
    obtain ⟨d, more, rfl, -, hreturn, hline⟩ := hstands _ _ hchar
    cases hc
    exact ⟨fun heq => hfeed (hline heq ▸ List.mem_cons_self), hreturn⟩

/-! ### On one line -/

theorem Body.extent {extent : List Char → List Char × List Char} (rest : List Char)
    (hend : extent (quote :: rest) = ([quote], rest))
    (hchar : ∀ c written s, stands c written → extent (written ++ s) = prepend written (extent s))
    (h : Body quote 0 stands run body t) :
    extent (body ++ quote :: rest) = (body ++ [quote], rest) := by
  induction h with
  | nil => exact hend
  | quote hlt _ _ => omega
  | char hc _ ih => rw [List.append_assoc, hchar _ _ _ hc, ih, prepend, List.append_assoc]

theorem Body.meaning {read : List Char → Option (List Char)} (hend : read [quote] = some [])
    (hchar : ∀ c written s, stands c written → read (written ++ s) = (read s).map (c :: ·))
    (h : Body quote 0 stands run body t) : read (body ++ [quote]) = some t := by
  induction h with
  | nil => exact hend
  | quote hlt _ _ => omega
  | char hc _ ih => rw [List.append_assoc, hchar _ _ _ hc, ih, Option.map_some]

/-! ### On several lines -/

/-- The closing quotes of a text on several lines. -/
def threeOf (quote : Char) : List Char := [quote, quote, quote]

theorem closing_replicate {rest : List Char} (hrest : rest.head? ≠ some quote) {n : Nat}
    (hn : n ≤ 2) :
    closing quote (List.replicate n quote ++ rest) = (List.replicate n quote, rest) := by
  cases rest with
  | nil =>
    obtain rfl | rfl | rfl : n = 0 ∨ n = 1 ∨ n = 2 := by omega
    all_goals simp [closing]
  | cons d rest =>
    have hd : d ≠ quote := fun heq => hrest (congrArg some heq)
    obtain rfl | rfl | rfl : n = 0 ∨ n = 1 ∨ n = 2 := by omega
    · cases rest with
      | nil => simp [closing, hd]
      | cons e rest => simp [closing, hd]
    all_goals simp [closing, hd]

theorem Body.extentLines {extent : List Char → List Char × List Char} (rest : List Char)
    (hrest : rest.head? ≠ some quote)
    (hend : ∀ s, extent (threeOf quote ++ s) = prepend (threeOf quote) (closing quote s))
    (hquote : ∀ s, (∀ r, s ≠ quote :: quote :: r) →
      extent (quote :: s) = prepend [quote] (extent s))
    (hchar : ∀ c written s, stands c written → extent (written ++ s) = prepend written (extent s))
    (hstands : StartsWell quote stands)
    (h : Body quote 2 stands run body t) :
    extent (body ++ (threeOf quote ++ rest)) = (body ++ threeOf quote, rest) := by
  induction h with
  | nil =>
    have hclosing := closing_replicate hrest (Nat.zero_le 2)
    rw [List.nil_append, hend, show rest = List.replicate 0 quote ++ rest from rfl, hclosing]
    rfl
  | quote hlt h ih =>
    rcases h.quotes_or (Nat.succ_pos _) hstands with ⟨n, hn, rfl, -⟩ | hnone
    · -- the quotes of the body run into the closing ones
      have hclosing := closing_replicate hrest (n := n + 1) (by omega)
      have hswap : quote :: (List.replicate n quote ++ (threeOf quote ++ rest)) =
          threeOf quote ++ (List.replicate (n + 1) quote ++ rest) := by
        obtain rfl | rfl : n = 0 ∨ n = 1 := by omega
        all_goals rfl
      rw [List.cons_append, hswap, hend, hclosing]
      obtain rfl | rfl : n = 0 ∨ n = 1 := by omega
      all_goals rfl
    · rw [List.cons_append, hquote _ (hnone _), ih]
      rfl
  | char hc _ ih => rw [List.append_assoc, hchar _ _ _ hc, ih, prepend, List.append_assoc]

theorem Body.meaningLines {read : List Char → Option (List Char)}
    (hend : ∀ s, read (threeOf quote ++ s) = lastQuotes? quote s)
    (hquote : ∀ s, (∀ r, s ≠ quote :: quote :: r) →
      read (quote :: s) = (read s).map (quote :: ·))
    (hchar : ∀ c written s, stands c written → read (written ++ s) = (read s).map (c :: ·))
    (hstands : StartsWell quote stands)
    (h : Body quote 2 stands run body t) : read (body ++ threeOf quote) = some t := by
  induction h with
  | nil => exact hend []
  | quote hlt h ih =>
    rcases h.quotes_or (Nat.succ_pos _) hstands with ⟨n, hn, rfl, rfl⟩ | hnone
    · have hswap : quote :: (List.replicate n quote ++ threeOf quote) =
          threeOf quote ++ List.replicate (n + 1) quote := by
        obtain rfl | rfl : n = 0 ∨ n = 1 := by omega
        all_goals rfl
      rw [List.cons_append, hswap, hend, lastQuotes?, if_pos ⟨by simpa using hn, by simp⟩]
      rfl
    · rw [List.cons_append, hquote _ (hnone _), ih, Option.map_some]
  | char hc _ ih => rw [List.append_assoc, hchar _ _ _ hc, ih, Option.map_some]

end Bodies

/-! ## Characters between literal quotes -/

/-- Whether a character may stand for itself; on several lines a line feed may. -/
def Shown (lines : Bool) (c : Char) : Prop := isPlain c = true ∨ (lines = true ∧ c = '\n')

theorem shown_of_not_isControl {lines : Bool} {c : Char} (h : isControl c = false)
    (hfeed : lines = true ∨ c ≠ '\n') : Shown lines c := by
  simp only [isControl, Bool.and_eq_false_iff, Bool.or_eq_false_iff, decide_eq_false_iff_not,
    Decidable.not_not] at h
  rcases h with (⟨hlow, hdelete⟩ | htab) | hnewline
  · exact .inl (by simp [isPlain, Nat.le_of_not_lt hlow, hdelete])
  · exact .inl (by simp [isPlain, htab])
  · exact .inr ⟨hfeed.resolve_right (not_not_intro hnewline), hnewline⟩

/-- Between literal quotes a character stands for itself. -/
inductive Own (lines : Bool) : Char → List Char → Prop where
  | mk {c : Char} (hshown : Shown lines c) (hquote : c ≠ '\'') : Own lines c [c]

theorem ne_return_of_shown {lines : Bool} {c : Char} (h : Shown lines c) : c ≠ '\r' := by
  rintro rfl
  rcases h with h | ⟨-, h⟩ <;> cases h

theorem Own.startsWell {lines : Bool} : StartsWell '\'' (Own lines) := by
  rintro c written ⟨hshown, hquote⟩
  exact ⟨_, _, rfl, hquote, ne_return_of_shown hshown, id⟩

/-- How many quotes in a row may stand for themselves. -/
def quoteLimit (lines : Bool) : Nat := if lines then 2 else 0

theorem le_longestRun (x : Char) (run : Nat) (t : List Char) : run ≤ longestRun x run t := by
  induction t generalizing run with
  | nil => exact Nat.le_refl run
  | cons c t ih =>
    rw [longestRun]
    split
    · exact Nat.le_of_succ_le (ih (run + 1))
    · exact Nat.le_max_left _ _

/-- A text without control characters and with few quotes in a row is its own literal body. -/
theorem body_literal {lines : Bool} {run : Nat} {t : List Char}
    (hcontrol : ∀ c ∈ t, isControl c = false) (hfeed : lines = true ∨ '\n' ∉ t)
    (hrun : longestRun '\'' run t ≤ quoteLimit lines) :
    Body '\'' (quoteLimit lines) (Own lines) run t t := by
  induction t generalizing run with
  | nil => exact .nil
  | cons c t ih =>
    obtain ⟨hc, ht⟩ := List.forall_mem_cons.mp hcontrol
    have hfeed' : lines = true ∨ '\n' ∉ t :=
      hfeed.imp_right fun h hmem => h (List.mem_cons_of_mem _ hmem)
    rw [longestRun] at hrun
    split at hrun
    · next heq =>
      subst heq
      exact .quote (Nat.lt_of_lt_of_le (Nat.lt_succ_self run)
        (Nat.le_trans (le_longestRun _ _ _) hrun)) (ih ht hfeed' hrun)
    · next hquote =>
      have hshown : Shown lines c := shown_of_not_isControl hc
        (hfeed.imp_right fun h heq => h (heq ▸ List.mem_cons_self))
      exact .char (.mk hshown hquote) (ih ht hfeed' (Nat.le_trans (Nat.le_max_right _ _) hrun))

/-! ## Characters between basic quotes -/

/-- Between basic quotes a character stands for itself, as a letter after a backslash, or as the
four digits of its code point. -/
inductive Stands (lines : Bool) : Char → List Char → Prop where
  | plain {c : Char} (hshown : Shown lines c) (hquote : c ≠ '"') (hslash : c ≠ '\\') :
      Stands lines c [c]
  | letter {c x : Char} (h : letterEscape? x = some c) : Stands lines c ['\\', x]
  | code {c x₁ x₂ x₃ x₄ : Char} {d₁ d₂ d₃ d₄ : Nat} (h₁ : hexDigit? x₁ = some d₁)
      (h₂ : hexDigit? x₂ = some d₂) (h₃ : hexDigit? x₃ = some d₃) (h₄ : hexDigit? x₄ = some d₄)
      (h : scalar? (16 * (16 * (16 * (16 * 0 + d₁) + d₂) + d₃) + d₄) = some c) :
      Stands lines c ['\\', 'u', x₁, x₂, x₃, x₄]

theorem Stands.startsWell {lines : Bool} : StartsWell '"' (Stands lines) := by
  intro c written h
  have hslash : '\\' ≠ '"' ∧ '\\' ≠ '\r' ∧ ('\\' = '\n' → c = '\n') := by simp
  cases h with
  | plain hshown hquote _ => exact ⟨_, _, rfl, hquote, ne_return_of_shown hshown, id⟩
  | letter _ => exact ⟨_, _, rfl, hslash⟩
  | code => exact ⟨_, _, rfl, hslash⟩

theorem hexDigit?_upperHex : ∀ d < 16, hexDigit? (upperHex d) = some d := by decide

theorem stands_codePoint {lines : Bool} {c : Char} (h : isControl c = true) :
    Stands lines c (codePoint c) := by
  have hlt : c.toNat < 65536 := by
    simp only [isControl, Bool.and_eq_true, Bool.or_eq_true, decide_eq_true_eq] at h
    omega
  have hdigit (n : Nat) : hexDigit? (upperHex (n % 16)) = some (n % 16) :=
    hexDigit?_upperHex _ (Nat.mod_lt n (by decide))
  refine .code (hdigit _) (hdigit _) (hdigit _) (hdigit _) ?_
  have hvalue : 16 * (16 * (16 * (16 * 0 + c.toNat / 4096 % 16) + c.toNat / 256 % 16) +
      c.toNat / 16 % 16) + c.toNat % 16 = c.toNat := by omega
  have hvalid : c.toNat.isValidChar := c.valid
  rw [hvalue, scalar?, dif_pos hvalid]
  rfl

theorem stands_basicChar {lines : Bool} {c : Char} (hquote : c ≠ '"') :
    Stands lines c (basicChar lines c) := by
  unfold basicChar
  split
  · next h =>
    subst h
    exact .letter rfl
  next hslash =>
  split
  · next h => exact h ▸ .letter rfl
  split
  · next h =>
    subst h
    cases lines with
    | true => exact .plain (.inr ⟨rfl, rfl⟩) hquote hslash
    | false => exact .letter rfl
  next hfeed =>
  split
  · next h => exact h ▸ .letter rfl
  split
  · next h => exact h ▸ .letter rfl
  split
  · next h => exact h ▸ .letter rfl
  split
  · next h => exact stands_codePoint h
  · next h =>
    exact .plain (shown_of_not_isControl (Bool.not_eq_true _ ▸ h) (.inr hfeed)) hquote hslash

theorem body_basicBody (lines : Bool) (run : Nat) (t : List Char) :
    Body '"' (quoteLimit lines) (Stands lines) run (basicBody lines run t) t := by
  induction t generalizing run with
  | nil => exact .nil
  | cons c t ih =>
    rw [basicBody]
    split
    · next heq =>
      subst heq
      by_cases hrun : run < if lines then 2 else 0
      · rw [if_pos hrun]
        exact .quote hrun (ih (run + 1))
      · have hletter : Stands lines '"' ['\\', '"'] := .letter rfl
        rw [if_neg hrun]
        exact .char hletter (ih 0)
    · next hquote => exact .char (stands_basicChar hquote) (ih 0)

/-! ## Where words end -/

theorem ne_feed_of_shown {c : Char} (h : Shown false c) : c ≠ '\n' := by
  rintro rfl
  rcases h with h | ⟨h, -⟩ <;> cases h

theorem ne_feed_of_letterEscape? {c x : Char} (h : letterEscape? x = some c) : x ≠ '\n' := by
  rintro rfl
  cases h

theorem ne_of_hexDigit? {x : Char} {d : Nat} (h : hexDigit? x = some d) :
    x ≠ '"' ∧ x ≠ '\\' ∧ x ≠ '\n' := by
  refine ⟨?_, ?_, ?_⟩ <;> (rintro rfl; cases h)

theorem basicExtent_plain {c : Char} (h : c ≠ '"' ∧ c ≠ '\\' ∧ c ≠ '\n') (s : List Char) :
    basicExtent false (c :: s) = push c (basicExtent false s) := by
  simp [basicExtent, h.1, h.2.1, h.2.2]

theorem basicExtent_slash {x : Char} (h : x ≠ '\n') (s : List Char) :
    basicExtent false ('\\' :: x :: s) = push '\\' (push x (basicExtent false s)) := by
  by_cases hx : x = '"' ∨ x = '\\'
  · simp [basicExtent, hx]
  · obtain ⟨hquote, hslash⟩ := not_or.mp hx
    simp [basicExtent, hquote, hslash, h]

theorem basicExtent_stands (c : Char) (written s : List Char) (h : Stands false c written) :
    basicExtent false (written ++ s) = prepend written (basicExtent false s) := by
  cases h with
  | plain hshown hquote hslash =>
    exact basicExtent_plain ⟨hquote, hslash, ne_feed_of_shown hshown⟩ s
  | letter hx => exact basicExtent_slash (ne_feed_of_letterEscape? hx) s
  | code h₁ h₂ h₃ h₄ _ =>
    refine (basicExtent_slash (by decide) _).trans ?_
    change push '\\' (push 'u' (basicExtent false (_ :: _ :: _ :: _ :: s))) = _
    rw [basicExtent_plain (ne_of_hexDigit? h₁),
      basicExtent_plain (ne_of_hexDigit? h₂), basicExtent_plain (ne_of_hexDigit? h₃),
      basicExtent_plain (ne_of_hexDigit? h₄)]
    rfl

theorem linesExtent_plain {quote c : Char} {escapes : Bool} (hquote : c ≠ quote)
    (hslash : escapes = true → c ≠ '\\') (s : List Char) :
    linesExtent quote escapes false (c :: s) = push c (linesExtent quote escapes false s) := by
  have hescaped : (escapes && decide (c = '\\')) = false := by
    cases escapes with
    | false => rfl
    | true => exact decide_eq_false (hslash rfl)
  rw [linesExtent.eq_def quote escapes false (c :: s)]
  simp only [Bool.false_eq_true, false_and, if_false, hquote, hescaped]

theorem linesExtent_slash (x : Char) (s : List Char) :
    linesExtent '"' true false ('\\' :: x :: s) =
      push '\\' (push x (linesExtent '"' true false s)) := by
  have hquote : '\\' ≠ '"' := by decide
  rw [linesExtent.eq_def _ true false ('\\' :: x :: s)]
  simp only [Bool.false_eq_true, false_and, if_false, hquote, decide_true, Bool.and_self]
  by_cases hx : x = '"' ∨ x = '\\'
  · rw [linesExtent.eq_def _ true true (x :: s)]
    simp only [hx, and_self, if_true]
  · obtain ⟨hquote, hslash⟩ := not_or.mp hx
    rw [linesExtent.eq_def _ true true (x :: s)]
    simp only [hquote, hslash, or_self, and_false, if_false, decide_false, Bool.and_false]

theorem linesExtent_quote {quote : Char} {escapes : Bool} (s : List Char)
    (h : ∀ r, s ≠ quote :: quote :: r) :
    linesExtent quote escapes false (quote :: s) =
      prepend [quote] (linesExtent quote escapes false s) := by
  rw [linesExtent.eq_def quote escapes false (quote :: s)]
  simp only [Bool.false_eq_true, false_and, if_false, if_true]
  split
  · next a b r =>
    rw [if_neg]
    · rfl
    rintro ⟨rfl, rfl⟩
    exact h r rfl
  · rfl

theorem linesExtent_threeOf {quote : Char} {escapes : Bool} (s : List Char) :
    linesExtent quote escapes false (threeOf quote ++ s) =
      prepend (threeOf quote) (closing quote s) := by
  simp [threeOf, linesExtent, prepend]

theorem linesExtent_stands (c : Char) (written s : List Char) (h : Stands true c written) :
    linesExtent '"' true false (written ++ s) = prepend written (linesExtent '"' true false s) := by
  cases h with
  | plain _ hquote hslash => exact linesExtent_plain hquote (fun _ => hslash) s
  | letter _ => exact linesExtent_slash _ s
  | code h₁ h₂ h₃ h₄ _ =>
    have hplain {x : Char} {d : Nat} (h : hexDigit? x = some d) (s : List Char) :
        linesExtent '"' true false (x :: s) = push x (linesExtent '"' true false s) :=
      linesExtent_plain (ne_of_hexDigit? h).1 (fun _ => (ne_of_hexDigit? h).2.1) s
    refine (linesExtent_slash 'u' _).trans ?_
    change push '\\' (push 'u' (linesExtent '"' true false (_ :: _ :: _ :: _ :: s))) = _
    rw [hplain h₁, hplain h₂, hplain h₃, hplain h₄]
    rfl

theorem literalExtent_own (c : Char) (written s : List Char) (h : Own false c written) :
    literalExtent (written ++ s) = prepend written (literalExtent s) := by
  obtain ⟨hshown, hquote⟩ := h
  have hfeed := ne_feed_of_shown hshown
  simp [literalExtent, hquote, hfeed, prepend, push]

theorem linesExtent_own (c : Char) (written s : List Char) (h : Own true c written) :
    linesExtent '\'' false false (written ++ s) =
      prepend written (linesExtent '\'' false false s) := by
  obtain ⟨-, hquote⟩ := h
  exact linesExtent_plain hquote (fun h => (Bool.false_ne_true h).elim) s

/-! ## What words say -/

theorem basic_stands (c : Char) (written s : List Char) (h : Stands false c written) :
    basic .plain (written ++ s) = (basic .plain s).map (c :: ·) := by
  cases h with
  | plain hshown hquote hslash =>
    have hplain : isPlain c = true := hshown.resolve_right fun h => nomatch h.1
    simp [basic, hquote, hslash, hplain]
  | letter hx => simp [basic, hx]
  | code h₁ h₂ h₃ h₄ hscalar => 
    have hu : letterEscape? 'u' = none ∧ codeEscape? 'u' = some 4 := by decide
    rw [Nat.mul_zero, Nat.zero_add] at hscalar
    simp [basic, hu, h₁, h₂, h₃, h₄, hscalar]

theorem literal_own (c : Char) (written s : List Char) (h : Own false c written) :
    literal (written ++ s) = (literal s).map (c :: ·) := by
  obtain ⟨hshown, hquote⟩ := h
  have hplain : isPlain c = true := hshown.resolve_right fun h => nomatch h.1
  simp [literal, hquote, hplain]

theorem plain_or_startsLineEnd {c : Char} (h : Shown true c) (s : List Char) :
    isPlain c = true ∨ startsLineEnd c s = true := by
  rcases h with h | ⟨-, rfl⟩
  · exact .inl h
  · exact .inr rfl

theorem basicLines_stands (c : Char) (written s : List Char) (h : Stands true c written) :
    basicLines .plain (written ++ s) = (basicLines .plain s).map (c :: ·) := by
  cases h with
  | plain hshown hquote hslash =>
    have hplain := plain_or_startsLineEnd hshown s
    rw [List.singleton_append, basicLines.eq_def]
    simp [hquote, hslash, hplain]
  | letter hx => simp [basicLines, hx]
  | code h₁ h₂ h₃ h₄ hscalar =>
    have hu : letterEscape? 'u' = none ∧ codeEscape? 'u' = some 4 := by decide
    rw [Nat.mul_zero, Nat.zero_add] at hscalar
    simp [basicLines, hu, h₁, h₂, h₃, h₄, hscalar]

theorem basicLines_quote (s : List Char) (h : ∀ r, s ≠ '"' :: '"' :: r) :
    basicLines .plain ('"' :: s) = (basicLines .plain s).map ('"' :: ·) := by
  rw [basicLines]
  · simp
  · nofun
  · nofun
  · nofun
  · exact h

theorem literalLines_own (c : Char) (written s : List Char) (h : Own true c written) :
    literalLines (written ++ s) = (literalLines s).map (c :: ·) := by
  obtain ⟨hshown, hquote⟩ := h
  have hplain := plain_or_startsLineEnd hshown s
  rw [List.singleton_append, literalLines.eq_def]
  simp [hquote, hplain]

theorem literalLines_quote (s : List Char) (h : ∀ r, s ≠ '\'' :: '\'' :: r) :
    literalLines ('\'' :: s) = (literalLines s).map ('\'' :: ·) := by
  rw [literalLines]
  · simp
  · exact h

/-! ## Written texts -/

def Quotes.spelling : Quotes → Spelling
  | .basic => .basic
  | .literal => .literal
  | .basicLines => .basicLines
  | .literalLines => .literalLines

/-- A text as it stands between the marks of some quotes. -/
def Quotes.inside (quotes : Quotes) (t : List Char) : List Char :=
  let start := if t.contains '\n' then ['\n'] else []
  match quotes with
  | .basic => basicBody false 0 t
  | .literal => t
  | .basicLines => start ++ basicBody true 0 t
  | .literalLines => start ++ t

/-- What a text needs to stand between quotes that know no escapes. -/
def Quotes.Show (t : List Char) : Quotes → Prop
  | .literal => (∀ c ∈ t, isControl c = false) ∧ '\n' ∉ t ∧ longestRun '\'' 0 t = 0
  | .literalLines => (∀ c ∈ t, isControl c = false) ∧ longestRun '\'' 0 t ≤ 2
  | _ => True

theorem Quotes.Show.literal {t : List Char} (h : Quotes.literal.Show t) :
    Body '\'' (quoteLimit false) (Own false) 0 t t :=
  body_literal h.1 (.inr h.2.1) (Nat.le_of_eq h.2.2)

theorem Quotes.Show.literalLines {t : List Char} (h : Quotes.literalLines.Show t) :
    Body '\'' (quoteLimit true) (Own true) 0 t t :=
  body_literal h.1 (.inl rfl) h.2

theorem Quotes.show_for (t : List Char) : (Quotes.for t).Show t := by
  have hcontrol (h : t.any isControl = false) : ∀ c ∈ t, isControl c = false := by simpa using h
  unfold Quotes.for
  simp only
  split
  · exact trivial
  split
  · next h =>
    obtain ⟨hnone, hsingle, hfeed⟩ := h
    exact ⟨hcontrol hnone, by simpa using hfeed, hsingle⟩
  split
  · exact trivial
  split
  · next h => exact ⟨hcontrol h.1, h.2⟩
  split <;> exact trivial

def textWord (s : String) : Word :=
  let quotes := Quotes.for s.toList
  ⟨quotes.spelling, quotes.inside s.toList ++ quotes.mark⟩

theorem toList_writeText (s : String) :
    (writeText s).toList = (Quotes.for s.toList).mark ++ (textWord s).text := by
  change (String.ofList _).toList = _ ++ (_ ++ _)
  rw [String.toList_ofList, ← List.append_assoc]
  rfl

theorem dropLineEnd_of_head {t : List Char} (h : ∀ c ∈ t.head?, c ≠ '\n' ∧ c ≠ '\r') :
    dropLineEnd t = t := by
  unfold dropLineEnd
  split
  · exact absurd rfl (h '\n' rfl).1
  · exact absurd rfl (h '\r' rfl).2
  · rfl

/-- The line end after the opening quotes is no part of the text. -/
theorem dropLineEnd_start {t body : List Char}
    (h : '\n' ∉ t → ∀ c ∈ body.head?, c ≠ '\n' ∧ c ≠ '\r') :
    dropLineEnd ((if t.contains '\n' then ['\n'] else []) ++ body) = body := by
  split
  · rfl
  · next hfeed => exact dropLineEnd_of_head (h (by simpa using hfeed))

/-- The word of a written text says the text. -/
theorem quoted?_textWord (s : String) : (textWord s).quoted? = some s.toList := by
  have hshow := Quotes.show_for s.toList
  unfold textWord
  simp only
  generalize Quotes.for s.toList = quotes at hshow ⊢
  generalize s.toList = t at hshow ⊢
  cases quotes with
  | basic => exact (body_basicBody false 0 t).meaning rfl basic_stands
  | literal => exact hshow.literal.meaning rfl literal_own
  | basicLines =>
    have hbody := body_basicBody true 0 t
    have hdrop := dropLineEnd_start fun hfeed =>
      hbody.head Stands.startsWell (by decide) hfeed ['"', '"']
    rw [← List.append_assoc] at hdrop
    refine (congrArg (basicLines .plain) hdrop).trans ?_
    exact hbody.meaningLines (fun _ => rfl) basicLines_quote basicLines_stands Stands.startsWell
  | literalLines =>
    have hbody := hshow.literalLines
    have hdrop := dropLineEnd_start fun hfeed =>
      hbody.head Own.startsWell (by decide) hfeed ['\'', '\'']
    rw [← List.append_assoc] at hdrop
    refine (congrArg literalLines hdrop).trans ?_
    exact hbody.meaningLines (fun _ => rfl) literalLines_quote literalLines_own Own.startsWell

/-! ## Cutting written texts -/

theorem cut_basic {s : List Char} (h : ∀ r, s ≠ '"' :: '"' :: r) :
    cut '"' s = wordOf .basic (basicExtent false s) := by
  have hmark : mark? '"' = none := rfl
  unfold cut
  rw [hmark]
  dsimp only
  rw [if_neg (by decide), if_neg (by decide), if_neg (by decide), if_neg (by decide), if_pos rfl]
  split
  · next t => exact absurd rfl (h t)
  · rfl

theorem cut_literal {s : List Char} (h : ∀ r, s ≠ '\'' :: '\'' :: r) :
    cut '\'' s = wordOf .literal (literalExtent s) := by
  have hmark : mark? '\'' = none := rfl
  unfold cut
  rw [hmark]
  dsimp only
  rw [if_neg (by decide), if_neg (by decide), if_neg (by decide), if_neg (by decide),
    if_neg (by decide), if_pos rfl]
  split
  · next t => exact absurd rfl (h t)
  · rfl

theorem Body.ne_quotes {quote : Char} {stands : Char → List Char → Prop} {run : Nat}
    {body t : List Char} (h : Body quote 0 stands run body t) (hstands : StartsWell quote stands)
    (hquote : quote ≠ '\n') (rest r : List Char) :
    body ++ quote :: '\n' :: rest ≠ quote :: quote :: r := by
  cases h with
  | nil => simp [hquote.symm]
  | quote hlt _ => omega
  | char hc _ =>
    obtain ⟨d, more, rfl, hd, -⟩ := hstands _ _ hc
    simp [hd]

/-- A text that starts on a line of its own has one more line feed. -/
theorem Body.start {quote : Char} {stands : Char → List Char → Prop} {body t : List Char}
    (h : Body quote 2 stands 0 body t) (hfeed : stands '\n' ['\n']) (more : Bool) :
    ∃ t', Body quote 2 stands 0 ((if more then ['\n'] else []) ++ body) t' := by
  cases more with
  | false => exact ⟨t, h⟩
  | true => exact ⟨'\n' :: t, .char hfeed h⟩

/-- A written text is cut off before a line end. -/
theorem cut_writeText {s : String} {c : Char} {w : List Char} (h : (writeText s).toList = c :: w)
    (rest : List Char) : cut c (w ++ '\n' :: rest) = (.word (textWord s), '\n' :: rest) := by
  have hshow := Quotes.show_for s.toList
  rw [toList_writeText] at h
  unfold textWord at h ⊢
  simp only at h ⊢
  generalize Quotes.for s.toList = quotes at h hshow ⊢
  generalize s.toList = t at h hshow ⊢
  cases quotes with
  | basic =>
    obtain ⟨rfl, rfl⟩ := List.cons.inj h
    have hbody := body_basicBody false 0 t
    have hextent := hbody.extent ('\n' :: rest) rfl basicExtent_stands
    change cut '"' ((basicBody false 0 t ++ ['"']) ++ '\n' :: rest) = _
    rw [List.append_assoc, List.singleton_append,
      cut_basic (hbody.ne_quotes Stands.startsWell (by decide) rest), hextent]
    rfl
  | literal =>
    obtain ⟨rfl, rfl⟩ := List.cons.inj h
    have hbody := hshow.literal
    have hextent := hbody.extent ('\n' :: rest) rfl literalExtent_own
    change cut '\'' ((t ++ ['\'']) ++ '\n' :: rest) = _
    rw [List.append_assoc, List.singleton_append,
      cut_literal (hbody.ne_quotes Own.startsWell (by decide) rest), hextent]
    rfl
  | basicLines =>
    obtain ⟨rfl, rfl⟩ := List.cons.inj h
    have hfeed : Stands true '\n' ['\n'] := .plain (.inr ⟨rfl, rfl⟩) (by decide) (by decide)
    obtain ⟨t', hbody⟩ := (body_basicBody true 0 t).start hfeed (t.contains '\n')
    have hextent := hbody.extentLines ('\n' :: rest) (by simp) linesExtent_threeOf
      linesExtent_quote linesExtent_stands Stands.startsWell
    rw [← List.append_assoc] at hextent
    exact congrArg (wordOf .basicLines) hextent
  | literalLines =>
    obtain ⟨rfl, rfl⟩ := List.cons.inj h
    have hfeed : Own true '\n' ['\n'] := .mk (.inr ⟨rfl, rfl⟩) (by decide)
    obtain ⟨t', hbody⟩ := hshow.literalLines.start hfeed (t.contains '\n')
    have hextent := hbody.extentLines ('\n' :: rest) (by simp) linesExtent_threeOf
      linesExtent_quote linesExtent_own Own.startsWell
    rw [← List.append_assoc] at hextent
    exact congrArg (wordOf .literalLines) hextent

end TapSuite.Toml

import Mathlib.Data.List.TakeWhile
import TapSuite.Proofs.Toml.Keys
import TapSuite.Proofs.Toml.Number
import TapSuite.Proofs.Toml.Quotes

/-!
# Written documents are read back

A field is a key and a value, written on a line of their own.  A document of fields, the last of
them in a section, has the values at the keys.

    parse (String.ofList (fieldsText fields)) = .ok (fieldsTable fields)             (parse_fields)
    parse (String.ofList (sectionsText fields name inner)) =
      .ok (fieldsTable fields ++ [(name, .table (fieldsTable inner))])             (parse_sections)

Every line is cut into the same tokens, whatever follows it, and makes one line of the layout.
-/

namespace TapSuite.Toml

/-! ## Tokens -/

theorem length_basicExtent (escaped : Bool) (t : List Char) :
    (basicExtent escaped t).2.length ≤ t.length := by
  induction t generalizing escaped with
  | nil => exact Nat.le_refl _
  | cons c t ih =>
    rw [basicExtent]
    split
    · exact Nat.le_succ_of_le (ih _)
    split
    · exact Nat.le_succ _
    split
    · exact Nat.le_refl _
    · exact Nat.le_succ_of_le (ih _)

theorem length_literalExtent (t : List Char) : (literalExtent t).2.length ≤ t.length := by
  induction t with
  | nil => exact Nat.le_refl _
  | cons c t ih =>
    rw [literalExtent]
    split
    · exact Nat.le_succ _
    split
    · exact Nat.le_refl _
    · exact Nat.le_succ_of_le ih

theorem length_closing (quote : Char) (t : List Char) : (closing quote t).2.length ≤ t.length := by
  unfold closing
  split
  · split
    · exact Nat.le_add_right _ 2
    split
    · exact Nat.le_succ _
    · exact Nat.le_refl _
  · split
    · exact Nat.zero_le _
    · exact Nat.le_refl _
  · exact Nat.le_refl _

theorem length_linesExtent (quote : Char) (escapes escaped : Bool) (t : List Char) :
    (linesExtent quote escapes escaped t).2.length ≤ t.length := by
  induction t generalizing escaped with
  | nil => exact Nat.le_refl _
  | cons c t ih =>
    rw [linesExtent.eq_def]
    simp only
    split
    · exact Nat.le_succ_of_le (ih _)
    split
    · split
      · next a b r =>
        split
        · exact Nat.le_add_right_of_le (k := 3) (length_closing quote r)
        · exact Nat.le_succ_of_le (ih _)
      · exact Nat.le_succ_of_le (ih _)
    · exact Nat.le_succ_of_le (ih _)

theorem length_cut (c : Char) (t : List Char) : (cut c t).2.length ≤ t.length := by
  unfold cut
  split
  · exact Nat.le_refl _
  split
  · exact List.length_dropWhile_le _ t
  split
  · exact Nat.le_refl _
  split
  · split
    · exact Nat.le_succ _
    · exact Nat.le_refl _
  split
  · exact List.length_dropWhile_le _ t
  split
  · split
    · next t => exact Nat.le_add_right_of_le (k := 2) (length_linesExtent _ _ _ t)
    · exact length_basicExtent _ t
  split
  · split
    · next t => exact Nat.le_add_right_of_le (k := 2) (length_linesExtent _ _ _ t)
    · exact length_literalExtent t
  · exact List.length_dropWhile_le _ t

/-- More fuel than there are characters changes nothing. -/
theorem tokensFrom_eq {fuel : Nat} {t : List Char} (h : t.length ≤ fuel) :
    tokensFrom fuel t = tokens t := by
  have hagree : ∀ n m t, List.length t ≤ n → List.length t ≤ m →
      tokensFrom n t = tokensFrom m t := by
    intro n
    induction n with
    | zero =>
      intro m t hn _
      rw [List.length_eq_zero_iff.mp (Nat.le_zero.mp hn)]
      cases m <;> rfl
    | succ n ih =>
      intro m t hn hm
      cases t with
      | nil => cases m <;> rfl
      | cons c t =>
        cases m with
        | zero => cases hm
        | succ m =>
          have hrest := length_cut c t
          simp only [tokensFrom]
          rw [ih m (cut c t).2 (hrest.trans (Nat.le_of_succ_le_succ hn))
            (hrest.trans (Nat.le_of_succ_le_succ hm))]
  exact hagree fuel t.length t h (Nat.le_refl _)

theorem tokens_cons {c : Char} {t rest : List Char} {token : Token} (h : cut c t = (token, rest)) :
    tokens (c :: t) = token :: tokens rest := by
  have hrest : rest.length ≤ t.length := by
    have hlength := length_cut c t
    rwa [h] at hlength
  rw [tokens, List.length_cons, tokensFrom, h]
  exact congrArg (token :: ·) (tokensFrom_eq hrest)

theorem tokens_mark {c : Char} {token : Token} (h : mark? c = some token) (t : List Char) :
    tokens (c :: t) = token :: tokens t := by
  refine tokens_cons ?_
  unfold cut
  rw [h]

theorem tokens_feed (t : List Char) : tokens ('\n' :: t) = .lineEnd true :: tokens t :=
  tokens_cons rfl

theorem cut_space {c : Char} (h : isSpace c = true) (t : List Char) :
    cut c t = (.blank (c :: t.takeWhile isSpace), t.dropWhile isSpace) := by
  rcases Bool.or_eq_true _ _ ▸ h with h | h <;> (rw [of_decide_eq_true h]; rfl)

theorem tokens_space {t : List Char} (h : ∀ c ∈ t.head?, isSpace c = false) :
    tokens (' ' :: t) = .blank [' '] :: tokens t := by
  refine tokens_cons ?_
  rw [cut_space rfl]
  cases t with
  | nil => rfl
  | cons c t =>
    have hc : ¬ isSpace c = true := by simpa using h c rfl
    rw [List.takeWhile_cons_of_neg hc, List.dropWhile_cons_of_neg hc]

/-! ## Bare words -/

/-- A word that needs no quotes and starts with none. -/
def Plain (word : List Char) : Prop :=
  word ≠ [] ∧ ∀ c ∈ word, isWordChar c = true ∧ c ≠ '"' ∧ c ≠ '\''

theorem cut_wordChar {c : Char} (hword : isWordChar c = true) (hquotes : c ≠ '"' ∧ c ≠ '\'')
    (t : List Char) :
    cut c t = (.word ⟨.bare, c :: t.takeWhile isWordChar⟩, t.dropWhile isWordChar) := by
  simp only [isWordChar, Bool.not_eq_true', Bool.or_eq_false_iff, decide_eq_false_iff_not] at hword
  obtain ⟨⟨⟨⟨⟨⟨⟨⟨⟨⟨hdot, hequals⟩, hcomma⟩, hopen⟩, hclose⟩, hopenBrace⟩, hcloseBrace⟩, hspace⟩,
    hhash⟩, hreturn⟩, hfeed⟩ := hword
  have hmark : mark? c = none := by
    simp only [mark?, hdot, hequals, hcomma, hopen, hclose, hopenBrace, hcloseBrace, if_false]
  unfold cut
  rw [hmark]
  simp only [hspace, hfeed, hreturn, hhash, hquotes.1, hquotes.2, Bool.false_eq_true, if_false]
  rfl

/-- The part of a text that a test holds for ends where the test fails. -/
theorem takeWhile_append_of_head {p : Char → Bool} {t rest : List Char}
    (ht : ∀ c ∈ t, p c = true) (hrest : ∀ c ∈ rest.head?, p c = false) :
    (t ++ rest).takeWhile p = t ∧ (t ++ rest).dropWhile p = rest := by
  rw [List.takeWhile_append_of_pos ht, List.dropWhile_append_of_pos ht]
  cases rest with
  | nil => exact ⟨List.append_nil t, rfl⟩
  | cons c rest =>
    have hc : ¬ p c = true := by simpa using hrest c rfl
    rw [List.takeWhile_cons_of_neg hc, List.dropWhile_cons_of_neg hc, List.append_nil]
    exact ⟨rfl, rfl⟩

theorem cut_plain {c : Char} {word rest : List Char} (h : Plain (c :: word))
    (hrest : ∀ d ∈ rest.head?, isWordChar d = false) :
    cut c (word ++ rest) = (.word ⟨.bare, c :: word⟩, rest) := by
  obtain ⟨⟨hc, hquotes⟩, hword⟩ := List.forall_mem_cons.mp h.2
  obtain ⟨htake, hdrop⟩ := takeWhile_append_of_head (fun d hd => (hword d hd).1) hrest
  rw [cut_wordChar hc hquotes, htake, hdrop]

theorem tokens_plain {word rest : List Char} (h : Plain word)
    (hrest : ∀ c ∈ rest.head?, isWordChar c = false) :
    tokens (word ++ rest) = .word ⟨.bare, word⟩ :: tokens rest := by
  cases word with
  | nil => exact absurd rfl h.1
  | cons c word => exact tokens_cons (cut_plain h hrest)

theorem ne_of_isBare {c d : Char} (h : isBare c = true) (hd : isBare d = false) : c ≠ d := by
  rintro rfl
  rw [h] at hd
  cases hd

def BareKey (key : String) : Prop := key.toList ≠ [] ∧ key.toList.all isBare = true

instance (key : String) : Decidable (BareKey key) := inferInstanceAs (Decidable (_ ∧ _))

theorem plain_of_isBare {word : List Char} (hne : word ≠ []) (h : word.all isBare = true) :
    Plain word := by
  refine ⟨hne, fun c hc => ?_⟩
  have hbare : isBare c = true := List.all_eq_true.mp h c hc
  have hother {d : Char} (hd : isBare d = false) : (decide (c = d)) = false :=
    decide_eq_false (ne_of_isBare hbare hd)
  refine ⟨?_, ne_of_isBare hbare (by decide), ne_of_isBare hbare (by decide)⟩
  simp only [isWordChar, isSpace, hother (d := '.') (by decide), hother (d := '=') (by decide),
    hother (d := ',') (by decide), hother (d := '[') (by decide), hother (d := ']') (by decide),
    hother (d := '\x7b') (by decide), hother (d := '\x7d') (by decide),
    hother (d := ' ') (by decide), hother (d := '\t') (by decide), hother (d := '#') (by decide),
    hother (d := '\r') (by decide), hother (d := '\n') (by decide)]
  rfl

theorem key?_bare {key : String} (h : BareKey key) :
    key? [⟨.bare, key.toList⟩] = .ok ([], key) := by
  have hpart : Word.part? ⟨.bare, key.toList⟩ = some key :=
    (if_pos h).trans (congrArg some String.ofList_toList)
  simp only [key?, List.mapM_cons, List.mapM_nil, hpart, orMalformed]
  rfl

/-! ## Fields -/

/-- A value with the word that it is written as. -/
structure Written where
  text : List Char
  word : Word
  value : Value
  /-- The text is cut off as the word before a line end. -/
  cut_text : ∃ c w, text = c :: w ∧ ∀ rest, cut c (w ++ '\n' :: rest) = (.word word, '\n' :: rest)
  value_word : word.value? = some value

theorem Word.value?_of_quoted? {w : Word} {t : List Char} (h : w.quoted? = some t) :
    w.value? = some (.text (String.ofList t)) := by
  obtain ⟨spelling, text⟩ := w
  cases spelling with
  | bare => cases h
  | _ => exact congrArg (Option.map fun t => Value.text (String.ofList t)) h

def Written.ofText (s : String) : Written where
  text := (writeText s).toList
  word := textWord s
  value := .text s
  cut_text := by
    cases hs : (writeText s).toList with
    | nil =>
      rw [toList_writeText] at hs
      cases hquotes : Quotes.for s.toList <;> (rw [hquotes] at hs; cases hs)
    | cons c w => exact ⟨c, w, rfl, cut_writeText hs⟩
  value_word := by
    rw [Word.value?_of_quoted? (quoted?_textWord s), String.ofList_toList]

theorem Written.text_ofText (s : String) : (Written.ofText s).text = (writeText s).toList := by
  rw [Written.ofText]

def Written.ofInteger (n : Int) : Written where
  text := (toString n).toList
  word := ⟨.bare, (toString n).toList⟩
  value := .integer n
  cut_text := by
    have hplain : Plain (toString n).toList := by
      obtain ⟨negative, m, hchars, -⟩ := exists_sign_digits n
      rw [hchars]
      refine plain_of_isBare (List.append_ne_nil_of_right_ne_nil _ Nat.toDigits_ne_nil) ?_
      rw [List.all_eq_true]
      intro c hc
      rcases sign_or_digit hc with rfl | hdigit
      · rfl
      · simp only [isBare, Char.isAlphanum, hdigit, Bool.or_true, Bool.true_or]
    cases htext : (toString n).toList with
    | nil => exact absurd htext hplain.1
    | cons c w =>
      exact ⟨c, w, rfl, fun rest => cut_plain (htext ▸ hplain) (by simp; decide)⟩
  value_word := bareValue?_toString n

theorem Written.text_ofInteger (n : Int) : (Written.ofInteger n).text = (toString n).toList := rfl

/-- A key with its value. -/
structure Field where
  key : String
  bare : BareKey key
  written : Written

/-- A line with a key and the text of a value. -/
def lineOf (key : String) (text : List Char) : List Char :=
  key.toList ++ ' ' :: '=' :: ' ' :: (text ++ ['\n'])

namespace Field

def line (f : Field) : List Char := lineOf f.key f.written.text

def lineTokens (f : Field) : List Token :=
  [.word ⟨.bare, f.key.toList⟩, .blank [' '], .equals, .blank [' '], .word f.written.word,
    .lineEnd true]

/-- The layout of a line. -/
def entry (f : Field) : Line := .entry [⟨.bare, f.key.toList⟩] (.word f.written.word)

/-- A field's key and value in a table. -/
def row (f : Field) : String × Value := (f.key, f.written.value)

theorem tokens_line (f : Field) (rest : List Char) :
    tokens (f.line ++ rest) = f.lineTokens ++ tokens rest := by
  obtain ⟨c, w, htext, hcut⟩ := f.written.cut_text
  have hspace : isSpace c = false := by
    rw [← Bool.not_eq_true]
    intro hspace
    have hblank := hcut []
    rw [cut_space hspace] at hblank
    cases hblank
  have hword : tokens (f.written.text ++ '\n' :: rest) =
      .word f.written.word :: tokens ('\n' :: rest) := by
    rw [htext]
    exact tokens_cons (hcut rest)
  have hline : f.line ++ rest =
      f.key.toList ++ ' ' :: '=' :: ' ' :: (f.written.text ++ '\n' :: rest) := by
    simp only [line, lineOf, List.append_assoc, List.cons_append, List.nil_append]
  rw [hline, tokens_plain (plain_of_isBare f.bare.1 f.bare.2) (by simp; decide),
    tokens_space (by simp; decide), tokens_mark rfl,
    tokens_space (by rw [htext]; simpa using hspace), hword, tokens_feed]
  rfl

end Field


def fieldsText (fields : List Field) : List Char := fields.flatMap Field.line

def fieldsTable (fields : List Field) : Table := fields.map Field.row

def sectionLine (name : String) : List Char := '[' :: name.toList ++ [']', '\n']

def sectionTokens (name : String) : List Token :=
  [.openBracket, .word ⟨.bare, name.toList⟩, .closeBracket, .lineEnd true]

theorem tokens_fieldsText (fields : List Field) (rest : List Char) :
    tokens (fieldsText fields ++ rest) = fields.flatMap Field.lineTokens ++ tokens rest := by
  induction fields with
  | nil => rfl
  | cons f fields ih =>
    rw [fieldsText, List.flatMap_cons, List.append_assoc, Field.tokens_line]
    exact (congrArg (f.lineTokens ++ ·) ih).trans (List.append_assoc _ _ _).symm

theorem tokens_sectionLine {name : String} (h : BareKey name) (rest : List Char) :
    tokens (sectionLine name ++ rest) = sectionTokens name ++ tokens rest := by
  have hline : sectionLine name ++ rest = '[' :: (name.toList ++ ']' :: '\n' :: rest) := by
    simp only [sectionLine, List.append_assoc, List.cons_append, List.nil_append]
  rw [hline, tokens_mark rfl, tokens_plain (plain_of_isBare h.1 h.2) (by simp; decide),
    tokens_mark rfl, tokens_feed]
  rfl

/-! ## Lines -/

theorem linesFrom?_feed (fuel : Nat) (ts : List Token) :
    linesFrom? fuel (.lineEnd true :: ts) = linesFrom? fuel ts := by
  cases fuel <;> rfl

theorem linesFrom?_field (fuel : Nat) (f : Field) (ts : List Token) :
    linesFrom? (fuel + 1) (f.lineTokens ++ ts) = (linesFrom? fuel ts).map (f.entry :: ·) := by
  have hvalue : valueWord (.word f.written.word :: .lineEnd true :: ts) =
      some (.word f.written.word, .lineEnd true :: ts) := by
    obtain ⟨spelling, text⟩ := f.written.word
    cases spelling with
    | bare =>
      change some (Item.word ⟨.bare, text ++ []⟩, _) = _
      rw [List.append_nil]
    | _ => rfl
  have hentry : entry? (f.lineTokens ++ ts) = some (f.entry, .lineEnd true :: ts) := by
    change (valueWord (.word f.written.word :: .lineEnd true :: ts)).map _ = _
    rw [hvalue]
    rfl
  have hskip : skipLines (f.lineTokens ++ ts) =
      .word ⟨.bare, f.key.toList⟩ :: (f.lineTokens ++ ts).tail := rfl
  have hkey : startsKey (.word ⟨.bare, f.key.toList⟩) = true := rfl
  have hcons : .word ⟨.bare, f.key.toList⟩ :: (f.lineTokens ++ ts).tail = f.lineTokens ++ ts := rfl
  rw [linesFrom?, hskip]
  dsimp only
  rw [if_pos hkey, hcons, hentry]
  rfl

theorem linesFrom?_section (fuel : Nat) (name : String) (ts : List Token) :
    linesFrom? (fuel + 1) (sectionTokens name ++ ts) =
      (linesFrom? fuel ts).map (.table [⟨.bare, name.toList⟩] :: ·) := rfl

theorem linesFrom?_fields (fuel : Nat) (fields : List Field) (ts : List Token) :
    linesFrom? (fields.length + fuel) (fields.flatMap Field.lineTokens ++ ts) =
      (linesFrom? fuel ts).map (fields.map Field.entry ++ ·) := by
  induction fields with
  | nil => simp
  | cons f fields ih =>
    rw [List.length_cons, Nat.add_right_comm, List.flatMap_cons, List.append_assoc,
      linesFrom?_field, ih, Option.map_map]
    rfl

theorem isSound_fields (fields : List Field) :
    (fields.flatMap Field.lineTokens).all Token.isSound = true := by
  rw [List.all_flatMap, List.all_eq_true]
  exact fun _ _ => rfl

theorem length_fields (fields : List Field) :
    (fields.flatMap Field.lineTokens).length = 6 * fields.length := by
  induction fields with
  | nil => rfl
  | cons f fields ih =>
    rw [List.flatMap_cons, List.length_append, ih, List.length_cons, Nat.mul_succ, Nat.add_comm]
    rfl

theorem lines?_fields (fields : List Field) :
    lines? (fieldsText fields) = some (fields.map Field.entry) := by
  have htokens := tokens_fieldsText fields []
  have hnil : tokens [] = [] := rfl
  rw [List.append_nil, hnil, List.append_nil] at htokens
  have hlines := linesFrom?_fields (5 * fields.length + 1) fields []
  rw [List.append_nil] at hlines
  have hfuel : 6 * fields.length + 1 = fields.length + (5 * fields.length + 1) := by omega
  rw [lines?, htokens]
  simp only [isSound_fields, if_true, length_fields]
  rw [hfuel, hlines]
  exact congrArg some (List.append_nil _)

/-- A document of fields, an empty line and a section of further fields. -/
def sectionsText (fields : List Field) (name : String) (inner : List Field) : List Char :=
  fieldsText fields ++ '\n' :: (sectionLine name ++ fieldsText inner)

theorem lines?_sections {name : String} (h : BareKey name) (fields inner : List Field) :
    lines? (sectionsText fields name inner) =
      some (fields.map Field.entry ++ .table [⟨.bare, name.toList⟩] :: inner.map Field.entry) := by
  have htokens : tokens (sectionsText fields name inner) =
      fields.flatMap Field.lineTokens ++
        .lineEnd true :: (sectionTokens name ++ inner.flatMap Field.lineTokens) := by
    have hinner := tokens_fieldsText inner []
    rw [List.append_nil] at hinner
    rw [sectionsText, tokens_fieldsText, tokens_feed, tokens_sectionLine h, hinner]
    exact congrArg (fun ts => _ ++ _ :: (_ ++ ts)) (List.append_nil _)
  have hsound : (sectionTokens name).all Token.isSound = true := rfl
  have hend : Token.isSound (.lineEnd true) = true := rfl
  have hlength : (sectionTokens name).length = 4 := rfl
  rw [lines?, htokens]
  simp only [List.all_append, List.all_cons, isSound_fields, hsound, hend, Bool.and_self, if_true,
    List.length_append, List.length_cons, length_fields, hlength]
  have hfuel : 6 * fields.length + (4 + 6 * inner.length + 1) + 1 =
      fields.length + (inner.length + (5 * fields.length + 5 * inner.length + 5) + 1) := by omega
  have hinner := linesFrom?_fields (5 * fields.length + 5 * inner.length + 5) inner []
  rw [List.append_nil] at hinner
  rw [hfuel, linesFrom?_fields, linesFrom?_feed, linesFrom?_section, hinner]
  simp [linesFrom?, skipLines]

/-! ## Tables -/

theorem lookup_of_not_mem {key : String} {members : Members} (h : key ∉ keys members) :
    members.lookup key = none := by
  rw [List.lookup_eq_none_iff]
  intro member hmember
  exact bne_iff_ne.mpr fun heq => h (heq ▸ List.mem_map_of_mem hmember)

theorem setMember_of_not_mem {key : String} {members : Members} (h : key ∉ keys members)
    (node : Node) : setMember key node members = members ++ [(key, node)] := by
  induction members with
  | nil => rfl
  | cons member rest ih =>
    obtain ⟨k, n⟩ := member
    have hne : k ≠ key := (List.ne_of_not_mem_cons h).symm
    rw [setMember, if_neg hne, ih (List.not_mem_of_not_mem_cons h)]
    rfl

def Field.member (f : Field) : String × Node := (f.key, .closed f.written.value)

theorem add_entry {d : Draft} {f : Field} (h : f.key ∉ keys d.entries) :
    d.add f.entry = .ok { d with entries := d.entries ++ [f.member] } := by
  have hvalue : (Item.word f.written.word).value = .ok f.written.value := by
    rw [Item.value, f.written.value_word]
    rfl
  have hdefine : defineAt [] f.key f.written.value .declared d.entries =
      some (d.entries ++ [f.member]) := by
    have hlookup := lookup_of_not_mem h
    rw [defineAt, changeAt, define, hlookup, setMember_of_not_mem h]
    rfl
  simp only [Draft.add, Field.entry, key?_bare f.bare, ok_bind, hvalue, hdefine, orMalformed]

theorem add_entries {d : Draft} {fields : List Field}
    (h : (keys d.entries ++ fields.map Field.key).Nodup) :
    (fields.map Field.entry).foldlM Draft.add d =
      .ok { d with entries := d.entries ++ fields.map Field.member } := by
  induction fields generalizing d with
  | nil => simp; rfl
  | cons f fields ih =>
    have hkey : f.key ∉ keys d.entries := by
      intro hmem
      exact (List.nodup_append.mp h).2.2 _ hmem _ List.mem_cons_self rfl
    rw [List.map_cons, List.foldlM_cons, add_entry hkey, ok_bind, ih]
    · simp
    · simpa [keys, Field.member] using h

theorem membersToTable_fields (fields : List Field) (members : Members) :
    membersToTable (fields.map Field.member ++ members) =
      fieldsTable fields ++ membersToTable members := by
  induction fields with
  | nil => rfl
  | cons f fields ih =>
    rw [List.map_cons, List.cons_append, Field.member, membersToTable, ih, Node.toValue]
    rfl

/-! ## Documents -/

theorem dropMark_of_head {t : List Char} (h : ∀ c ∈ t.head?, c.toNat ≠ 0xFEFF) :
    dropMark t = t := by
  cases t with
  | nil => rfl
  | cons c t => exact if_neg (h c rfl)

theorem head_fieldsText (fields : List Field) (rest : List Char)
    (hrest : ∀ c ∈ rest.head?, c.toNat ≠ 0xFEFF) :
    ∀ c ∈ (fieldsText fields ++ rest).head?, c.toNat ≠ 0xFEFF := by
  cases fields with
  | nil => exact hrest
  | cons f fields =>
    obtain ⟨hne, hkey⟩ := f.bare
    rw [fieldsText, List.flatMap_cons, Field.line, lineOf]
    cases hchars : f.key.toList with
    | nil => exact absurd hchars hne
    | cons c key =>
      intro d hd hmark
      obtain rfl : c = d := Option.some.inj hd
      have hc : isBare c = true := List.all_eq_true.mp hkey c (hchars ▸ List.mem_cons_self)
      exact ne_of_isBare hc (d := '\uFEFF') (by decide) (Char.toNat_inj.mp hmark)

/-- A document of fields has their values at their keys. -/
theorem parse_fields (fields : List Field) (h : (fields.map Field.key).Nodup) :
    parse (String.ofList (fieldsText fields)) = .ok (fieldsTable fields) := by
  have hmark : dropMark (fieldsText fields) = fieldsText fields := by
    have hhead := head_fieldsText fields [] nofun
    rw [List.append_nil] at hhead
    exact dropMark_of_head hhead
  have hadd : (fields.map Field.entry).foldlM Draft.add {} =
      .ok { entries := fields.map Field.member } := add_entries h
  have htable := membersToTable_fields fields []
  rw [List.append_nil, membersToTable, List.append_nil] at htable
  rw [parse, String.toList_ofList, hmark, lines?_fields]
  simp only [orMalformed, ok_bind, hadd, Draft.finish?, htable]

/-- A document of fields and a section has the section's table at its name. -/
theorem parse_sections {fields inner : List Field} {name : String} (hname : BareKey name)
    (hfields : (fields.map Field.key).Nodup) (hfresh : name ∉ fields.map Field.key)
    (hinner : (inner.map Field.key).Nodup) :
    parse (String.ofList (sectionsText fields name inner)) =
      .ok (fieldsTable fields ++ [(name, .table (fieldsTable inner))]) := by
  have hmark : dropMark (sectionsText fields name inner) = sectionsText fields name inner :=
    dropMark_of_head (head_fieldsText fields _ (by simp))
  have hkeys : keys (fields.map Field.member) = fields.map Field.key := by
    simp [keys, Field.member]
  have hadd : (fields.map Field.entry).foldlM Draft.add {} =
      .ok { entries := fields.map Field.member } := add_entries hfields
  have hlookup : List.lookup name (fields.map Field.member) = none :=
    lookup_of_not_mem (hkeys ▸ hfresh)
  have hopen : Draft.add { entries := fields.map Field.member } (.table [⟨.bare, name.toList⟩]) =
      .ok { finished := fields.map Field.member, header := some ⟨[], name, false⟩ } := by
    simp only [Draft.add, Draft.openSection, Draft.finish?, orMalformed, key?_bare hname, ok_bind,
      Header.start?, membersAt?, hlookup]
    rfl
  have hrest : (inner.map Field.entry).foldlM Draft.add
      { finished := fields.map Field.member, header := some ⟨[], name, false⟩ } =
        .ok { finished := fields.map Field.member, header := some ⟨[], name, false⟩
              entries := inner.map Field.member } := add_entries hinner
  have hclose := setMember_of_not_mem (hkeys ▸ hfresh) (.table .declared (inner.map Field.member))
  have htable := membersToTable_fields inner []
  rw [List.append_nil, membersToTable, List.append_nil] at htable
  rw [parse, String.toList_ofList, hmark, lines?_sections hname]
  simp only [orMalformed, ok_bind, List.foldlM_append, List.foldlM_cons, hadd, hopen, hrest,
    Draft.finish?, changeAt, close, Bool.false_eq_true, if_false, hclose, membersToTable_fields,
    membersToTable, Node.toValue, htable]

/-- The document of an integer has it at its key, whatever the integer. -/
theorem parse_integer (key : String) (hne : key.toList ≠ []) (hkey : key.toList.all isBare = true)
    (n : Int) : parse (key ++ " = " ++ toString n ++ "\n") = .ok [(key, .integer n)] := by
  have htext : key ++ " = " ++ toString n ++ "\n" =
      String.ofList (fieldsText [⟨key, ⟨hne, hkey⟩, .ofInteger n⟩]) := by
    apply String.toList_inj.mp
    simp only [String.toList_append, String.toList_ofList, fieldsText, Field.line, lineOf,
      List.flatMap_cons, List.flatMap_nil, List.append_assoc, List.append_nil]
    rfl
  rw [htext]
  exact parse_fields [⟨key, ⟨hne, hkey⟩, .ofInteger n⟩] (List.nodup_singleton key)

end TapSuite.Toml

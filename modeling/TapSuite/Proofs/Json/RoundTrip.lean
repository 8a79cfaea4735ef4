import TapSuite.Proofs.Json.Text

/-!
# Written values are read back

Both layouts write a value so that a reader gets it back, whatever it holds.

    parse? (compact v) = some v                                              (parse?_compact)
    parse? (pretty v)  = some v                                              (parse?_pretty)

The induction is on the value; the text behind it, the layout and the reader's fuel may be any, as
long as three units of fuel are left for each character that was written.
-/

namespace TapSuite.Json

/-! ## Blanks -/

/-- A text of blanks only. -/
def Blank (t : List Char) : Prop := t.all isSpace = true

theorem blank_newline (l : Layout) : Blank l.newline := by
  cases l with
  | none => rfl
  | some depth =>
    rw [Blank, Layout.newline, List.all_cons, List.all_replicate]
    cases 2 * depth <;> rfl

theorem skip_blank {b : List Char} (h : Blank b) (t : List Char) : skip (b ++ t) = skip t :=
  List.dropWhile_append_of_pos fun c hc => List.all_eq_true.mp h c hc

theorem skip_cons {c : Char} (h : isSpace c = false) (t : List Char) : skip (c :: t) = c :: t :=
  List.dropWhile_cons_of_neg (Bool.not_eq_true _ ▸ h)

theorem skip_skip (t : List Char) : skip (skip t) = skip t := by
  induction t with
  | nil => rfl
  | cons c t ih =>
    by_cases hc : isSpace c = true
    · have hdrop : skip (c :: t) = skip t := List.dropWhile_cons_of_pos hc
      rw [hdrop, ih]
    · have hkeep := skip_cons (eq_false_of_ne_true hc) t
      rw [hkeep, hkeep]

/-- Blanks in front of a value are passed over. -/
theorem readValue?_skip (fuel : Nat) (t : List Char) :
    readValue? fuel (skip t) = readValue? fuel t := by
  cases fuel with
  | zero => rfl
  | succ fuel => rw [readValue?, readValue?, skip_skip]

theorem readItems?_skip (fuel : Nat) (t : List Char) :
    readItems? fuel (skip t) = readItems? fuel t := by
  cases fuel with
  | zero => rfl
  | succ fuel => rw [readItems?, readItems?, readValue?_skip]

theorem readMember?_skip (fuel : Nat) (t : List Char) :
    readMember? fuel (skip t) = readMember? fuel t := by
  cases fuel with
  | zero => rfl
  | succ fuel => rw [readMember?, readMember?, skip_skip]

theorem readMembers?_skip (fuel : Nat) (t : List Char) :
    readMembers? fuel (skip t) = readMembers? fuel t := by
  cases fuel with
  | zero => rfl
  | succ fuel => rw [readMembers?, readMembers?, readMember?_skip]

/-- A comma, a blank or a bracket ends a number. -/
theorem endsNumber_cons {c : Char} (h : isSpace c = true ∨ c ∈ [',', ']', '\x7d'])
    (t : List Char) : EndsNumber (c :: t) := by
  have hall : ∀ d ∈ [' ', '\t', '\n', '\r', ',', ']', '\x7d'], EndsNumber (d :: t) := by
    simp only [List.forall_mem_cons, List.not_mem_nil, false_implies, implies_true, and_true]
    and_intros
    all_goals rfl
  refine hall c ?_
  simp only [isSpace, Bool.or_eq_true, decide_eq_true_eq, List.mem_cons, List.not_mem_nil,
    or_false, or_assoc] at h ⊢
  exact h

theorem endsNumber_blank {b : List Char} (h : Blank b) {c : Char} (hc : c ∈ [',', ']', '\x7d'])
    (t : List Char) : EndsNumber (b ++ c :: t) := by
  cases b with
  | nil => exact endsNumber_cons (.inr hc) t
  | cons d b =>
    rw [Blank, List.all_cons, Bool.and_eq_true] at h
    exact endsNumber_cons (.inl h.1) _

/-! ## Steps of the reader -/

section

variable {fuel : Nat} {t b rest : List Char} {v : Value} {vs : List Value} {k : String}
  {ms : List (String × Value)}

/-- What starts with a digit or a sign is read as a number. -/
theorem readValue?_number {c : Char} (hc : c.isDigit = true ∨ c = '-') :
    readValue? (fuel + 1) (c :: t) =
      (readNumber? (c :: t)).map fun (n, rest) => (.number n, rest) := by
  have hne {d : Char} (hdigit : d.isDigit = false) (hsign : d ≠ '-') : c ≠ d := by
    rintro rfl
    exact hc.elim (fun h => Bool.false_ne_true (hdigit.symm.trans h)) hsign
  have hspace : isSpace c = false := by
    simp only [isSpace, Bool.or_eq_false_iff, decide_eq_false_iff_not]
    exact ⟨⟨⟨hne rfl nofun, hne rfl nofun⟩, hne rfl nofun⟩, hne rfl nofun⟩
  rw [readValue?, skip_cons hspace]
  split
  · next heq => exact absurd (List.cons.inj heq).1 (hne rfl nofun)
  · next heq => exact absurd (List.cons.inj heq).1 (hne rfl nofun)
  · next heq => exact absurd (List.cons.inj heq).1 (hne rfl nofun)
  · next heq => exact absurd (List.cons.inj heq).1 (hne rfl nofun)
  · next heq => exact absurd (List.cons.inj heq).1 (hne rfl nofun)
  · next heq => exact absurd (List.cons.inj heq).1 (hne rfl nofun)
  · rfl

/-- No value starts with a closing bracket. -/
theorem readValue?_bracket (h : skip t = ']' :: rest) : readValue? fuel t = none := by
  cases fuel with
  | zero => rfl
  | succ fuel =>
    rw [readValue?, h]
    rfl

theorem readValue?_array (h : readItems? fuel t = some (vs, rest)) :
    readValue? (fuel + 1) ('[' :: t) = some (.array vs, rest) := by
  have hopen : skip ('[' :: t) = '[' :: t := rfl
  have hread : readItems? fuel (skip t) = some (vs, rest) := (readItems?_skip fuel t).trans h
  simp only [readValue?, hopen]
  split
  · next heq =>
    cases fuel with
    | zero => cases h
    | succ fuel =>
      rw [readItems?, readValue?_bracket heq] at h
      cases h
  · rw [hread]
    rfl

theorem readItems?_last (h : readValue? fuel t = some (v, b ++ ']' :: rest)) (hb : Blank b) :
    readItems? (fuel + 1) t = some ([v], rest) := by
  rw [readItems?, h]
  dsimp only
  rw [skip_blank hb]
  rfl

theorem readItems?_more (h : readValue? fuel t = some (v, ',' :: b))
    (k : readItems? fuel b = some (vs, rest)) :
    readItems? (fuel + 1) t = some (v :: vs, rest) := by
  have hcomma : skip (',' :: b) = ',' :: b := rfl
  rw [readItems?, h]
  dsimp only
  simp only [hcomma, k, Option.map_some]

theorem writeText_append (k : String) (t : List Char) :
    writeText k ++ t = '"' :: (k.toList.flatMap writeChar ++ '"' :: t) := by
  rw [writeText, List.cons_append, List.cons_append, List.append_assoc, List.singleton_append]

theorem skip_writeText (k : String) (t : List Char) :
    skip (writeText k ++ t) = writeText k ++ t := by
  rw [writeText_append]
  exact skip_cons rfl _

/-- A member is read with or without a blank after its colon. -/
theorem readMember?_colon (l : Layout) (h : readValue? fuel t = some (v, rest)) :
    readMember? (fuel + 1) (writeText k ++ (l.colon ++ t)) = some ((k, v), rest) := by
  have hcolon : ∃ b, l.colon ++ t = ':' :: (b ++ t) ∧ Blank b := by
    cases l with
    | none => exact ⟨[], rfl, rfl⟩
    | some depth => exact ⟨[' '], rfl, rfl⟩
  obtain ⟨b, hcolon, hb⟩ := hcolon
  have hopen : skip (':' :: (b ++ t)) = ':' :: (b ++ t) := rfl
  have hvalue : readValue? fuel (b ++ t) = some (v, rest) := by
    rw [← readValue?_skip, skip_blank hb, readValue?_skip, h]
  rw [readMember?, skip_writeText, writeText_append, hcolon]
  simp only [readText?_writeText, hopen, hvalue, Option.map_some]

theorem readValue?_object (h : readMembers? fuel (writeText k ++ t) = some (ms, rest))
    (hb : Blank b) :
    readValue? (fuel + 1) ('\x7b' :: (b ++ (writeText k ++ t))) = some (.object ms, rest) := by
  have hopen (t : List Char) : skip ('\x7b' :: t) = '\x7b' :: t := rfl
  rw [writeText_append] at h
  simp only [readValue?, hopen, skip_blank hb, skip_writeText]
  rw [writeText_append]
  exact congrArg (Option.map fun p => (Value.object p.1, p.2)) h

theorem readMembers?_last {m : String × Value}
    (h : readMember? fuel t = some (m, b ++ '\x7d' :: rest)) (hb : Blank b) :
    readMembers? (fuel + 1) t = some ([m], rest) := by
  rw [readMembers?, h]
  dsimp only
  rw [skip_blank hb]
  rfl

theorem readMembers?_more {m : String × Value} (h : readMember? fuel t = some (m, ',' :: b))
    (k : readMembers? fuel b = some (ms, rest)) :
    readMembers? (fuel + 1) t = some (m :: ms, rest) := by
  have hcomma : skip (',' :: b) = ',' :: b := rfl
  rw [readMembers?, h]
  dsimp only
  simp only [hcomma, k, Option.map_some]

end

/-- The items of an array with commas between them. -/
def itemsText (l : Layout) : List Value → List Char
  | [] => []
  | v :: rest => write l v ++ writeItems l rest

/-- The members of an object with commas between them. -/
def membersText (l : Layout) : List (String × Value) → List Char
  | [] => []
  | (k, v) :: rest => writeText k ++ l.colon ++ write l v ++ writeMembers l rest

theorem write_array (l : Layout) (v : Value) (vs : List Value) (rest : List Char) :
    write l (.array (v :: vs)) ++ rest =
      '[' :: (l.deeper.newline ++
        (itemsText l.deeper (v :: vs) ++ (l.newline ++ ']' :: rest))) := by
  simp only [write, itemsText, List.cons_append, List.append_assoc, List.nil_append]

theorem deeper_colon (l : Layout) : l.deeper.colon = l.colon := by
  cases l <;> rfl

theorem write_object (l : Layout) (k : String) (v : Value) (ms : List (String × Value))
    (rest : List Char) :
    write l (.object ((k, v) :: ms)) ++ rest =
      '\x7b' :: (l.deeper.newline ++
        (membersText l.deeper ((k, v) :: ms) ++ (l.newline ++ '\x7d' :: rest))) := by
  simp only [write, membersText, deeper_colon, List.cons_append, List.append_assoc,
    List.nil_append]

theorem writeItems_cons (l : Layout) (v : Value) (vs : List Value) :
    writeItems l (v :: vs) = ',' :: (l.newline ++ itemsText l (v :: vs)) := by
  simp only [writeItems, itemsText, List.cons_append, List.append_assoc]

theorem writeMembers_cons (l : Layout) (k : String) (v : Value) (ms : List (String × Value)) :
    writeMembers l ((k, v) :: ms) = ',' :: (l.newline ++ membersText l ((k, v) :: ms)) := by
  simp only [writeMembers, membersText, List.cons_append, List.append_assoc]

/-- Something is written for each value. -/
theorem length_write_pos (l : Layout) (v : Value) : 0 < (write l v).length := by
  cases v with
  | null => exact Nat.succ_pos _
  | boolean b => cases b <;> exact Nat.succ_pos _
  | number n =>
    obtain ⟨c, t, hdigits, -⟩ := exists_toString n
    rw [write, hdigits]
    exact Nat.succ_pos _
  | text s => exact Nat.succ_pos _
  | array vs => cases vs <;> exact Nat.succ_pos _
  | object ms => cases ms <;> exact Nat.succ_pos _

mutual

/-- A written value is read back, whatever follows it. -/
theorem readValue?_write : ∀ (v : Value) (l : Layout) (fuel : Nat) (rest : List Char),
    3 * (write l v).length ≤ fuel → EndsNumber rest →
      readValue? fuel (write l v ++ rest) = some (v, rest)
  | v, l, 0, rest, hfuel, _ => absurd (length_write_pos l v) (by omega)
  | .null, l, fuel + 1, rest, _, _ => rfl
  | .boolean true, l, fuel + 1, rest, _, _ => rfl
  | .boolean false, l, fuel + 1, rest, _, _ => rfl
  | .number n, l, fuel + 1, rest, hfuel, hrest => by
    obtain ⟨c, t, hdigits, hc⟩ := exists_toString n
    rw [write, hdigits, List.cons_append, readValue?_number hc, ← List.cons_append, ← hdigits,
      readNumber?_toString n hrest]
    rfl
  | .text s, l, fuel + 1, rest, _, _ => by
    have hopen (t : List Char) : skip ('"' :: t) = '"' :: t := rfl
    rw [write, writeText_append]
    simp only [readValue?, hopen, readText?_writeText, Option.map_some]
  | .array [], l, fuel + 1, rest, _, _ => rfl
  | .array (v :: vs), l, fuel + 1, rest, hfuel, _ => by
    have hlength := congrArg List.length (write_array l v vs [])
    simp only [List.append_nil, List.length_cons, List.length_append] at hlength
    have hitems := readItems?_write (v :: vs) nofun l.deeper fuel l.newline rest
      (blank_newline l) (by omega)
    rw [write_array]
    apply readValue?_array
    rw [← readItems?_skip, skip_blank (blank_newline l.deeper), readItems?_skip, hitems]
  | .object [], l, fuel + 1, rest, _, _ => rfl
  | .object ((k, v) :: ms), l, fuel + 1, rest, hfuel, _ => by
    have hlength := congrArg List.length (write_object l k v ms [])
    simp only [List.append_nil, List.length_cons, List.length_append] at hlength
    have hmembers := readMembers?_write ((k, v) :: ms) nofun l.deeper fuel l.newline rest
      (blank_newline l) (by omega)
    rw [write_object]
    simp only [membersText, List.append_assoc] at hmembers ⊢
    exact readValue?_object hmembers (blank_newline l.deeper)

/-- The items of an array are read back, with any blank before the bracket. -/
theorem readItems?_write : ∀ (vs : List Value), vs ≠ [] → ∀ (l : Layout) (fuel : Nat)
    (b rest : List Char), Blank b → 3 * (itemsText l vs).length + 1 ≤ fuel →
      readItems? fuel (itemsText l vs ++ (b ++ ']' :: rest)) = some (vs, rest)
  | [], h, _, _, _, _, _, _ => absurd rfl h
  | v :: vs, _, l, 0, b, rest, hb, hfuel => by omega
  | [v], _, l, fuel + 1, b, rest, hb, hfuel => by
    simp only [itemsText, writeItems, List.append_nil] at hfuel ⊢
    have hvalue := readValue?_write v l fuel (b ++ ']' :: rest) (by omega)
      (endsNumber_blank hb (by decide) rest)
    exact readItems?_last hvalue hb
  | v :: w :: vs, _, l, fuel + 1, b, rest, hb, hfuel => by
    rw [itemsText, writeItems_cons] at hfuel ⊢
    simp only [List.length_append, List.length_cons] at hfuel
    have hvalue := readValue?_write v l fuel
      (',' :: (l.newline ++ (itemsText l (w :: vs) ++ (b ++ ']' :: rest)))) (by omega)
      (endsNumber_cons (.inr (by decide)) _)
    have hitems := readItems?_write (w :: vs) nofun l fuel b rest hb (by omega)
    simp only [List.append_assoc, List.cons_append]
    apply readItems?_more hvalue
    rw [← readItems?_skip, skip_blank (blank_newline l), readItems?_skip, hitems]

/-- The members of an object are read back, with any blank before the brace. -/
theorem readMembers?_write : ∀ (ms : List (String × Value)), ms ≠ [] → ∀ (l : Layout) (fuel : Nat)
    (b rest : List Char), Blank b → 3 * (membersText l ms).length + 1 ≤ fuel →
      readMembers? fuel (membersText l ms ++ (b ++ '\x7d' :: rest)) = some (ms, rest)
  | [], h, _, _, _, _, _, _ => absurd rfl h
  | (k, v) :: ms, _, l, 0, b, rest, hb, hfuel => by omega
  | (k, v) :: ms, _, l, 1, b, rest, hb, hfuel => by
    have hlength : 0 < (membersText l ((k, v) :: ms)).length := Nat.succ_pos _
    omega
  | [(k, v)], _, l, fuel + 2, b, rest, hb, hfuel => by
    have hname : 0 < (writeText k).length := Nat.succ_pos _
    simp only [membersText, writeMembers, List.append_nil, List.length_append] at hfuel
    have hvalue := readValue?_write v l fuel (b ++ '\x7d' :: rest) (by omega)
      (endsNumber_blank hb (by decide) rest)
    have hmember := readMember?_colon (k := k) l hvalue
    simp only [membersText, writeMembers, List.append_nil, List.append_assoc]
    exact readMembers?_last hmember hb
  | (k, v) :: (k', w) :: ms, _, l, fuel + 2, b, rest, hb, hfuel => by
    rw [membersText, writeMembers_cons] at hfuel ⊢
    simp only [List.length_append, List.length_cons] at hfuel
    have hvalue := readValue?_write v l fuel
      (',' :: (l.newline ++ (membersText l ((k', w) :: ms) ++ (b ++ '\x7d' :: rest)))) (by omega)
      (endsNumber_cons (.inr (by decide)) _)
    have hmember := readMember?_colon (k := k) l hvalue
    have hmembers := readMembers?_write ((k', w) :: ms) nofun l (fuel + 1) b rest hb (by omega)
    simp only [List.append_assoc, List.cons_append]
    apply readMembers?_more hmember
    rw [← readMembers?_skip, skip_blank (blank_newline l), readMembers?_skip, hmembers]

end

/-! ## Documents -/

theorem parse?_write (v : Value) (l : Layout) :
    parse? (String.ofList (write l v)) = some v := by
  have hread := readValue?_write v l (3 * (write l v).length + 3) [] (Nat.le_add_right _ 3)
    ⟨rfl, rfl⟩
  rw [List.append_nil] at hread
  simp only [parse?, String.toList_ofList, hread]
  rfl

/-- The text of a value without spaces is read back. -/
theorem parse?_compact (v : Value) : parse? (compact v) = some v := parse?_write v none

/-- The text of a value over several lines is read back. -/
theorem parse?_pretty (v : Value) : parse? (pretty v) = some v := parse?_write v (some 0)

end TapSuite.Json

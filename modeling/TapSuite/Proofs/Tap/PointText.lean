import TapSuite.Proofs.Tap.Escape
import TapSuite.Proofs.Text.Digits

/-!
# Point lines read back

The printed fields of a point are found again by the reader of point lines, and what that reader
makes of a description has no blanks at its ends.

    read? (trimEnd p.text) depth = p at that depth                        (read?_text)
    read? line depth = some p → p.description is trimmed, on one line     (canonicalText_of_read?)
-/

namespace TapSuite.Tap

open Text

/-! ## Numbers -/

theorem not_isBlank_of_isDigit {c : Char} (h : c.isDigit = true) : isBlank c = false := by
  simp only [Char.isDigit, Bool.and_eq_true, decide_eq_true_eq, UInt32.le_iff_toNat_le] at h
  have h1 : 48 ≤ c.toNat := h.1
  have h2 : c.toNat ≤ 57 := h.2
  simp only [isBlank, Bool.or_eq_false_iff, Bool.and_eq_false_iff, decide_eq_false_iff_not,
    beq_eq_false_iff_ne]
  omega

theorem isDigit_of_mem_digitsOf {n : Nat} {c : Char} (h : c ∈ digitsOf n) : c.isDigit = true := by
  rw [digitsOf, toList_toString] at h
  exact isDigit_of_mem_toDigits h

/-- A written number is read back, up to the greatest one. -/
theorem number?_digitsOf (n : UInt64) : number? (digitsOf n.toNat) = some n := by
  have hlt : n.toNat < UInt64.size := n.toNat_lt
  unfold number?
  rw [digitsOf, toList_toString, foldl_toDigits, if_neg, UInt64.ofNat_toNat]
  rintro (h | h)
  · exact Nat.toDigits_ne_nil (List.isEmpty_iff.mp h)
  · omega

theorem takeWhile_digitsOf (n : Nat) {t : List Char} (ht : t.head?.all (!·.isDigit)) :
    (digitsOf n ++ t).takeWhile Char.isDigit = digitsOf n ∧
      (digitsOf n ++ t).dropWhile Char.isDigit = t := by
  rw [digitsOf, toList_toString]
  exact takeWhile_toDigits n ht

/-! ## Points -/

/-- The number ends before the dash. -/
theorem pointOf_fields (ok : Bool) (n : Option UInt64) (body : List Char) (depth : Nat) :
    pointOf ok (numberField n ++ ' ' :: '-' :: body) depth =
      { ok
        number := n
        description := String.ofList (unescapeHash (trim (cutComment false body).1))
        directive := (cutComment false body).2.bind directive?
        depth } := by
  cases n with
  | none => rfl
  | some n =>
    have hstart : trimStart (numberField (some n) ++ ' ' :: '-' :: body) =
        digitsOf n.toNat ++ ' ' :: '-' :: body := by
      rw [numberField, List.cons_append, trimStart_cons, if_pos (by decide), trimStart_of_first]
      intro c hc
      rw [List.head?_append] at hc
      cases hd : (digitsOf n.toNat).head? with
      | none =>
        have hnil : digitsOf n.toNat = [] := List.head?_eq_none_iff.mp hd
        have hread := number?_digitsOf n
        rw [hnil] at hread
        cases hread
      | some d =>
        rw [hd] at hc
        obtain rfl : d = c := by simpa using hc
        exact not_isBlank_of_isDigit (isDigit_of_mem_digitsOf (List.mem_of_head? hd))
    obtain ⟨htake, hdrop⟩ := takeWhile_digitsOf n.toNat (t := ' ' :: '-' :: body) rfl
    unfold pointOf
    simp only [hstart, htake, hdrop, number?_digitsOf]
    rfl

theorem verdict?_verdictWord (ok : Bool) (t : List Char) :
    verdict? (verdictWord ok ++ t) = some (ok, t) := by
  cases ok <;> rfl

/-- The printed fields of a point are read back. -/
theorem read?_text {p : TestPoint} (h : Trimmed p.description.toList) (depth : Nat) :
    TestPoint.read? (trimEnd p.text) depth = some { p with depth } := by
  have htext : trimEnd p.text = verdictWord p.ok ++ (numberField p.number ++ ' ' :: '-' ::
      trimEnd (' ' :: (escapeHash p.description.toList ++ directiveField p.directive))) := by
    have hsplit : p.text = (verdictWord p.ok ++ numberField p.number ++ [' ']) ++
        '-' :: ' ' :: (escapeHash p.description.toList ++ directiveField p.directive) := by
      simp [TestPoint.text]
    rw [hsplit, trimEnd_append_cons (by decide)]
    simp
  obtain ⟨hdescription, hdirective⟩ := cutComment_body h p.directive
  have hblank : (numberField p.number ++ ' ' :: '-' ::
      trimEnd (' ' :: (escapeHash p.description.toList ++ directiveField p.directive))).head?.all
        isBlank := by
    cases p.number <;> rfl
  rw [htext, TestPoint.read?, verdict?_verdictWord]
  simp only [if_pos hblank]
  rw [pointOf_fields, hdescription, hdirective, unescapeHash_escapeHash, String.ofList_toList]

/-! ## What can be read -/

theorem canonicalText_iff (t : List Char) : CanonicalText t ↔ Trimmed t ∧ '\n' ∉ t := by
  rw [CanonicalText, trim_eq_self_iff]

theorem mem_of_verdict? {line fields : List Char} {ok : Bool} (h : verdict? line = some (ok, fields))
    {c : Char} (hc : c ∈ fields) : c ∈ line := by
  unfold verdict? at h
  split at h <;> simp_all

theorem mem_of_mem_dropDash {c : Char} {t : List Char} (h : c ∈ dropDash t) : c ∈ t := by
  unfold dropDash at h
  split at h
  · exact List.mem_cons_of_mem _ h
  · exact h

/-- A description that is read has no blanks at its ends and no line feed. -/
theorem canonicalText_of_read? {line : List Char} {depth : Nat} {p : TestPoint}
    (h : TestPoint.read? line depth = some p) (hline : '\n' ∉ line) :
    CanonicalText p.description.toList := by
  unfold TestPoint.read? at h
  split at h
  · cases h
  · next ok fields hverdict =>
    split at h
    · cases h
      rw [canonicalText_iff, pointOf, String.toList_ofList]
      refine ⟨trimmed_unescapeHash (trimmed_trim _), fun hm => hline ?_⟩
      -- each reader of a field passes on characters of the line
      have h1 := mem_of_mem_trim (mem_of_mem_unescapeHash hm)
      have h2 := mem_of_mem_dropDash (mem_of_mem_cutComment false h1)
      have h3 := (List.dropWhile_sublist _).mem h2
      have h4 := (List.dropWhile_sublist _).mem h3
      exact mem_of_verdict? hverdict ((List.dropWhile_sublist _).mem h4)
    · cases h

theorem depth_of_read? {line : List Char} {depth : Nat} {p : TestPoint}
    (h : TestPoint.read? line depth = some p) : p.depth = depth := by
  unfold TestPoint.read? at h
  split at h
  · cases h
  · split at h
    · cases h
      rfl
    · cases h

end TapSuite.Tap

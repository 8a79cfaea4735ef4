import TapSuite.Proofs.Text.Offset
import TapSuite.Tap.Offset

/-!
# Comments found by bytes

The comment of a text follows its first *bare* `#`, one that no backslash precedes.  Looking at
bytes finds it, and so does reading the characters one by one.

    commentOffset? t = some found → found is the width of what precedes it   (commentOffset?_finds)
    cutComment false t = (before, some after) → CommentAt t before after     (commentAt_cutComment)
-/

namespace TapSuite.Tap

open Text

/-! ## Bare hashes -/

/-- Whether a bare `#` stands at an offset of a text. -/
def BareAt (t : List Char) (n : Nat) : Prop :=
  ∃ before after, t = before ++ '#' :: after ∧ before.getLast? ≠ some '\\' ∧ width before = n

/-- Whether a text is parted by its first bare `#`. -/
structure CommentAt (t before after : List Char) : Prop where
  split : t = before ++ '#' :: after
  bare : before.getLast? ≠ some '\\'
  first : ∀ a b, before = a ++ '#' :: b → a.getLast? = some '\\'

/-- Whether a text has no bare `#`. -/
def NoComment (t : List Char) : Prop :=
  ∀ before after, t = before ++ '#' :: after → before.getLast? = some '\\'

/-- What a search for the comment of a text has to find. -/
structure FindsComment (t : List Char) (found : Option Nat) : Prop where
  some_iff : ∀ n, found = some n ↔ ∃ before after, CommentAt t before after ∧ width before = n
  none_iff : found = none ↔ NoComment t

theorem width_lt_of_hash (a b : List Char) : width a < width (a ++ '#' :: b) := by
  have hpos := Char.utf8Size_pos '#'
  rw [width_append, width_cons]
  omega

theorem BareAt.lt {t : List Char} {n : Nat} (h : BareAt t n) : n < (Utf8.encode t).length := by
  obtain ⟨before, after, rfl, -, rfl⟩ := h
  rw [length_encode]
  exact width_lt_of_hash before after

/-- The comment of a text starts where a bare `#` stands and none stands before. -/
theorem commentAt_iff {t : List Char} {n : Nat} :
    (∃ before after, CommentAt t before after ∧ width before = n) ↔
      BareAt t n ∧ ∀ m < n, ¬ BareAt t m := by
  constructor
  · rintro ⟨before, after, ⟨hsplit, hbare, hfirst⟩, rfl⟩
    refine ⟨⟨before, after, hsplit, hbare, rfl⟩, ?_⟩
    rintro _ hlt ⟨a, b, ha, hlast, rfl⟩
    rw [hsplit] at ha
    rcases List.append_eq_append_iff.mp ha with ⟨rest, rfl, -⟩ | ⟨rest, rfl, hrest⟩
    · rw [width_append] at hlt
      omega
    · cases rest with
      | nil => simp at hlt
      | cons c rest =>
        -- the other one stands in what precedes the first
        obtain ⟨rfl, -⟩ := List.cons_eq_cons.mp hrest
        exact hlast (hfirst a rest rfl)
  · rintro ⟨⟨before, after, hsplit, hbare, rfl⟩, hnone⟩
    refine ⟨before, after, ⟨hsplit, hbare, fun a b hbefore => ?_⟩, rfl⟩
    apply Decidable.byContradiction
    intro hlast
    have hlt : width a < width before := hbefore ▸ width_lt_of_hash a b
    refine hnone _ hlt ⟨a, b ++ '#' :: after, ?_, hlast, rfl⟩
    rw [hsplit, hbefore, List.append_assoc, List.cons_append]

theorem noComment_iff {t : List Char} : NoComment t ↔ ∀ n, ¬ BareAt t n := by
  constructor
  · rintro h n ⟨before, after, hsplit, hbare, -⟩
    exact hbare (h before after hsplit)
  · intro h before after hsplit
    apply Decidable.byContradiction
    intro hbare
    exact h _ ⟨before, after, hsplit, hbare, rfl⟩

/-- A text can be cut before the `#` of its comment. -/
theorem CommentAt.cutAt?_hash {t before after : List Char} (h : CommentAt t before after) :
    cutAt? (width before) t = some (before, '#' :: after) := by
  rw [h.split, cutAt?_width]

/-- A text can be cut behind the `#` of its comment. -/
theorem CommentAt.cutAt?_comment {t before after : List Char} (h : CommentAt t before after) :
    cutAt? (width before + 1) t = some (before ++ ['#'], after) := by
  have hsplit : t = (before ++ ['#']) ++ after := by
    rw [h.split, List.append_assoc, List.singleton_append]
  rw [hsplit, ← width_concat (c := '#') rfl before, cutAt?_width]

/-! ## Looking at bytes -/

/-- The byte before the end of a piece is a backslash exactly if its last character is one. -/
theorem getElem?_last_iff {a : List Char} (ha : a ≠ []) (b : List Char) :
    (Utf8.encode (a ++ b))[width a - 1]? = some 0x5C ↔ a.getLast? = some '\\' := by
  have hbyte : (0x5C : UInt8) = .ofNat '\\'.toNat := rfl
  have hpos := width_pos ha
  have hslash : ∀ s, width (s ++ ['\\']) = width s + 1 := width_concat rfl
  rw [hbyte, getElem?_encode_eq_iff (by decide)]
  constructor
  · rintro ⟨s, u, heq, hwidth⟩
    have hsplit : a ++ b = (s ++ ['\\']) ++ u := by
      rw [heq, List.append_assoc, List.singleton_append]
    obtain ⟨rfl, -⟩ := append_inj_of_width hsplit (by rw [hslash]; omega)
    exact List.getLast?_concat
  · intro hlast
    obtain ⟨s, rfl⟩ := List.getLast?_eq_some_iff.mp hlast
    refine ⟨s, b, ?_, ?_⟩
    · rw [List.append_assoc, List.singleton_append]
    · rw [hslash]
      omega

/-- A text is parted at an offset in one way only. -/
theorem bareAt_width_iff (before after : List Char) :
    BareAt (before ++ '#' :: after) (width before) ↔ before.getLast? ≠ some '\\' := by
  constructor
  · rintro ⟨a, b, heq, ha, hwidth⟩
    obtain ⟨rfl, -⟩ := append_inj_of_width heq hwidth.symm
    exact ha
  · intro h
    exact ⟨before, after, rfl, h, rfl⟩

/-- Looking at the byte at an offset, and at the one before, tells whether a bare `#` stands
there. -/
theorem startsComment?_encode {t : List Char} {n : Nat} (hn : n < (Utf8.encode t).length) :
    ∃ starts, startsComment? (Utf8.encode t) n = some starts ∧ (starts = true ↔ BareAt t n) := by
  have hhash : (Utf8.encode t)[n]? = some 0x23 ↔
      ∃ before after, t = before ++ '#' :: after ∧ width before = n :=
    getElem?_encode_eq_iff (x := '#') (by decide)
  rw [List.getElem?_eq_getElem hn] at hhash
  by_cases hb : (Utf8.encode t)[n] = 0x23
  · obtain ⟨before, after, rfl, rfl⟩ := hhash.mp (congrArg some hb)
    rw [bareAt_width_iff, startsComment?, List.getElem?_eq_getElem hn, hb]
    by_cases hnil : before = []
    · subst hnil
      exact ⟨true, rfl, by simp⟩
    · have hpos := width_pos hnil
      have hlast := getElem?_last_iff hnil ('#' :: after)
      rw [List.getElem?_eq_getElem (by omega), Option.some.injEq] at hlast
      rw [List.getElem?_eq_getElem (by omega)]
      refine ⟨_, if_neg (Nat.ne_of_gt hpos), ?_⟩
      rw [decide_eq_true_iff]
      exact not_congr hlast
  · rw [startsComment?, List.getElem?_eq_getElem hn]
    refine ⟨false, if_pos hb, nofun, ?_⟩
    rintro ⟨before, after, hsplit, -, hwidth⟩
    exact absurd (Option.some.inj (hhash.mpr ⟨before, after, hsplit, hwidth⟩)) hb

/-! ## The search -/

theorem findM?_of_isSome {p : Nat → Option Bool} {l : List Nat} (h : ∀ n ∈ l, (p n).isSome) :
    l.findM? p = some (l.find? fun n => (p n).getD false) := by
  induction l with
  | nil => rfl
  | cons n l ih =>
    obtain ⟨hn, hl⟩ := List.forall_mem_cons.mp h
    obtain ⟨b, hb⟩ := Option.isSome_iff_exists.mp hn
    rw [List.findM?, List.find?_cons, hb, ih hl]
    cases b <;> rfl

/-- The search through the bytes looks at none beyond the end, and it finds the comment. -/
theorem commentOffset?_finds (t : List Char) :
    ∃ found, commentOffset? t = some found ∧ FindsComment t found := by
  have hsees : ∀ n < (Utf8.encode t).length,
      ((startsComment? (Utf8.encode t) n).getD false = true ↔ BareAt t n) := by
    intro n hn
    obtain ⟨starts, hstart, hiff⟩ := startsComment?_encode hn
    rw [hstart]
    exact hiff
  have hnot : ∀ n < (Utf8.encode t).length,
      ((startsComment? (Utf8.encode t) n).getD false = false ↔ ¬ BareAt t n) := by
    intro n hn
    rw [← hsees n hn, Bool.not_eq_true]
  refine ⟨_, findM?_of_isSome fun n hn => ?_, fun n => ?_, ?_⟩
  · obtain ⟨starts, hstart, -⟩ := startsComment?_encode (List.mem_range.mp hn)
    rw [hstart]
    rfl
  · rw [commentAt_iff]
    simp only [List.find?_range_eq_some, List.mem_range, Bool.not_eq_true']
    constructor
    · rintro ⟨hn, hlt, hearlier⟩
      exact ⟨(hsees n hlt).mp hn, fun m hm => (hnot m (by omega)).mp (hearlier m hm)⟩
    · rintro ⟨hbare, hearlier⟩
      have hlt := hbare.lt
      exact ⟨(hsees n hlt).mpr hbare, hlt, fun m hm => (hnot m (by omega)).mpr (hearlier m hm)⟩
  · rw [noComment_iff]
    simp only [List.find?_range_eq_none, Bool.not_eq_true']
    constructor
    · intro hnone n hbare
      exact (hnot n hbare.lt).mp (hnone n hbare.lt) hbare
    · intro hnone n hn
      exact (hnot n hn).mpr (hnone n)

/-! ## Reading characters -/

/-- Reading goes on after some text: what it passes over holds no bare `#`, and it stops at one. -/
theorem cutComment_spec (read : List Char) {t before : List Char} {after : Option (List Char)}
    (h : cutComment (read.getLast? = some '\\') t = (before, after)) :
    t = before ++ after.elim [] ('#' :: ·) ∧
      (after.isSome = true → (read ++ before).getLast? ≠ some '\\') ∧
      ∀ a b, before = a ++ '#' :: b → (read ++ a).getLast? = some '\\' := by
  induction t generalizing read before with
  | nil =>
    cases h
    exact ⟨rfl, nofun, fun a b hab => by simp at hab⟩
  | cons c t ih =>
    rw [cutComment] at h
    split at h
    · next hc =>
      obtain ⟨rfl, hread⟩ := hc
      cases h
      refine ⟨rfl, fun _ => ?_, fun a b hab => by simp at hab⟩
      rw [List.append_nil]
      exact of_decide_eq_false hread
    · next hc =>
      -- the character joins what has been read
      have hnext : decide (c = '\\') = decide ((read ++ [c]).getLast? = some '\\') := by
        rw [decide_eq_decide, List.getLast?_concat, Option.some.injEq]
      rw [hnext] at h
      cases hcut : cutComment (decide ((read ++ [c]).getLast? = some '\\')) t with
      | mk rest after' =>
        rw [hcut] at h
        cases h
        obtain ⟨hsplit, hbare, hfirst⟩ := ih (read ++ [c]) hcut
        rw [List.append_assoc, List.singleton_append] at hbare
        refine ⟨congrArg (c :: ·) hsplit, hbare, fun a b hab => ?_⟩
        cases a with
        | nil =>
          obtain ⟨rfl, -⟩ := List.cons_eq_cons.mp hab
          rw [List.append_nil]
          apply Decidable.byContradiction
          intro hread
          exact hc ⟨rfl, decide_eq_false hread⟩
        | cons d a =>
          obtain ⟨rfl, htail⟩ := List.cons_eq_cons.mp hab
          have hlast := hfirst a b htail
          rwa [List.append_assoc, List.singleton_append] at hlast

theorem commentAt_cutComment {t before after : List Char}
    (h : cutComment false t = (before, some after)) : CommentAt t before after := by
  obtain ⟨hsplit, hbare, hfirst⟩ := cutComment_spec [] h
  exact ⟨hsplit, hbare rfl, hfirst⟩

/-- The first bare `#` is the only one with none before it. -/
theorem CommentAt.unique {t a b a' b' : List Char} (h : CommentAt t a b) (k : CommentAt t a' b') :
    a = a' ∧ b = b' := by
  obtain ⟨hbare, hnone⟩ := commentAt_iff.mp ⟨a, b, h, rfl⟩
  obtain ⟨hbare', hnone'⟩ := commentAt_iff.mp ⟨a', b', k, rfl⟩
  have hwidth : width a = width a' := by
    rcases Nat.lt_trichotomy (width a) (width a') with hlt | heq | hlt
    · exact absurd hbare (hnone' _ hlt)
    · exact heq
    · exact absurd hbare' (hnone _ hlt)
  obtain ⟨rfl, hafter⟩ := append_inj_of_width (h.split.symm.trans k.split) hwidth
  exact ⟨rfl, (List.cons_eq_cons.mp hafter).2⟩

theorem noComment_cutComment {t before : List Char} (h : cutComment false t = (before, none)) :
    before = t ∧ NoComment t := by
  obtain ⟨hsplit, -, hfirst⟩ := cutComment_spec [] h
  obtain rfl : t = before := by rw [hsplit]; exact List.append_nil _
  exact ⟨rfl, hfirst⟩

/-- Reading characters cuts a text at its comment. -/
theorem cutComment_eq_iff {t before after : List Char} :
    cutComment false t = (before, some after) ↔ CommentAt t before after := by
  refine ⟨commentAt_cutComment, fun h => ?_⟩
  cases hcut : cutComment false t with
  | mk before' after' =>
    cases after' with
    | none => exact absurd ((noComment_cutComment hcut).2 before after h.split) h.bare
    | some after' =>
      obtain ⟨rfl, rfl⟩ := h.unique (commentAt_cutComment hcut)
      rfl

/-! ## Comments of a part -/

/-- A `#` stands behind a piece of text that holds none. -/
theorem append_eq_hash_iff {passed t a b : List Char} (h : '#' ∉ passed) :
    passed ++ t = a ++ '#' :: b ↔ ∃ rest, a = passed ++ rest ∧ t = rest ++ '#' :: b := by
  constructor
  · intro heq
    rcases List.append_eq_append_iff.mp heq with ⟨rest, ha, ht⟩ | ⟨rest, hpassed, hrest⟩
    · exact ⟨rest, ha, ht⟩
    · cases rest with
      | nil =>
        rw [List.append_nil] at hpassed
        exact ⟨[], by rw [hpassed, List.append_nil], hrest.symm⟩
      | cons c rest =>
        obtain ⟨rfl, -⟩ := List.cons_eq_cons.mp hrest
        exact absurd (hpassed ▸ List.mem_append_right _ List.mem_cons_self) h
  · rintro ⟨rest, rfl, rfl⟩
    rw [List.append_assoc]

/-- Text without `#` and backslashes before a text does not change what its comment is. -/
theorem commentAt_append_iff {passed t after : List Char} (hhash : '#' ∉ passed)
    (hslash : '\\' ∉ passed) :
    (∃ before, CommentAt (passed ++ t) before after) ↔ ∃ before, CommentAt t before after := by
  have hlast : ∀ a, (passed ++ a).getLast? = some '\\' ↔ a.getLast? = some '\\' := by
    intro a
    rw [List.getLast?_append]
    cases a.getLast? with
    | some c => rfl
    | none =>
      refine ⟨fun h => absurd (List.mem_of_getLast? ?_) hslash, nofun⟩
      exact h
  constructor
  · rintro ⟨before, hsplit, hbare, hfirst⟩
    obtain ⟨rest, rfl, ht⟩ := (append_eq_hash_iff hhash).mp hsplit
    refine ⟨rest, ht, mt (hlast rest).mpr hbare, fun a b hab => (hlast a).mp ?_⟩
    exact hfirst (passed ++ a) b (by rw [hab, List.append_assoc])
  · rintro ⟨before, hsplit, hbare, hfirst⟩
    refine ⟨passed ++ before, ?_, mt (hlast before).mp hbare, fun a b hab => ?_⟩
    · rw [hsplit, List.append_assoc]
    · obtain ⟨rest, rfl, hbefore⟩ := (append_eq_hash_iff hhash).mp hab
      exact (hlast rest).mpr (hfirst rest b hbefore)

end TapSuite.Tap

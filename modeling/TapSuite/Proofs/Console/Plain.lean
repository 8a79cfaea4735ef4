import TapSuite.Console.Lines
import TapSuite.Console.Plain
import TapSuite.Proofs.Text.Lacks

/-!
# Styles taken out again

When the escapes are taken out of a painted text, the text itself is left, whatever stands before
and after it.

    Fades (style.paint true s) (style.paint false s)        if s holds no escape       (Fades.paint)
    Fades s t → Fades s' t' → Fades (s ++ s') (t ++ t')                               (Fades.append)

So what is printed in colours fades to what is printed without them, part by part and line by line.
-/

namespace TapSuite

/-! ## Escapes -/

/-- The character that starts an escape. -/
def escapeMark : Char := '\x1b'

theorem afterEscape?_cons {c : Char} (hc : c ≠ escapeMark) (t : List Char) :
    afterEscape? (c :: t) = none := by
  unfold afterEscape?
  split
  · next h => exact absurd (List.cons.inj h).1 hc
  · rfl

theorem plain_of_afterEscape? {t rest : List Char} (h : afterEscape? t = some rest) :
    plain t = plain rest := by
  rw [plain]
  split
  · next rest' h' =>
    cases h.symm.trans h'
    rfl
  · next h' => cases h.symm.trans h'

theorem plain_nil : plain [] = [] := by
  rw [plain]
  rfl

theorem plain_cons {c : Char} (hc : c ≠ escapeMark) (t : List Char) :
    plain (c :: t) = c :: plain t := by
  rw [plain]
  split
  · next h => cases (afterEscape?_cons hc t).symm.trans h
  · rfl

theorem plain_append {t : List Char} (h : escapeMark ∉ t) (rest : List Char) :
    plain (t ++ rest) = t ++ plain rest := by
  induction t with
  | nil => rfl
  | cons c t ih =>
    obtain ⟨hc, ht⟩ := not_or.mp (mt List.mem_cons.mpr h)
    rw [List.cons_append, plain_cons (Ne.symm hc), ih ht, List.cons_append]

theorem plain_start (s : Style) (rest : List Char) : plain (s.start ++ rest) = plain rest := by
  apply plain_of_afterEscape?
  rcases s with _ | c | c
  · rfl
  all_goals cases c <;> rfl

theorem plain_resetEscape (rest : List Char) : plain (resetEscape ++ rest) = plain rest :=
  plain_of_afterEscape? rfl

theorem renew_cons (start : List Char) {c : Char} (hc : c ≠ escapeMark) (t : List Char) :
    renew start (c :: t) = c :: renew start t := by
  conv => lhs; unfold renew
  split
  · next h => exact absurd (List.cons.inj h).1 hc
  · next h =>
    cases h
    rfl
  · next h => cases h

/-- Without escapes in the text there is no style to begin anew. -/
theorem renew_of_not_mem (start : List Char) {t : List Char} (h : escapeMark ∉ t) :
    renew start t = t := by
  induction t with
  | nil => rfl
  | cons c t ih =>
    obtain ⟨hc, ht⟩ := not_or.mp (mt List.mem_cons.mpr h)
    rw [renew_cons start (Ne.symm hc), ih ht]

/-! ## Texts -/

/-- Whether a text becomes another one when its escapes are taken out, whatever follows it. -/
def Fades (s t : String) : Prop := ∀ rest, plain (s.toList ++ rest) = t.toList ++ plain rest

namespace Fades

variable {s s' t t' : String}

theorem of_lacks (h : Lacks escapeMark s) : Fades s s := plain_append h

theorem append (h : Fades s t) (h' : Fades s' t') : Fades (s ++ s') (t ++ t') := by
  intro rest
  simp only [String.toList_append, List.append_assoc]
  rw [h, h']

theorem append_plain {u : String} (h : Fades s t) (hu : Lacks escapeMark u) :
    Fades (s ++ u) (t ++ u) :=
  h.append (of_lacks hu)

/-- A painted text fades to itself; its style begins and ends with an escape. -/
theorem paint (style : Style) (h : Lacks escapeMark s) :
    Fades (style.paint true s) (style.paint false s) := by
  intro rest
  have hpainted : (style.paint true s).toList = style.start ++ (s.toList ++ resetEscape) := by
    simp [Style.paint, renew_of_not_mem _ h]
  rw [hpainted, List.append_assoc, List.append_assoc, plain_start, plain_append h,
    plain_resetEscape]
  rfl

theorem plain_eq (h : Fades s t) : plain s.toList = t.toList := by
  have h := h []
  rwa [List.append_nil, plain_nil, List.append_nil] at h

end Fades

/-! ## Lines -/

def FadeLines (l m : List String) : Prop := Fades (printed l) (printed m)

namespace FadeLines

variable {l l' m m' : List String} {α : Type}

theorem nil : FadeLines [] [] := fun _ => rfl

theorem printed_append : printed (l ++ m) = printed l ++ printed m := by
  simp [printed, String.join_append]

theorem append (h : FadeLines l m) (h' : FadeLines l' m') : FadeLines (l ++ l') (m ++ m') := by
  rw [FadeLines, printed_append, printed_append]
  exact Fades.append h h'

theorem single {s t : String} (h : Fades s t) : FadeLines [s] [t] := by
  have hfeed : Fades "\n" "\n" := .of_lacks (.literal rfl rfl)
  simpa [FadeLines, printed] using h.append hfeed

theorem cons {s t : String} (h : Fades s t) (h' : FadeLines l m) :
    FadeLines (s :: l) (t :: m) :=
  (single h).append h'

/-- Lines without escapes stay as they are. -/
theorem of_lacks (h : ∀ s ∈ l, Lacks escapeMark s) : FadeLines l l := by
  induction l with
  | nil => exact nil
  | cons s l ih =>
    obtain ⟨hs, hl⟩ := List.forall_mem_cons.mp h
    exact cons (.of_lacks hs) (ih hl)

theorem flatMap {f g : α → List String} {as : List α} (h : ∀ a ∈ as, FadeLines (f a) (g a)) :
    FadeLines (as.flatMap f) (as.flatMap g) := by
  induction as with
  | nil => exact nil
  | cons a as ih =>
    obtain ⟨ha, has⟩ := List.forall_mem_cons.mp h
    rw [List.flatMap_cons, List.flatMap_cons]
    exact ha.append (ih has)

theorem map {f g : α → String} {as : List α} (h : ∀ a ∈ as, Fades (f a) (g a)) :
    FadeLines (as.map f) (as.map g) := by
  rw [List.map_eq_flatMap, List.map_eq_flatMap]
  exact flatMap fun a ha => single (h a ha)

end FadeLines

end TapSuite

import Mathlib.Data.List.TakeWhile
import Mathlib.Logic.Relation
import TapSuite.Path.Basic
import TapSuite.Proofs.Text.Segments

/-!
# Spellings of a path

A path can be spelled in many ways.  A slash may be repeated or stand at the end, and a `.` may
follow a slash; nothing else can be written otherwise.

    components (a ++ '/' :: b) = components a ++ below b                       for a ≠ ""
    components p = components q ↔ Relation.EqvGen Respelled p q

So the components decide when two texts name the same path.  A `.` at the start stays, and `..`
takes nothing away.
-/

namespace TapSuite.Path

open Text

/-! ## Steps behind a slash -/

/-- The steps of a path behind a slash. -/
def below (path : List Char) : List Component :=
  (segments '/' path).filterMap Component.ofPiece?

theorem components_eq (path : List Char) :
    components path = (startOf path).toList ++ below path := rfl

@[simp] theorem below_nil : below [] = [] := rfl

theorem below_of_not_mem {s : List Char} (h : '/' ∉ s) :
    below s = (Component.ofPiece? s).toList :=
  filterMap_segments_of_not_mem rfl h

theorem below_append (a b : List Char) : below (a ++ '/' :: b) = below a ++ below b :=
  filterMap_segments_append rfl a b

theorem below_slash (path : List Char) : below ('/' :: path) = below path :=
  below_append [] path

/-! ## Starts -/

theorem takeWhile_append_slash (a b : List Char) :
    (a ++ '/' :: b).takeWhile (· ≠ '/') = a.takeWhile (· ≠ '/') := by
  induction a with
  | nil => rfl
  | cons c a ih => rw [List.cons_append, List.takeWhile_cons, List.takeWhile_cons, ih]

theorem startOf_append {a : List Char} (h : a ≠ []) (b : List Char) :
    startOf (a ++ '/' :: b) = startOf a := by
  have hhead : (a ++ '/' :: b).head? = a.head? := by
    cases a with
    | nil => exact absurd rfl h
    | cons c a => rfl
  rw [startOf, startOf, hhead, takeWhile_append_slash]

theorem components_append {a : List Char} (h : a ≠ []) (b : List Char) :
    components (a ++ '/' :: b) = components a ++ below b := by
  rw [components_eq, components_eq, startOf_append h, below_append, List.append_assoc]

theorem components_slash (path : List Char) : components ('/' :: path) = .root :: below path := by
  rw [components_eq, below_slash]
  rfl

/-! ## Respelling -/

/-- Whether two texts spell one path and differ in one place. -/
inductive Respelled : List Char → List Char → Prop
  /-- A repeated slash is one slash. -/
  | slashes (s t : List Char) : Respelled (s ++ '/' :: '/' :: t) (s ++ '/' :: t)
  /-- A `.` behind a slash is nothing. -/
  | here (s t : List Char) (h : t = [] ∨ t.head? = some '/') :
      Respelled (s ++ '/' :: '.' :: t) (s ++ '/' :: t)
  /-- A slash at the end is nothing, if something stands before it. -/
  | trailing (s : List Char) (h : s ≠ []) : Respelled (s ++ ['/']) s

theorem below_here {t : List Char} (h : t = [] ∨ t.head? = some '/') :
    below ('.' :: t) = below t := by
  rcases h with rfl | h
  · rfl
  · obtain ⟨rest, rfl⟩ := List.head?_eq_some_iff.mp h
    rw [below_slash]
    exact below_append ['.'] rest

/-- Respelling keeps the components. -/
theorem Respelled.components_eq {p q : List Char} (h : Respelled p q) :
    components p = components q := by
  cases h with
  | slashes s t =>
    by_cases hs : s = []
    · rw [hs]
      simp [components_slash, below_slash]
    · rw [components_append hs, components_append hs, below_slash]
  | here s t h =>
    by_cases hs : s = []
    · rw [hs]
      simp [components_slash, below_here h]
    · rw [components_append hs, components_append hs, below_here h]
  | trailing s h => rw [components_append h, below_nil, List.append_nil]

/-! ## One spelling for all -/

def Component.text : Component → List Char
  | .root => ['/']
  | .here => ['.']
  | .up => ['.', '.']
  | .name text => text

/-- The text of some steps behind others. -/
def spellBelow (steps : List Component) : List Char := steps.flatMap ('/' :: ·.text)

def spell : List Component → List Char
  | [] => []
  | first :: steps => first.text ++ spellBelow steps

/-- A piece between slashes is no step, or is spelled as its step. -/
theorem ofPiece?_cases (piece : List Char) :
    (Component.ofPiece? piece = none ∧ (piece = [] ∨ piece = ['.'])) ∨
    ∃ step, Component.ofPiece? piece = some step ∧ step.text = piece := by
  unfold Component.ofPiece?
  split
  · next hnone => exact .inl ⟨rfl, hnone⟩
  · right
    split
    · next hup => exact ⟨.up, rfl, hup.symm⟩
    · exact ⟨.name piece, rfl, rfl⟩

/-- What stands behind a slash can be spelled by its steps alone. -/
theorem eqvGen_spellBelow {s : List Char} (hs : s ≠ []) (t : List Char) :
    Relation.EqvGen Respelled (s ++ '/' :: t) (s ++ spellBelow (below t)) := by
  induction t using segments_induction '/' generalizing s with
  | last t ht =>
    have htrailing : Relation.EqvGen Respelled (s ++ ['/']) s := .rel _ _ (.trailing s hs)
    rw [below_of_not_mem ht]
    rcases ofPiece?_cases t with ⟨hnone, rfl | rfl⟩ | ⟨step, hstep, rfl⟩
    · simpa [hnone, spellBelow] using htrailing
    · have hhere : Relation.EqvGen Respelled (s ++ ['/', '.']) (s ++ ['/']) :=
        .rel _ _ (.here s [] (.inl rfl))
      simpa [hnone, spellBelow] using hhere.trans _ _ _ htrailing
    · rw [hstep]
      simpa [spellBelow] using Relation.EqvGen.refl _
  | more x t hx ih =>
    rw [below_append, below_of_not_mem hx]
    rcases ofPiece?_cases x with ⟨hnone, rfl | rfl⟩ | ⟨step, hstep, rfl⟩
    · rw [hnone]
      exact .trans _ _ _ (.rel _ _ (.slashes s t)) (ih hs)
    · rw [hnone]
      have hhere : Relation.EqvGen Respelled (s ++ '/' :: '.' :: '/' :: t) (s ++ '/' :: '/' :: t) :=
        .rel _ _ (.here s ('/' :: t) (.inr rfl))
      exact hhere.trans _ _ _ (.trans _ _ _ (.rel _ _ (.slashes s t)) (ih hs))
    · rw [hstep]
      have hstart : s ++ '/' :: step.text ≠ [] := by simp
      simpa [spellBelow] using ih hstart

/-- A text without slashes is the text of its one component. -/
theorem exists_components_of_not_mem {s : List Char} (h : '/' ∉ s) (hne : s ≠ []) :
    ∃ step, components s = [step] ∧ step.text = s := by
  have hhead : s.head? ≠ some '/' := fun hslash => h (List.mem_of_head? hslash)
  have htake : s.takeWhile (· ≠ '/') = s :=
    List.takeWhile_eq_self_iff.mpr fun c hc => by simpa using fun e : c = '/' => h (e ▸ hc)
  have hstart : startOf s = if s = ['.'] then some .here else none := by
    rw [startOf, if_neg hhead, htake]
  rw [components_eq, hstart, below_of_not_mem h]
  rcases ofPiece?_cases s with ⟨hnone, hempty | rfl⟩ | ⟨step, hstep, htext⟩
  · exact absurd hempty hne
  · exact ⟨.here, rfl, rfl⟩
  · have hdot : s ≠ ['.'] := by
      rintro rfl
      cases hstep
    rw [if_neg hdot, hstep]
    exact ⟨step, rfl, htext⟩

/-- Every path can be spelled by its components alone. -/
theorem eqvGen_spell (p : List Char) : Relation.EqvGen Respelled p (spell (components p)) := by
  by_cases hslash : '/' ∈ p
  · obtain ⟨s, t, rfl, hs⟩ := List.eq_append_cons_of_mem hslash
    by_cases hne : s = []
    · -- the root is spelled with one slash more
      have hmore : Relation.EqvGen Respelled ('/' :: t) ('/' :: '/' :: t) :=
        .symm _ _ (.rel _ _ (.slashes [] t))
      rw [hne, List.nil_append, components_slash]
      exact hmore.trans _ _ _ (eqvGen_spellBelow (s := ['/']) (List.cons_ne_nil _ _) t)
    · obtain ⟨step, hstep, htext⟩ := exists_components_of_not_mem hs hne
      rw [components_append hne, hstep, List.singleton_append, spell, htext]
      exact eqvGen_spellBelow hne t
  · by_cases hne : p = []
    · rw [hne]
      exact .refl _
    · obtain ⟨step, hstep, htext⟩ := exists_components_of_not_mem hslash hne
      rw [hstep, spell, htext]
      simpa [spellBelow] using Relation.EqvGen.refl p

/-- Two texts have the same components exactly if one can be respelled as the other. -/
theorem components_eq_iff (p q : List Char) :
    components p = components q ↔ Relation.EqvGen Respelled p q := by
  constructor
  · intro h
    have hp := eqvGen_spell p
    rw [h] at hp
    exact hp.trans _ _ _ (.symm _ _ (eqvGen_spell q))
  · intro h
    induction h with
    | rel p q h => exact h.components_eq
    | refl p => rfl
    | symm p q _ ih => exact ih.symm
    | trans p q r _ _ ihp ihq => exact ihp.trans ihq

end TapSuite.Path

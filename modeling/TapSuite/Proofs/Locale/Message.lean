import TapSuite.Locale.Basic
import TapSuite.Proofs.Text.Lacks

/-!
# Messages of the catalog

Every key of the catalog has a message in every locale, and no message holds a character that a
document or a terminal gives a meaning, as long as the values in its places hold none.

    Lacks x (Locale.say locale key values)     for `<` and the escape               (lacks_message)
-/

namespace TapSuite

variable {x : Char}

theorem lacks_fill {m : Message} {values : List (String × String)}
    (hm : ∀ part ∈ m, Lacks x part.template) (hvalues : ∀ v ∈ values, Lacks x v.2) :
    Lacks x (m.fill values) := by
  rw [Message.fill, lacks_join, List.forall_mem_map]
  intro part hpart
  cases part with
  | text s => exact hm _ hpart
  | value name =>
    rw [MessagePart.fill]
    cases hlook : values.lookup name with
    | none => exact hm _ hpart
    | some v =>
      obtain ⟨l, r, hsplit, -⟩ := List.lookup_eq_some_iff.mp hlook
      exact hvalues (name, v) (hsplit ▸ List.mem_append_right l List.mem_cons_self)

/-- The characters that no message holds: one starts a tag, the other an escape. -/
def foreignMarks : List Char := ['<', '\x1b']

theorem lacks_catalog (hx : x ∈ foreignMarks) :
    ∀ e ∈ catalog, ∀ part ∈ e.english ++ e.chinese, Lacks x part.template := by
  simp only [catalog, List.forall_mem_cons, List.forall_mem_append, MessagePart.template,
    lacks_append, List.not_mem_nil, false_implies, implies_true, and_true]
  rcases List.mem_pair.mp hx with rfl | rfl
  all_goals
    and_intros
    all_goals exact .literal rfl rfl

/-- A key of the catalog has a message in every locale, in one of the catalog's languages. -/
theorem exists_lookUp? {key : String} (h : key ∈ catalog.map (·.key)) (locale : String) :
    ∃ e ∈ catalog, e.key = key ∧
      ∃ m, Locale.lookUp? locale key = some m ∧ (m = e.english ∨ m = e.chinese) := by
  obtain ⟨e₀, he₀, hkey⟩ := List.mem_map.mp h
  obtain ⟨e, hfind⟩ : ∃ e, catalog.find? (·.key = key) = some e :=
    Option.isSome_iff_exists.mp (List.find?_isSome.mpr ⟨e₀, he₀, decide_eq_true hkey⟩)
  -- the search ends in English at the latest
  have hsome : ((Locale.chain locale).findSome? (Locale.messageIn? e)).isSome = true := by
    rw [List.findSome?_isSome_iff]
    exact ⟨Locale.fallback, List.mem_append_right _ List.mem_cons_self, rfl⟩
  obtain ⟨m, hm⟩ := Option.isSome_iff_exists.mp hsome
  obtain ⟨language, -, hlanguage⟩ := List.exists_of_findSome?_eq_some hm
  refine ⟨e, List.mem_of_find?_eq_some hfind, of_decide_eq_true (List.find?_some hfind :), m,
    by rw [Locale.lookUp?, hfind, ← hm], ?_⟩
  rw [Locale.messageIn?] at hlanguage
  split at hlanguage
  · exact .inl (Option.some.inj hlanguage).symm
  · split at hlanguage
    · exact .inr (Option.some.inj hlanguage).symm
    · cases hlanguage

/-- A message holds none of these characters, in any locale, unless a value brings one in. -/
theorem lacks_message (hx : x ∈ foreignMarks) {key : String} {values : List (String × String)}
    (h : key ∈ catalog.map (·.key)) (locale : String) (hvalues : ∀ v ∈ values, Lacks x v.2) :
    Lacks x (Locale.say locale key values) := by
  obtain ⟨e, he, -, m, hm, hlanguage⟩ := exists_lookUp? h locale
  have hparts := List.forall_mem_append.mp (lacks_catalog hx e he)
  rw [Locale.say, hm]
  refine lacks_fill ?_ hvalues
  obtain rfl | rfl := hlanguage
  · exact hparts.1
  · exact hparts.2

end TapSuite

import TapSuite.Proofs.Path.Spelling

/-!
# Names below a directory

However a directory is spelled, joining it with a name adds one component.

    components (join dir name) = components dir ++ [.name name]               (components_join)

So different names below a directory are different paths, and each path ends in its name.
-/

namespace TapSuite.Path

/-- Whether a text is the name of something that a directory can hold. -/
structure Plain (name : List Char) : Prop where
  nonempty : name ≠ []
  slash : '/' ∉ name
  here : name ≠ ['.']
  up : name ≠ ['.', '.']

theorem Plain.head {name : List Char} (h : Plain name) : name.head? ≠ some '/' :=
  fun hhead => h.slash (List.mem_of_head? hhead)

theorem Plain.below {name : List Char} (h : Plain name) : below name = [.name name] := by
  rw [below_of_not_mem h.slash, Component.ofPiece?, if_neg (by simp [h.nonempty, h.here]),
    if_neg h.up]
  rfl

theorem Plain.components {name : List Char} (h : Plain name) : components name = [.name name] := by
  obtain ⟨step, hstep, htext⟩ := exists_components_of_not_mem h.slash h.nonempty
  cases step with
  | root => exact absurd (htext ▸ List.mem_singleton_self _) h.slash
  | here => exact absurd htext.symm h.here
  | up => exact absurd htext.symm h.up
  | name text => rw [hstep, ← htext]; rfl

/-- Behind a slash a path starts with the components before it. -/
theorem components_append_slash (a b : List Char) :
    components (a ++ '/' :: b) = components (a ++ ['/']) ++ below b := by
  by_cases h : a = []
  · rw [h, List.nil_append, List.nil_append, components_slash, components_slash]
    rfl
  · rw [components_append h, components_append h, below_nil, List.append_nil]

/-- A name is joined to a directory by one slash, which the directory may end in. -/
theorem exists_join_eq {dir name : List Char} (hdir : dir ≠ []) (hname : name.head? ≠ some '/') :
    ∃ d, (dir = d ∨ dir = d ++ ['/']) ∧ join dir name = d ++ '/' :: name := by
  rw [join, if_neg hname]
  by_cases hlast : dir.getLast? = some '/'
  · obtain ⟨d, rfl⟩ := List.getLast?_eq_some_iff.mp hlast
    rw [if_pos (.inr hlast), List.append_assoc, List.singleton_append]
    exact ⟨d, .inr rfl, rfl⟩
  · rw [if_neg (by simp [hdir, hlast])]
    exact ⟨dir, .inl rfl, rfl⟩

/-- A name below a directory is one more component. -/
theorem components_join {name : List Char} (h : Plain name) (dir : List Char) :
    components (join dir name) = components dir ++ [.name name] := by
  by_cases hdir : dir = []
  · rw [hdir, join, if_neg h.head, if_pos (.inl rfl), List.nil_append, h.components]
    rfl
  · obtain ⟨d, rfl | rfl, hjoin⟩ := exists_join_eq hdir h.head
    · rw [hjoin, components_append hdir, h.below]
    · rw [hjoin, components_append_slash, h.below]

theorem fileName?_join {name : List Char} (h : Plain name) (dir : List Char) :
    fileName? (join dir name) = some name := by
  rw [fileName?, components_join h, List.getLast?_concat]

/-- Different names below a directory are different paths. -/
theorem join_injective {a b : List Char} (ha : Plain a) (hb : Plain b) {dir : List Char}
    (h : components (join dir a) = components (join dir b)) : a = b := by
  rw [components_join ha, components_join hb] at h
  exact Component.name.inj (List.cons.inj (List.append_cancel_left h)).1

end TapSuite.Path

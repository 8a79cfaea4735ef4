import TapSuite.Proofs.Html.Markup

/-!
# Documents cut at their tags

A reader who cuts the text of a well-formed document at its tags finds the tags that were written,
properly nested, and the leaves that were written with their texts.

    tags (render ts) = tagsOf ts                                             (tags_render)
    Nested (render ts)                                                       (nested_render)
    leaves (render ts) = leavesOf [] [] ts                                   (leaves_render)

What some leaves of a document are is read off its parts: leaves of other kinds may stand between
them, before them and after them.
-/

namespace TapSuite.Html

variable {ts us : List Token} {t : Token} {inside : List Char}

/-! ## Cutting -/

theorem cutPieces_inTag (h : '>' ∉ inside) (seen rest : List Char) :
    cutPieces true seen (inside ++ '>' :: rest) =
      .tag (seen.reverse ++ inside) :: cutPieces false [] rest := by
  induction inside generalizing seen with
  | nil => rw [List.nil_append, cutPieces, if_pos rfl, if_pos rfl, List.append_nil]
  | cons c inside ih =>
    rw [List.mem_cons, not_or] at h
    rw [List.cons_append, cutPieces, if_pos rfl, if_neg (Ne.symm h.1), ih h.2, List.reverse_cons,
      List.append_assoc, List.singleton_append]

theorem cutPieces_text {s : List Char} (h : '<' ∉ s) (seen rest : List Char) :
    cutPieces false seen (s ++ rest) = cutPieces false (s.reverse ++ seen) rest := by
  induction s generalizing seen with
  | nil => rfl
  | cons c s ih =>
    rw [List.mem_cons, not_or] at h
    rw [List.cons_append, cutPieces, if_neg Bool.false_ne_true, if_neg (Ne.symm h.1), ih h.2,
      List.reverse_cons, List.append_assoc, List.singleton_append]

theorem cutPieces_of_inside? (h : t.inside? = some inside) (hclean : t.Clean)
    (seen rest : List Char) :
    cutPieces false seen (t.render ++ rest) =
      textPiece seen.reverse ++ .tag inside :: cutPieces false [] rest := by
  rw [Token.Clean, h] at hclean
  rw [render_of_inside? h, List.append_assoc, List.cons_append, cutPieces,
    if_neg Bool.false_ne_true, if_pos rfl, List.singleton_append, cutPieces_inTag hclean]
  rfl

theorem cutPieces_of_text (h : t.inside? = none) (hclean : t.Clean) (seen rest : List Char) :
    cutPieces false seen (t.render ++ rest) = cutPieces false (t.render.reverse ++ seen) rest := by
  rw [Token.Clean, h] at hclean
  exact cutPieces_text hclean seen rest

/-! ## Tags -/

theorem tag?_textPiece (t : List Char) (rest : List Piece) :
    (textPiece t ++ rest).filterMap Piece.tag? = rest.filterMap Piece.tag? := by
  cases t <;> rfl

theorem tags_cutPieces (h : ∀ t ∈ ts, t.Clean) (seen : List Char) :
    (cutPieces false seen (ts.flatMap Token.render)).filterMap Piece.tag? = tagsOf ts := by
  induction ts generalizing seen with
  | nil => exact (congrArg _ (List.append_nil _).symm).trans (tag?_textPiece seen.reverse [])
  | cons t ts ih =>
    obtain ⟨ht, hts⟩ := List.forall_mem_cons.mp h
    rw [List.flatMap_cons]
    cases hinside : t.inside? with
    | none => rw [cutPieces_of_text hinside ht, tagsOf_cons_none hinside, ih hts]
    | some inside =>
      rw [cutPieces_of_inside? hinside ht, tag?_textPiece, tagsOf_cons_some hinside, ← ih hts []]
      rfl

/-- The tags that a reader finds are those that were written. -/
theorem tags_render (h : WellFormed ts) : tags (render ts).toList = tagsOf ts := by
  rw [render, String.toList_ofList]
  exact tags_cutPieces h.clean []

/-- The tags of a well-formed document nest. -/
theorem nested_render (h : WellFormed ts) : Nested (render ts).toList := by
  have hempty : nestedFrom [] (tagsOf ts ++ []) = true := h.nested [] []
  rwa [Nested, tags_render h, ← List.append_nil (tagsOf ts)]

/-! ## Leaves -/

/-- The elements without elements in them, as they were written. -/
def leavesOf (last seen : List Char) : List Token → List (List Char × List Char)
  | [] => []
  | t :: rest =>
    match t.inside? with
    | none => leavesOf last (seen ++ t.render) rest
    | some inside =>
      if inside = '/' :: tagName last then (last, decode seen) :: leavesOf inside [] rest
      else leavesOf inside [] rest

theorem leavesOf_cons_none (h : t.inside? = none) (last seen : List Char) :
    leavesOf last seen (t :: ts) = leavesOf last (seen ++ t.render) ts := by
  rw [leavesOf, h]

theorem leavesOf_cons_some (h : t.inside? = some inside) (last seen : List Char) :
    leavesOf last seen (t :: ts) =
      if inside = '/' :: tagName last then (last, decode seen) :: leavesOf inside [] ts
      else leavesOf inside [] ts := by
  rw [leavesOf, h]

theorem leavesFrom_textPiece (last seen t : List Char) (rest : List Piece) :
    leavesFrom last seen (textPiece t ++ rest) = leavesFrom last (seen ++ t) rest := by
  cases t with
  | nil => exact congrArg (leavesFrom last · rest) (List.append_nil seen).symm
  | cons c t => rfl

theorem leavesFrom_cutPieces (h : ∀ t ∈ ts, t.Clean) (last seen now : List Char) :
    leavesFrom last seen (cutPieces false now (ts.flatMap Token.render)) =
      leavesOf last (seen ++ now.reverse) ts := by
  induction ts generalizing last seen now with
  | nil =>
    have htail := leavesFrom_textPiece last seen now.reverse []
    rwa [List.append_nil] at htail
  | cons t ts ih =>
    obtain ⟨ht, hts⟩ := List.forall_mem_cons.mp h
    rw [List.flatMap_cons]
    cases hinside : t.inside? with
    | none =>
      rw [cutPieces_of_text hinside ht, leavesOf_cons_none hinside, ih hts, List.reverse_append,
        List.reverse_reverse, List.append_assoc]
    | some inside =>
      rw [cutPieces_of_inside? hinside ht, leavesFrom_textPiece, leavesOf_cons_some hinside,
        leavesFrom, ih hts, List.reverse_nil, List.append_nil]

/-- The leaves that a reader finds are those that were written. -/
theorem leaves_render (h : WellFormed ts) : leaves (render ts).toList = leavesOf [] [] ts := by
  rw [leaves, pieces, render, String.toList_ofList]
  exact leavesFrom_cutPieces h.clean [] [] []

/-! ## Leaves of some kinds -/

variable {mark : List Char → Bool} {ls ks : List (List Char × List Char)}

/-- The leaves with opening tags of some kinds. -/
def marked (mark : List Char → Bool) (ls : List (List Char × List Char)) :
    List (List Char × List Char) :=
  ls.filter fun l => mark l.1

/-- A part of a document has certain leaves of some kinds, wherever it stands, and leaves no element
of these kinds open. -/
def Yields (mark : List Char → Bool) (ts : List Token) (ls : List (List Char × List Char)) : Prop :=
  ∀ last seen rest, mark last = false →
    ∃ last' seen', mark last' = false ∧
      marked mark (leavesOf last seen (ts ++ rest)) = ls ++ marked mark (leavesOf last' seen' rest)

namespace Yields

theorem marked_leavesOf (h : Yields mark ts ls) (hempty : mark [] = false) :
    marked mark (leavesOf [] [] ts) = ls := by
  obtain ⟨last, seen, -, hleaves⟩ := h [] [] [] hempty
  rw [List.append_nil] at hleaves
  exact hleaves.trans (List.append_nil ls)

theorem nil : Yields mark [] [] := fun last seen _ hlast => ⟨last, seen, hlast, rfl⟩

theorem append (h : Yields mark ts ls) (k : Yields mark us ks) :
    Yields mark (ts ++ us) (ls ++ ks) := by
  intro last seen rest hlast
  obtain ⟨middle, text, hmiddle, hts⟩ := h last seen (us ++ rest) hlast
  obtain ⟨last', seen', hlast', hus⟩ := k middle text rest hmiddle
  exact ⟨last', seen', hlast', by rw [List.append_assoc, hts, hus, List.append_assoc]⟩

theorem flatMap {α : Type} {f : α → List Token} {g : α → List (List Char × List Char)}
    (h : ∀ a, Yields mark (f a) (g a)) (l : List α) : Yields mark (l.flatMap f) (l.flatMap g) := by
  induction l with
  | nil => exact nil
  | cons a l ih =>
    rw [List.flatMap_cons, List.flatMap_cons]
    exact (h a).append ih

/-- A token that opens no element of these kinds. -/
theorem single (h : ∀ inside, t.inside? = some inside → mark inside = false) :
    Yields mark [t] [] := by
  intro last seen rest hlast
  cases hinside : t.inside? with
  | none =>
    refine ⟨last, seen ++ t.render, hlast, ?_⟩
    rw [List.singleton_append, leavesOf_cons_none hinside, List.nil_append]
  | some inside =>
    refine ⟨inside, [], h inside hinside, ?_⟩
    rw [List.singleton_append, leavesOf_cons_some hinside, List.nil_append]
    -- if the tag closes the last one, the leaf is not of these kinds
    split
    · exact List.filter_cons_of_neg (Bool.not_eq_true _ ▸ hlast)
    · rfl

/-- A part without elements of these kinds. -/
theorem quiet (h : ((tagsOf ts).all fun inside => !mark inside) = true) : Yields mark ts [] := by
  induction ts with
  | nil => exact nil
  | cons t ts ih =>
    cases hinside : t.inside? with
    | none =>
      rw [tagsOf_cons_none hinside] at h
      exact (single fun _ hsome => nomatch hinside.symm.trans hsome).append (ih h)
    | some inside =>
      rw [tagsOf_cons_some hinside, List.all_cons, Bool.and_eq_true, Bool.not_eq_true'] at h
      exact (single fun _ hsome => Option.some.inj (hinside.symm.trans hsome) ▸ h.1).append (ih h.2)

/-- An element of another kind has the leaves of its content. -/
theorem element (h : Yields mark ts ls) (name : String) (attributes : List Attribute)
    (hopening : mark (openingInside name attributes) = false)
    (hclosing : mark ('/' :: name.toList) = false) :
    Yields mark (element name attributes ts) ls := by
  have hopen : Yields mark [.opening name attributes] [] :=
    single fun inside hinside => Option.some.inj hinside ▸ hopening
  have hclose : Yields mark [.closing name] [] :=
    single fun inside hinside => Option.some.inj hinside ▸ hclosing
  have hall := (hopen.append h).append hclose
  rwa [List.nil_append, List.append_nil] at hall

/-- An element of one of these kinds that holds a text is a leaf. -/
theorem leaf (name : String) (attributes : List Attribute) (s : String)
    (hopening : mark (openingInside name attributes) = true)
    (hclosing : mark ('/' :: name.toList) = false)
    (hname : ' ' ∉ name.toList) :
    Yields mark (Html.element name attributes [.text s])
      [(openingInside name attributes, s.toList)] := by
  intro last seen rest hlast
  refine ⟨'/' :: name.toList, [], hclosing, ?_⟩
  have hskip : ∀ l : List (List Char × List Char), marked mark ((last, decode seen) :: l) =
      marked mark l := fun l => List.filter_cons_of_neg (Bool.not_eq_true _ ▸ hlast)
  have hkeep : ∀ l : List (List Char × List Char),
      marked mark ((openingInside name attributes, s.toList) :: l) =
        (openingInside name attributes, s.toList) :: marked mark l :=
    fun l => List.filter_cons_of_pos hopening
  have hinner : leavesOf (openingInside name attributes) [] ([.text s, .closing name] ++ rest) =
      (openingInside name attributes, s.toList) :: leavesOf ('/' :: name.toList) [] rest := by
    rw [List.cons_append, leavesOf_cons_none (t := .text s) rfl, List.nil_append, render_text,
      List.singleton_append, leavesOf_cons_some (inside?_closing name),
      tagName_openingInside hname, if_pos rfl, decode_escape]
  rw [Html.element, List.cons_append, List.cons_append,
    leavesOf_cons_some (inside?_opening name attributes)]
  change marked mark (if _ then _ :: leavesOf _ [] ([Token.text s, .closing name] ++ rest)
    else leavesOf _ [] ([Token.text s, .closing name] ++ rest)) = _
  rw [hinner]
  split
  · rw [hskip, hkeep]
    rfl
  · rw [hkeep]
    rfl

end Yields

end TapSuite.Html

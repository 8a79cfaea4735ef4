import TapSuite.Html.Markup
import TapSuite.Html.Token
import TapSuite.Proofs.Html.Escape

/-!
# Markup of written documents

A part of a document is well formed when no tag and no text of it can be taken for something else
and its tags nest.  Well-formed parts are put together as documents are: one after the other, and as
the content of an element.

    WellFormed ts → WellFormed us → WellFormed (ts ++ us)                    (WellFormed.append)
    WellFormed content → WellFormed (element name attributes content)        (WellFormed.element)
-/

namespace TapSuite.Html

variable {ts us : List Token} {t : Token} {inside : List Char}

/-! ## Tags of tokens -/

/-- The inside of a tag with a name and attributes. -/
def openingInside (name : String) (attributes : List Attribute) : List Char :=
  name.toList ++ attributes.flatMap Attribute.render

/-- The inside of a token that is a tag. -/
def Token.inside? : Token → Option (List Char)
  | .doctype => some "!DOCTYPE html".toList
  | .opening name attributes => some (openingInside name attributes)
  | .closing name => some ('/' :: name.toList)
  | .text _ => none
  | .verbatim _ => none

theorem inside?_opening (name : String) (attributes : List Attribute) :
    (Token.opening name attributes).inside? = some (openingInside name attributes) := rfl

theorem inside?_closing (name : String) :
    (Token.closing name).inside? = some ('/' :: name.toList) := rfl

def tagsOf (ts : List Token) : List (List Char) := ts.filterMap Token.inside?

theorem tagsOf_append (ts us : List Token) : tagsOf (ts ++ us) = tagsOf ts ++ tagsOf us :=
  List.filterMap_append

theorem tagsOf_cons_some (h : t.inside? = some inside) :
    tagsOf (t :: ts) = inside :: tagsOf ts :=
  List.filterMap_cons_some h

theorem tagsOf_cons_none (h : t.inside? = none) : tagsOf (t :: ts) = tagsOf ts :=
  List.filterMap_cons_none h

theorem tagsOf_text (s : String) : tagsOf [.text s] = [] := rfl

theorem tagsOf_verbatim (s : String) : tagsOf [.verbatim s] = [] := rfl

theorem tagsOf_element (name : String) (attributes : List Attribute) (content : List Token) :
    tagsOf (element name attributes content) =
      openingInside name attributes :: tagsOf content ++ ['/' :: name.toList] := by
  rw [element, List.cons_append, tagsOf_cons_some (inside?_opening name attributes),
    tagsOf_append, List.cons_append]
  rfl

/-- Of the tags of some kinds, an element has its opening one and those of its content. -/
theorem filter_tagsOf_element (mark : List Char → Bool) (name : String)
    (attributes : List Attribute) (content : List Token)
    (h : mark ('/' :: name.toList) = false) :
    (tagsOf (element name attributes content)).filter mark =
      [openingInside name attributes].filter mark ++ (tagsOf content).filter mark := by
  have hclosing : ['/' :: name.toList].filter mark = [] :=
    List.filter_cons_of_neg (Bool.not_eq_true _ ▸ h)
  rw [tagsOf_element, ← List.singleton_append, List.append_assoc, List.filter_append,
    List.filter_append, hclosing, List.append_nil]

theorem tagsOf_flatMap {α : Type} (f : α → List Token) (l : List α) :
    tagsOf (l.flatMap f) = l.flatMap fun a => tagsOf (f a) :=
  List.filterMap_flatMap

theorem render_of_inside? (h : t.inside? = some inside) : t.render = '<' :: inside ++ ['>'] := by
  cases t with
  | doctype =>
    rw [Token.inside?, Option.some.injEq] at h
    rw [← h]
    decide
  | opening name attributes =>
    obtain rfl := Option.some.inj h
    rfl
  | closing name =>
    obtain rfl := Option.some.inj h
    rfl
  | text s => cases h
  | verbatim s => cases h

theorem render_text (s : String) : (Token.text s).render = escape s.toList := rfl

/-! ## Nesting -/

theorem nestedFrom_alone (h : standsAlone inside = true) (openTags rest : List (List Char)) :
    nestedFrom openTags (inside :: rest) = nestedFrom openTags rest := by
  rw [nestedFrom.eq_def]
  exact if_pos h

theorem nestedFrom_opening {c : Char} (hc : c ≠ '/') (h : standsAlone (c :: inside) = false)
    (openTags rest : List (List Char)) :
    nestedFrom openTags ((c :: inside) :: rest) =
      nestedFrom (tagName (c :: inside) :: openTags) rest := by
  rw [nestedFrom.eq_def]
  dsimp only
  rw [if_neg (Bool.not_eq_true _ ▸ h)]
  split
  · rename_i name heq
    exact absurd (List.cons.inj heq).1 hc
  · rfl

theorem nestedFrom_closing (name : List Char) (openTags rest : List (List Char)) :
    nestedFrom (name :: openTags) (('/' :: name) :: rest) = nestedFrom openTags rest := by
  have halone : standsAlone ('/' :: name) = false := by
    rw [standsAlone, tagName, List.takeWhile_cons_of_pos (by decide)]
    exact Bool.or_eq_false_iff.mpr ⟨decide_eq_false nofun, decide_eq_false nofun⟩
  rw [nestedFrom.eq_def]
  dsimp only
  rw [if_neg (Bool.not_eq_true _ ▸ halone)]
  change (decide (name = name) && _) = _
  rw [decide_eq_true rfl, Bool.true_and]

/-! ## Well-formed parts -/

/-- A tag that does not end early, or a text that starts no tag. -/
def Token.Clean (t : Token) : Prop :=
  match t.inside? with
  | some inside => '>' ∉ inside
  | none => '<' ∉ t.render

def Attribute.Clean (a : Attribute) : Prop := '>' ∉ a.render

instance : DecidablePred Attribute.Clean := fun a =>
  inferInstanceAs (Decidable ('>' ∉ a.render))

theorem Attribute.Clean.of_value {name value : String} {quote : Char} (h : '>' ∉ value.toList)
    (hname : '>' ∉ name.toList) (hquote : '>' ≠ quote) :
    Attribute.Clean { name, value, quote } := by
  simp only [Attribute.Clean, Attribute.render, List.mem_append, List.mem_cons, List.not_mem_nil,
    or_false, not_or, List.cons_append]
  exact ⟨by decide, ⟨⟨hname, by decide, hquote⟩, h⟩, hquote⟩

/-- A part of a document: nothing in it is taken for something else, and its tags nest in
themselves, wherever they stand. -/
structure WellFormed (ts : List Token) : Prop where
  clean : ∀ t ∈ ts, t.Clean
  nested : ∀ openTags rest, nestedFrom openTags (tagsOf ts ++ rest) = nestedFrom openTags rest

namespace WellFormed

theorem nil : WellFormed [] := ⟨nofun, fun _ _ => rfl⟩

theorem append (h : WellFormed ts) (k : WellFormed us) : WellFormed (ts ++ us) where
  clean := List.forall_mem_append.mpr ⟨h.clean, k.clean⟩
  nested openTags rest := by
    rw [tagsOf_append, List.append_assoc, h.nested, k.nested]

theorem flatMap {α : Type} {f : α → List Token} (h : ∀ a, WellFormed (f a)) (l : List α) :
    WellFormed (l.flatMap f) := by
  induction l with
  | nil => exact nil
  | cons a l ih =>
    rw [List.flatMap_cons]
    exact (h a).append ih

/-- Text is escaped, so it can be any. -/
theorem text (s : String) : WellFormed [.text s] where
  clean := List.forall_mem_singleton.mpr
    (not_mem_escape (x := '<') (by decide) (by decide) s.toList)
  nested _ _ := rfl

theorem verbatim {s : String} (h : '<' ∉ s.toList) : WellFormed [.verbatim s] where
  clean := List.forall_mem_singleton.mpr h
  nested _ _ := rfl

/-- A tag that stands alone. -/
theorem alone (h : t.inside? = some inside) (hclean : '>' ∉ inside)
    (halone : standsAlone inside = true) : WellFormed [t] where
  clean := List.forall_mem_singleton.mpr (by rw [Token.Clean, h]; exact hclean)
  nested openTags rest := by
    rw [tagsOf_cons_some h, List.cons_append, nestedFrom_alone halone]
    rfl

end WellFormed

/-! ## Elements -/

/-- The name of an element: letters and digits, and none of a tag that stands alone. -/
def ElementName (name : String) : Prop :=
  name.toList ≠ [] ∧ name.toList.all Char.isAlphanum = true ∧ name.toList ≠ ['m', 'e', 't', 'a']

instance : DecidablePred ElementName := fun name =>
  inferInstanceAs (Decidable (name.toList ≠ [] ∧ _ ∧ _))

theorem ElementName.not_mem {name : String} (h : ElementName name) {c : Char}
    (hc : c.isAlphanum = false) : c ∉ name.toList :=
  fun hmem => Bool.false_ne_true (hc.symm.trans (List.all_eq_true.mp h.2.1 c hmem))

/-- The name of an opening tag ends where its attributes start. -/
theorem tagName_openingInside {name : String} (h : ' ' ∉ name.toList)
    (attributes : List Attribute) : tagName (openingInside name attributes) = name.toList := by
  have hname : ∀ c ∈ name.toList, decide (c ≠ ' ') = true :=
    fun c hc => decide_eq_true fun heq => h (heq ▸ hc)
  rw [tagName, openingInside, List.takeWhile_append_of_pos hname]
  cases attributes with
  | nil => exact List.append_nil _
  | cons a _ =>
    rw [List.flatMap_cons, Attribute.render, List.cons_append, List.cons_append, List.cons_append,
      List.cons_append, List.takeWhile_cons_of_neg (by decide), List.append_nil]

/-- An opening tag is none that closes or stands alone. -/
theorem ElementName.openingInside {name : String} (h : ElementName name)
    (attributes : List Attribute) :
    ∃ c rest, openingInside name attributes = c :: rest ∧ c ≠ '/' ∧
      standsAlone (c :: rest) = false := by
  obtain ⟨c, rest, hname⟩ := List.exists_cons_of_ne_nil h.1
  have htag := tagName_openingInside (h.not_mem (c := ' ') (by decide)) attributes
  have hc : ∀ x : Char, x.isAlphanum = false → c ≠ x := by
    rintro x hx rfl
    exact h.not_mem hx (hname ▸ List.mem_cons_self)
  refine ⟨c, rest ++ attributes.flatMap Attribute.render, ?_, hc '/' (by decide), ?_⟩
  · rw [Html.openingInside, hname, List.cons_append]
  · rw [Html.openingInside, hname, List.cons_append] at htag
    rw [standsAlone, htag, ← hname, List.head?_cons, decide_eq_false h.2.2, Bool.or_false]
    exact decide_eq_false fun hbang => hc '!' (by decide) (Option.some.inj hbang)

/-- An element with a well-formed content is well formed. -/
theorem WellFormed.element (h : WellFormed ts) (name : String) (attributes : List Attribute)
    (hattributes : ∀ a ∈ attributes, a.Clean) (hname : ElementName name) :
    WellFormed (element name attributes ts) where
  clean := by
    have hgt : '>' ∉ name.toList := hname.not_mem (by decide)
    simp only [Html.element, List.cons_append, List.forall_mem_cons, List.forall_mem_append]
    refine ⟨?_, h.clean, ?_, nofun⟩
    · change '>' ∉ openingInside name attributes
      rw [Html.openingInside, List.mem_append, not_or, List.mem_flatMap]
      exact ⟨hgt, fun ⟨a, ha, hmem⟩ => hattributes a ha hmem⟩
    · change '>' ∉ '/' :: name.toList
      rw [List.mem_cons, not_or]
      exact ⟨by decide, hgt⟩
  nested openTags rest := by
    obtain ⟨c, inside, hinside, hc, halone⟩ := hname.openingInside attributes
    have htag := tagName_openingInside (hname.not_mem (c := ' ') (by decide)) attributes
    rw [tagsOf_element, List.append_assoc, List.cons_append, hinside,
      nestedFrom_opening hc halone, ← hinside, htag, h.nested, List.singleton_append,
      nestedFrom_closing]

/-- An element without attributes. -/
theorem WellFormed.bare (h : WellFormed ts) (name : String) (hname : ElementName name) :
    WellFormed (Html.element name [] ts) :=
  h.element name [] nofun hname

/-- An element with style classes. -/
theorem WellFormed.styled (h : WellFormed ts) (name value : String) (hname : ElementName name)
    (hvalue : '>' ∉ value.toList) : WellFormed (Html.element name [styleClass value] ts) :=
  h.element name [styleClass value]
    (List.forall_mem_singleton.mpr (.of_value hvalue (by decide) (by decide))) hname

end TapSuite.Html

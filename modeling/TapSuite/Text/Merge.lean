/-!
# Merges

A merge of two lists holds the elements of both, those of each in their order.

    Merge a b c:  c is one of the ways to merge a and b
-/

namespace TapSuite.Text

/-- The ways to merge two lists. -/
inductive Merge {α : Type} : List α → List α → List α → Prop
  | nil : Merge [] [] []
  | left {x : α} {a b c : List α} : Merge a b c → Merge (x :: a) b (x :: c)
  | right {x : α} {a b c : List α} : Merge a b c → Merge a (x :: b) (x :: c)

/-! ## Lemmas -/

theorem Merge.snoc_left {α : Type} {a b c : List α} (h : Merge a b c) (x : α) :
    Merge (a ++ [x]) b (c ++ [x]) := by
  induction h with
  | nil => exact .left .nil
  | left _ ih => exact .left ih
  | right _ ih => exact .right ih

theorem Merge.snoc_right {α : Type} {a b c : List α} (h : Merge a b c) (x : α) :
    Merge a (b ++ [x]) (c ++ [x]) := by
  induction h with
  | nil => exact .right .nil
  | left _ ih => exact .left ih
  | right _ ih => exact .right ih

theorem Merge.mem_or_mem {α : Type} {a b c : List α} (h : Merge a b c) {x : α} (hx : x ∈ c) :
    x ∈ a ∨ x ∈ b := by
  induction h with
  | nil => cases hx
  | left _ ih =>
    rcases List.mem_cons.mp hx with rfl | hx
    · exact .inl List.mem_cons_self
    · exact (ih hx).imp_left (List.mem_cons_of_mem _)
  | right _ ih =>
    rcases List.mem_cons.mp hx with rfl | hx
    · exact .inr List.mem_cons_self
    · exact (ih hx).imp_right (List.mem_cons_of_mem _)

end TapSuite.Text

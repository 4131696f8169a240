/-!
# What is found in a text, piece by piece

Documents are written one piece after the other, and what is to be found in them, such as links or
the beginnings of sections, is found in the pieces. It is a list then, and that of a text made of
pieces is the lists of the pieces, one after the other.

## Main definitions

* `Text.Gathers` — what is found in a text is what is found in its pieces

## Main results

* `Text.Gathers.flatMap` — what is found in a text written for a list of items
-/

namespace JobNotice.Text

/-- What is found in texts: nothing in the empty one, and in two of them what is found in the one
and then what is found in the other. -/
structure Gathers {β : Type} (found : List Char → List β → Prop) : Prop where
  nil : found [] []
  append {s t : List Char} {l l' : List β} : found s l → found t l' → found (s ++ t) (l ++ l')

namespace Gathers

variable {α β : Type} {found : List Char → List β → Prop} {write : α → List Char} {items : List α}

theorem flatMap (h : Gathers found) {view : α → List β}
    (hitem : ∀ a ∈ items, found (write a) (view a)) :
    found (items.flatMap write) (items.flatMap view) := by
  induction items with
  | nil => exact h.nil
  | cons a rest ih =>
    have hfirst := hitem a (List.mem_cons_self ..)
    exact h.append hfirst (ih fun b hb => hitem b (List.mem_cons_of_mem a hb))

/-- Nothing is found where nothing is found for any item. -/
theorem flatMap_nil (h : Gathers found) (hitem : ∀ a ∈ items, found (write a) []) :
    found (items.flatMap write) [] := by
  have hall := h.flatMap hitem
  rwa [List.flatMap_eq_nil_iff.mpr fun _ _ => rfl] at hall

end Gathers

end JobNotice.Text

/-!
# Sorting

Sorting by insertion: every item is put before the first item that it does not come after. Items
that neither comes before the other keep their order.
-/

set_option autoImplicit false

namespace Beans.Order

variable {α : Type}

/-- A sorted list with a further item. -/
def insertBy (le : α → α → Bool) (a : α) : List α → List α
  | [] => [a]
  | b :: bs => if le a b then a :: b :: bs else b :: insertBy le a bs

/-- The items in increasing order. -/
def sortBy (le : α → α → Bool) (items : List α) : List α := items.foldr (insertBy le) []

/-- Inserting adds the item and nothing else. -/
theorem insertBy_perm (le : α → α → Bool) (a : α) (items : List α) :
    (insertBy le a items).Perm (a :: items) := by
  induction items with
  | nil => exact .refl _
  | cons b bs ih =>
    unfold insertBy
    split
    · exact .refl _
    · exact (ih.cons b).trans (.swap a b bs)

/-- Sorting keeps the items. -/
theorem sortBy_perm (le : α → α → Bool) (items : List α) : (sortBy le items).Perm items := by
  induction items with
  | nil => exact .refl _
  | cons a as ih => exact (insertBy_perm le a _).trans (ih.cons a)

end Beans.Order

import Mathlib.Tactic.Common

/-!
# Orders that fit together

Whether an order is transitive can be said of three outcomes alone: those for the pairs `a b`,
`b c` and `a c`. In this form transitivity passes to lexicographic combinations outcome by outcome,
so that it can be proved by induction for orders of nested data.

## Main definitions

* `Beans.Order.Fits` — the outcome for `a c` fits those for `a b` and `b c`.

## Main results

* `Beans.Order.Fits.then` — outcomes that fit combine to outcomes that fit.
* `Beans.Order.fits_of_transCmp`, `Beans.Order.transCmp_of_fits` — an order is a total preorder
  exactly if swapping its arguments swaps its outcome and all its outcomes fit.
-/

set_option autoImplicit false

open Std

namespace Beans.Order

/-- The outcome `z` for the ends of a chain fits the outcomes `x` and `y` for its two steps: a step
between equals changes nothing, and two steps in one direction lead in that direction. -/
structure Fits (x y z : Ordering) : Prop where
  /-- The first step is between equals. -/
  left : x = .eq → z = y
  /-- The second step is between equals. -/
  right : y = .eq → z = x
  /-- Both steps have one direction. -/
  both : x = y → z = x

/-- Outcomes that fit combine to outcomes that fit. -/
theorem Fits.then {x y z x' y' z' : Ordering} (h : Fits x y z) (h' : Fits x' y' z') :
    Fits (x.then x') (y.then y') (z.then z') := by
  obtain ⟨hl, hr, hb⟩ := h
  obtain ⟨hl', hr', hb'⟩ := h'
  cases x <;> cases y <;> simp_all <;> constructor <;> simp_all

/-- Outcomes that fit keep to the first of two equal things. -/
theorem Fits.isLE {x y z : Ordering} (h : Fits x y z) (hx : x.isLE) (hy : y.isLE) : z.isLE := by
  obtain ⟨hl, hr, hb⟩ := h
  cases x <;> cases y <;> simp_all

variable {α : Type} {cmp : α → α → Ordering}

/-- The outcomes of a total preorder fit. -/
theorem fits_of_transCmp (cmp : α → α → Ordering) [TransCmp cmp] (a b c : α) :
    Fits (cmp a b) (cmp b c) (cmp a c) where
  left h := TransCmp.congr_left h
  right h := (TransCmp.congr_right h).symm
  both h := by
    cases hab : cmp a b with
    | lt => exact TransCmp.lt_trans hab (h ▸ hab)
    | eq => exact TransCmp.eq_trans hab (h ▸ hab)
    | gt => exact TransCmp.gt_trans hab (h ▸ hab)

/-- An order whose outcomes fit, and are swapped with its arguments, is a total preorder. -/
theorem transCmp_of_fits (hswap : ∀ a b, cmp a b = (cmp b a).swap)
    (hfits : ∀ a b c, Fits (cmp a b) (cmp b c) (cmp a c)) : TransCmp cmp where
  eq_swap {a b} := hswap a b
  isLE_trans {a b c} hab hbc := (hfits a b c).isLE hab hbc

/-- An order is a total preorder: everything equals itself, swapping two things swaps their order,
and what does not come after something does not come after what that does not come after. -/
structure TotalPreorder (cmp : α → α → Ordering) : Prop where
  refl : ∀ a, cmp a a = .eq
  swap : ∀ a b, cmp a b = (cmp b a).swap
  trans : ∀ a b c, cmp a b ≠ .gt → cmp b c ≠ .gt → cmp a c ≠ .gt

/-- The class of total preorders in the library says the same. -/
theorem TotalPreorder.of_transCmp (cmp : α → α → Ordering) [TransCmp cmp] : TotalPreorder cmp where
  refl _ := ReflCmp.compare_self
  swap _ _ := OrientedCmp.eq_swap
  trans _ _ _ hab hbc := Ordering.isLE_iff_ne_gt.mp <|
    TransCmp.isLE_trans (Ordering.isLE_iff_ne_gt.mpr hab) (Ordering.isLE_iff_ne_gt.mpr hbc)

end Beans.Order

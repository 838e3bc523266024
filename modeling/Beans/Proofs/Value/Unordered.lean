import Mathlib.Tactic.Common
import Beans.Proofs.Order.Sorted
import Beans.Proofs.Value.Equality
import Beans.Proofs.Value.Order

/-!
# Sets and maps in any order

Sets and maps are compared item by item in increasing order. The order they are stored in would make
no difference if sorting always led to the same list; but the order of values is a preorder, and
what is tied in it keeps the stored order. So equality ignores the stored order exactly if it holds
of all items that are tied. It does for items without beans and objects. It does not for beans: they
are ordered by the values that they show, but are equal only if the names of their properties are.

## Main results

* `Beans.Value.same_of_perm_iff` — when equality ignores the stored order.
* `Beans.Value.same_set_of_plain`, `Beans.Value.same_map_of_plain` — it does for plain items.
-/

set_option autoImplicit false

open Std

namespace Beans

open Beans.Order

namespace Value

/-- The order of entries: by key, then by value. -/
def compareEntry (e f : Value × Value) : Ordering := (e.1.compare f.1).then (e.2.compare f.2)

/-- The order of entries is a total preorder. -/
instance transCmp_compareEntry : TransCmp compareEntry := by
  refine transCmp_of_fits (fun e f => ?_) fun e f g => ?_
  · have hswap := (TotalPreorder.of_transCmp Value.compare).swap
    rw [compareEntry, compareEntry, Ordering.swap_then, hswap e.1, hswap e.2]
  · exact .then (fits_of_transCmp Value.compare _ _ _) (fits_of_transCmp Value.compare _ _ _)

/-- Sets are equal if their items are, one by one in increasing order. -/
lemma same_set_iff (xs ys : List Value) :
    (set xs).same (set ys) = true ↔
      List.Forall₂ (fun x y => x.same y = true) (sort xs) (sort ys) := by
  have hsort (xs : List Value) :
      Observation.sortBy Identity.compare (xs.map observe) = (sort xs).map observe :=
    sortBy_map (Observation.leBy Identity.compare) observe xs
  rw [Value.same, observe_set, observe_set, hsort, hsort]
  change Observation.sameAll _ _ = true ↔ _
  rw [Observation.sameAll_iff, List.forall₂_map_left_iff, List.forall₂_map_right_iff]
  rfl

/-- Maps are equal if their entries are, one by one in increasing order. -/
lemma same_map_iff (es fs : List (Value × Value)) :
    (map es).same (map fs) = true ↔
      List.Forall₂ (fun e f => e.1.same f.1 = true ∧ e.2.same f.2 = true)
        (sortBy (leOf compareEntry) es) (sortBy (leOf compareEntry) fs) := by
  let observeEntry (e : Value × Value) := (e.1.observe, e.2.observe)
  have hsort (es : List (Value × Value)) :
      Observation.sortEntriesBy Identity.compare (es.map observeEntry) =
        (sortBy (leOf compareEntry) es).map observeEntry :=
    sortBy_map (Observation.leEntryBy Identity.compare) observeEntry es
  rw [Value.same, observe_map, observe_map, Observation.ofEntriesBy, Observation.ofEntriesBy, hsort,
    hsort]
  change (Observation.sameAll _ _ && Observation.sameAll _ _) = true ↔ _
  simp only [Bool.and_eq_true, Observation.sameAll_iff, List.map_map, Function.comp_def,
    List.forall₂_map_left_iff, List.forall₂_map_right_iff]
  exact forall₂_and

/-! ## Ties -/

end Value

/-- Without beans and objects. -/
inductive Observation.Plain : Observation → Prop
  | scalar (s : Scalar) : Plain (.scalar s)
  | list {items : List Observation} (hitems : ∀ a ∈ items, Plain a) : Plain (.list items)
  | set {items : List Observation} (hitems : ∀ a ∈ items, Plain a) : Plain (.set items)
  | map {keys values : List Observation} (hkeys : ∀ a ∈ keys, Plain a)
      (hvalues : ∀ a ∈ values, Plain a) : Plain (.map keys values)
  | absent : Plain .absent
  | present {a : Observation} (ha : Plain a) : Plain (.present a)

namespace Observation

/-- Tied sequences are tied item by item. -/
lemma forall₂_of_compareAllBy {objects : Identity → Identity → Ordering} {as bs : List Observation}
    (h : compareAllBy objects as bs = .eq) :
    List.Forall₂ (fun a b => compareBy objects a b = .eq) as bs := by
  induction as generalizing bs with
  | nil =>
    cases bs with
    | nil => exact .nil
    | cons b bs => cases h
  | cons a as ih =>
    cases bs with
    | nil => cases h
    | cons b bs =>
      obtain ⟨hab, h⟩ := Ordering.then_eq_eq.mp h
      exact .cons hab (ih h)

/-- Tied observations are of one rank. -/
lemma rank_eq_of_compareBy {objects : Identity → Identity → Ordering} {a b : Observation}
    (h : compareBy objects a b = .eq) : a.rank = b.rank := by
  by_contra hne
  rw [compareBy_of_rank_ne objects hne] at h
  exact hne (Nat.compare_eq_eq.mp h)

/-- Plain observations that are tied are equal. -/
theorem Plain.same_of_compareBy {objects : Identity → Identity → Ordering} {a b : Observation}
    (ha : a.Plain) (hb : b.Plain) (h : compareBy objects a b = .eq) : a.same b = true := by
  have hscalar (s : Scalar) (n : Nat) : n + 5 ≠ s.rank := by
    cases s <;> simp [Scalar.rank]
  have hrank := rank_eq_of_compareBy h
  induction ha generalizing b with
  | scalar s =>
    cases hb with
    | scalar t => exact decide_eq_true (Scalar.eq_of_compare h)
    | _ => exact absurd hrank.symm (hscalar s _)
  | list _ ih =>
    cases hb with
    | list hbs =>
      refine sameAll_iff.mpr ?_
      exact Order.forall₂_imp_of_mem (forall₂_of_compareAllBy h) fun x hx y hy hxy =>
        ih x hx (hbs y hy) hxy (rank_eq_of_compareBy hxy)
    | scalar t => exact absurd hrank (hscalar t _)
    | _ => cases hrank
  | set _ ih =>
    cases hb with
    | set hbs =>
      refine sameAll_iff.mpr ?_
      exact Order.forall₂_imp_of_mem (forall₂_of_compareAllBy h) fun x hx y hy hxy =>
        ih x hx (hbs y hy) hxy (rank_eq_of_compareBy hxy)
    | scalar t => exact absurd hrank (hscalar t _)
    | _ => cases hrank
  | map _ _ ihk ihv =>
    cases hb with
    | map hks hvs =>
      obtain ⟨hkeys, hvalues⟩ := Ordering.then_eq_eq.mp h
      refine Bool.and_eq_true_iff.mpr ⟨sameAll_iff.mpr ?_, sameAll_iff.mpr ?_⟩
      · exact Order.forall₂_imp_of_mem (forall₂_of_compareAllBy hkeys) fun x hx y hy hxy =>
          ihk x hx (hks y hy) hxy (rank_eq_of_compareBy hxy)
      · exact Order.forall₂_imp_of_mem (forall₂_of_compareAllBy hvalues) fun x hx y hy hxy =>
          ihv x hx (hvs y hy) hxy (rank_eq_of_compareBy hxy)
    | scalar t => exact absurd hrank (hscalar t _)
    | _ => cases hrank
  | absent =>
    cases hb with
    | absent => rfl
    | present => cases h
    | scalar t => exact absurd hrank (hscalar t _)
    | _ => cases hrank
  | present _ ih =>
    cases hb with
    | present hb => exact ih hb h (rank_eq_of_compareBy h)
    | absent => cases h
    | scalar t => exact absurd hrank (hscalar t _)
    | _ => cases hrank

end Observation

namespace Value

/-- Sets of the same items are equal, in whatever order these are, exactly if all tied items are. -/
lemma same_set_of_perm_iff (xs : List Value) :
    (∀ ys, xs.Perm ys → (set xs).same (set ys) = true) ↔
      ∀ x ∈ xs, ∀ y ∈ xs, x.compare y = .eq → x.same y = true := by
  simp only [same_set_iff]
  exact forall_perm_iff xs

/-- Maps of the same entries are equal, in whatever order these are, exactly if all tied entries
are. -/
lemma same_map_of_perm_iff (es : List (Value × Value)) :
    (∀ fs, es.Perm fs → (map es).same (map fs) = true) ↔
      ∀ e ∈ es, ∀ f ∈ es, e.1.compare f.1 = .eq → e.2.compare f.2 = .eq →
        e.1.same f.1 = true ∧ e.2.same f.2 = true := by
  simp only [same_map_iff]
  rw [forall_perm_iff es]
  refine forall₄_congr fun e _ f _ => ?_
  rw [compareEntry, Ordering.then_eq_eq, and_imp]

/-- Without beans and objects, sets of the same items are equal. -/
theorem same_set_of_plain {xs ys : List Value} (hxs : ∀ x ∈ xs, x.observe.Plain)
    (hperm : xs.Perm ys) : (set xs).same (set ys) = true :=
  (same_set_of_perm_iff xs).mpr (fun x hx y hy => (hxs x hx).same_of_compareBy (hxs y hy)) ys hperm

/-- Without beans and objects, maps of the same entries are equal. -/
theorem same_map_of_plain {es fs : List (Value × Value)}
    (hes : ∀ e ∈ es, e.1.observe.Plain ∧ e.2.observe.Plain) (hperm : es.Perm fs) :
    (map es).same (map fs) = true :=
  (same_map_of_perm_iff es).mpr (fun e he f hf hkey hvalue =>
    ⟨(hes e he).1.same_of_compareBy (hes f hf).1 hkey,
      (hes e he).2.same_of_compareBy (hes f hf).2 hvalue⟩) fs hperm

end Value

end Beans

import Mathlib.Tactic.Common
import Beans.Order.Sort
import Beans.Proofs.Order.Pointwise
import Beans.Proofs.Order.Transitive

/-!
# Sorting by a total preorder

A total preorder may hold two different things for equal. Sorted lists of the same items then agree
only up to such ties; and any two tied items can be made to stand at one place of two such lists.

## Main definitions

* `Beans.Order.Ties` — two lists differ in ties only.

## Main results

* `Beans.Order.sortBy_pairwise` — the result of sorting is in order.
* `Beans.Order.sortBy_eq_self` — sorting leaves a list alone that is in order.
* `Beans.Order.ties_sortBy` — sorted lists of the same items agree up to ties.
* `Beans.Order.forall_perm_iff` — they agree in a relation, in whatever order the items were, exactly
  if the relation holds of all ties.
-/

set_option autoImplicit false

open Std List

namespace Beans.Order

variable {α β : Type}

/-- Whether the first of two things does not come after the second. -/
def leOf (cmp : α → α → Ordering) (a b : α) : Bool := cmp a b != .gt

/-- Two lists that differ in ties only. -/
def Ties (cmp : α → α → Ordering) : List α → List α → Prop := Forall₂ fun a b => cmp a b = .eq

/-- Images are sorted as their sources are. -/
theorem sortBy_map (le : β → β → Bool) (f : α → β) (items : List α) :
    sortBy le (items.map f) = (sortBy (fun a b => le (f a) (f b)) items).map f := by
  have hinsert (a : α) (bs : List α) :
      insertBy le (f a) (bs.map f) = (insertBy (fun a b => le (f a) (f b)) a bs).map f := by
    induction bs with
    | nil => rfl
    | cons b bs ih =>
      simp only [map_cons, insertBy, ih]
      split <;> rfl
  induction items with
  | nil => rfl
  | cons a items ih =>
    change insertBy le (f a) (sortBy le (items.map f)) = _
    rw [ih, hinsert]
    rfl

/-- Sorting compares nothing but the items. -/
theorem sortBy_congr {le le' : α → α → Bool} {items : List α}
    (h : ∀ a ∈ items, ∀ b ∈ items, le a b = le' a b) : sortBy le items = sortBy le' items := by
  have hinsert (a : α) (bs : List α) (hbs : ∀ b ∈ bs, le a b = le' a b) :
      insertBy le a bs = insertBy le' a bs := by
    induction bs with
    | nil => rfl
    | cons b bs ih =>
      obtain ⟨hb, hbs⟩ := forall_mem_cons.mp hbs
      rw [insertBy, insertBy, hb, ih hbs]
  induction items with
  | nil => rfl
  | cons a items ih =>
    change insertBy le a (sortBy le items) = insertBy le' a (sortBy le' items)
    rw [← ih fun b hb c hc => h b (mem_cons_of_mem a hb) c (mem_cons_of_mem a hc)]
    refine hinsert a _ fun b hb => h a mem_cons_self b (mem_cons_of_mem a ?_)
    exact (sortBy_perm le items).mem_iff.mp hb

/-! ## In order -/

variable {cmp : α → α → Ordering}

lemma leOf_iff {a b : α} : leOf cmp a b = true ↔ (cmp a b).isLE = true := by
  simp [leOf, Ordering.isLE_iff_ne_gt]

/-- Sorting leaves a list alone that is in order. -/
theorem sortBy_eq_self {items : List α} (h : items.Pairwise fun a b => leOf cmp a b = true) :
    sortBy (leOf cmp) items = items := by
  induction items with
  | nil => rfl
  | cons a items ih =>
    obtain ⟨ha, hitems⟩ := pairwise_cons.mp h
    change insertBy (leOf cmp) a (sortBy (leOf cmp) items) = a :: items
    rw [ih hitems]
    cases items with
    | nil => rfl
    | cons b items => rw [insertBy, if_pos (ha b mem_cons_self)]

variable [TransCmp cmp]

lemma leOf_trans {a b c : α} (hab : leOf cmp a b = true) (hbc : leOf cmp b c = true) :
    leOf cmp a c = true :=
  leOf_iff.mpr (TransCmp.isLE_trans (leOf_iff.mp hab) (leOf_iff.mp hbc))

lemma leOf_of_not {a b : α} (h : ¬leOf cmp a b = true) : leOf cmp b a = true := by
  rw [leOf_iff, Bool.not_eq_true, Ordering.isLE_eq_false] at h
  rw [leOf_iff, OrientedCmp.lt_of_gt h]
  rfl

/-- Things that are tied come before and after the same things. -/
lemma leOf_congr {a b c d : α} (hac : cmp a c = .eq) (hbd : cmp b d = .eq) :
    leOf cmp a b = leOf cmp c d := by
  rw [leOf, leOf, TransCmp.congr_left hac, TransCmp.congr_right hbd]

/-- Inserting an item keeps a list in order. -/
lemma insertBy_pairwise (a : α) {bs : List α} (h : bs.Pairwise fun b c => leOf cmp b c = true) :
    (insertBy (leOf cmp) a bs).Pairwise fun b c => leOf cmp b c = true := by
  induction bs with
  | nil => exact pairwise_singleton _ a
  | cons b bs ih =>
    obtain ⟨hb, hbs⟩ := pairwise_cons.mp h
    unfold insertBy
    split
    case isTrue hab =>
      exact pairwise_cons.mpr ⟨forall_mem_cons.mpr ⟨hab, fun c hc => leOf_trans hab (hb c hc)⟩, h⟩
    case isFalse hab =>
      refine pairwise_cons.mpr ⟨fun c hc => ?_, ih hbs⟩
      rcases mem_cons.mp ((insertBy_perm _ a bs).mem_iff.mp hc) with rfl | hc
      · exact leOf_of_not hab
      · exact hb c hc

/-- The result of sorting is in order. -/
theorem sortBy_pairwise (items : List α) :
    (sortBy (leOf cmp) items).Pairwise fun a b => leOf cmp a b = true := by
  induction items with
  | nil => exact .nil
  | cons a items ih => exact insertBy_pairwise a ih

/-! ## Ties -/

lemma Ties.refl (as : List α) : Ties cmp as as :=
  forall₂_same.mpr fun _ _ => ReflCmp.compare_self

lemma Ties.symm {as bs : List α} (h : Ties cmp as bs) : Ties cmp bs as :=
  Forall₂.flip (h.imp fun _ _ => OrientedCmp.eq_comm.mp)

lemma Ties.trans {as bs cs : List α} (h : Ties cmp as bs) (h' : Ties cmp bs cs) :
    Ties cmp as cs := by
  induction h generalizing cs with
  | nil => exact h'
  | cons hab _ ih =>
    cases h' with
    | cons hbc h' => exact .cons (TransCmp.eq_trans hab hbc) (ih h')

/-- Inserting keeps ties. -/
lemma Ties.insertBy (a : α) {bs cs : List α} (h : Ties cmp bs cs) :
    Ties cmp (insertBy (leOf cmp) a bs) (Order.insertBy (leOf cmp) a cs) := by
  induction h with
  | nil => exact .cons ReflCmp.compare_self .nil
  | @cons b c bs cs hbc h ih =>
    rw [Order.insertBy, Order.insertBy, leOf_congr (ReflCmp.compare_self : cmp a a = .eq) hbc]
    split
    · exact .cons ReflCmp.compare_self (.cons hbc h)
    · exact .cons hbc ih

/-- The order of insertion at the front matters to ties only. -/
lemma ties_insertBy_front {a b : α} {cs : List α} (ha : insertBy (leOf cmp) a cs = a :: cs)
    (hb : insertBy (leOf cmp) b cs = b :: cs) :
    Ties cmp (insertBy (leOf cmp) a (b :: cs)) (insertBy (leOf cmp) b (a :: cs)) := by
  rw [insertBy, insertBy, ha, hb]
  split <;> split
  case isTrue.isTrue hab hba =>
    have htie := OrientedCmp.isLE_antisymm (leOf_iff.mp hab) (leOf_iff.mp hba)
    exact .cons htie (.cons (OrientedCmp.eq_comm.mp htie) (Ties.refl cs))
  case isFalse.isFalse hab hba => exact absurd (leOf_of_not hab) hba
  all_goals exact Ties.refl _

/-- The order of insertion matters to ties only. -/
lemma ties_insertBy_comm (a b : α) (cs : List α) :
    Ties cmp (insertBy (leOf cmp) a (insertBy (leOf cmp) b cs))
      (insertBy (leOf cmp) b (insertBy (leOf cmp) a cs)) := by
  induction cs with
  | nil => exact ties_insertBy_front rfl rfl
  | cons c cs ih =>
    have hfront (x : α) (hx : leOf cmp x c = true) :
        insertBy (leOf cmp) x (c :: cs) = x :: c :: cs := if_pos hx
    have hlater (x : α) (hx : ¬leOf cmp x c = true) :
        insertBy (leOf cmp) x (c :: cs) = c :: insertBy (leOf cmp) x cs := if_neg hx
    by_cases hac : leOf cmp a c = true <;> by_cases hbc : leOf cmp b c = true
    · rw [hfront a hac, hfront b hbc]
      exact ties_insertBy_front (hfront a hac) (hfront b hbc)
    · -- the first comes before the other item, and so before the second
      have hba : ¬leOf cmp b a = true := fun h => hbc (leOf_trans h hac)
      rw [hlater b hbc, hfront a hac, insertBy, if_pos hac, insertBy, if_neg hba, hlater b hbc]
      exact Ties.refl _
    · have hab : ¬leOf cmp a b = true := fun h => hac (leOf_trans h hbc)
      rw [hlater a hac, hfront b hbc, insertBy, if_neg hab, hlater a hac, insertBy, if_pos hbc]
      exact Ties.refl _
    · rw [hlater a hac, hlater b hbc, insertBy, if_neg hac, insertBy, if_neg hbc]
      exact .cons ReflCmp.compare_self ih

/-- Sorted lists of the same items agree up to ties. -/
theorem ties_sortBy {as bs : List α} (h : as.Perm bs) :
    Ties cmp (sortBy (leOf cmp) as) (sortBy (leOf cmp) bs) := by
  induction h with
  | nil => exact .nil
  | cons a _ ih => exact ih.insertBy a
  | swap a b cs => exact ties_insertBy_comm b a _
  | trans _ _ ih ih' => exact ih.trans ih'

/-- What is in order stays so if it is replaced by what is tied with it. -/
lemma Ties.pairwise {as bs : List α} (h : Ties cmp as bs)
    (has : as.Pairwise fun a b => leOf cmp a b = true) :
    bs.Pairwise fun a b => leOf cmp a b = true := by
  induction h with
  | nil => exact .nil
  | @cons a b as bs hab h ih =>
    obtain ⟨ha, has⟩ := pairwise_cons.mp has
    refine pairwise_cons.mpr ⟨fun d hd => ?_, ih has⟩
    obtain ⟨c, hc, hdc⟩ := exists_of_forall₂ (Ties.symm h) hd
    exact leOf_congr hab (OrientedCmp.eq_comm.mp hdc) ▸ ha c hc

/-- If sorted lists agree in a relation whatever the order of the items was, it holds of two tied
items, both ways: each can stand at the place of the other. -/
lemma rel_of_forall_perm {R : α → α → Prop} {items before between after : List α} {a b : α}
    (h : ∀ items', items.Perm items' →
      Forall₂ R (sortBy (leOf cmp) items) (sortBy (leOf cmp) items'))
    (hsorted : sortBy (leOf cmp) items = before ++ a :: (between ++ b :: after))
    (hab : cmp a b = .eq) : R a b ∧ R b a := by
  let swapped := before ++ b :: (between ++ a :: after)
  have hties : Ties cmp (sortBy (leOf cmp) items) swapped := by
    rw [hsorted]
    refine rel_append (Ties.refl before) (.cons hab ?_)
    exact rel_append (Ties.refl between) (.cons (OrientedCmp.eq_comm.mp hab) (Ties.refl after))
  have hperm : items.Perm swapped := by
    refine (sortBy_perm (leOf cmp) items).symm.trans (hsorted ▸ Perm.append_left before ?_)
    exact (perm_middle.cons a).trans ((Perm.swap _ _ _).trans (perm_middle.symm.cons b))
  have hrel := h swapped hperm
  rw [sortBy_eq_self (hties.pairwise (sortBy_pairwise items)), hsorted] at hrel
  refine ⟨rel_of_forall₂_append hrel rfl, ?_⟩
  have happend (x y : α) : before ++ x :: (between ++ y :: after) =
      (before ++ x :: between) ++ y :: after := by simp
  rw [happend a b, show swapped = _ from happend b a] at hrel
  exact rel_of_forall₂_append hrel (by simp)

/-- **Sorted lists and ties.** Sorted lists of the same items agree in a relation, in whatever order
the items were, exactly if the relation holds of all items that are tied.

**Proof sketch.** Sorted lists of the same items agree up to ties. Conversely, of two tied items
the one stands in the sorted list at some place; with the other one put there, and it in the place
of the other one, the list is still sorted. -/
theorem forall_perm_iff {R : α → α → Prop} (items : List α) :
    (∀ items', items.Perm items' →
      Forall₂ R (sortBy (leOf cmp) items) (sortBy (leOf cmp) items')) ↔
      ∀ a ∈ items, ∀ b ∈ items, cmp a b = .eq → R a b := by
  have hmem (items : List α) (a : α) : a ∈ sortBy (leOf cmp) items ↔ a ∈ items :=
    (sortBy_perm _ items).mem_iff
  constructor
  · intro h a ha b hb hab
    obtain ⟨before, after, hsorted⟩ := append_of_mem ((hmem items a).mpr ha)
    have hb := hsorted ▸ (hmem items b).mpr hb
    rcases mem_append.mp hb with hb | hb
    · obtain ⟨before, between, rfl⟩ := append_of_mem hb
      rw [append_assoc] at hsorted
      exact (rel_of_forall_perm h hsorted (OrientedCmp.eq_comm.mp hab)).2
    rcases mem_cons.mp hb with rfl | hb
    · exact forall₂_same.mp (h items (.refl _)) b ((hmem items b).mpr ha)
    · obtain ⟨between, after, rfl⟩ := append_of_mem hb
      exact (rel_of_forall_perm h hsorted hab).1
  · intro h items' hitems
    refine forall₂_imp_of_mem (ties_sortBy hitems) fun a ha b hb hab => ?_
    exact h a ((hmem items a).mp ha) b (hitems.mem_iff.mpr ((hmem items' b).mp hb)) hab

end Beans.Order

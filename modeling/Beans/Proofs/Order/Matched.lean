import Mathlib.Data.List.Perm.Subperm
import Mathlib.Data.List.Sort
import Mathlib.Tactic.Common
import Beans.Proofs.Order.Sorted

/-!
# Matching lists in any order

Tables are compared in three ways: each item of one is looked up in the other; they are gone through
side by side, both being in order; or they are sorted first. If related items have one key, and no
key comes twice, all three say that the items of the two can be paired.

## Main definitions

* `Beans.Order.ltOf` — coming strictly before.
* `Beans.Order.Matched` — the items of two lists are related in some order.

## Main results

* `Beans.Order.matched_iff_exists` — looking up each item pairs all of them.
* `Beans.Order.matched_iff_forall₂` — in lists that are in strict order, it pairs them side by side.
* `Beans.Order.forall₂_sortBy_iff_matched` — so it does after sorting.
-/

set_option autoImplicit false

open Std List

namespace Beans.Order

/-- The first of two things comes strictly before the second. -/
def ltOf {α : Type} (cmp : α → α → Ordering) (a b : α) : Prop := cmp a b = .lt

/-- Of two things only one comes strictly before the other. -/
instance asymm_ltOf {α : Type} {cmp : α → α → Ordering} [OrientedCmp cmp] : Asymm (ltOf cmp) where
  asymm a b hab hba := by
    rw [ltOf, OrientedCmp.gt_of_lt hab] at hba
    cases hba

/-- The items of two lists, as many in both, are related in some order. -/
def Matched {α β : Type} (R : α → β → Prop) (as : List α) (bs : List β) : Prop :=
  ∃ cs, cs.Perm bs ∧ Forall₂ R as cs

variable {α β κ : Type} {R S : α → β → Prop} {as : List α} {bs : List β}

/-- The relation may be weakened for the items of the two lists alone. -/
lemma Matched.imp_of_mem (h : Matched R as bs) (himp : ∀ a ∈ as, ∀ b ∈ bs, R a b → S a b) :
    Matched S as bs := by
  obtain ⟨cs, hperm, hall⟩ := h
  exact ⟨cs, hperm, forall₂_imp_of_mem hall fun a ha b hb => himp a ha b (hperm.mem_iff.mp hb)⟩

/-- The relation may be replaced by one that is the same for the items of the two lists. -/
lemma matched_congr (h : ∀ a ∈ as, ∀ b ∈ bs, (R a b ↔ S a b)) : Matched R as bs ↔ Matched S as bs :=
  ⟨fun hR => hR.imp_of_mem fun a ha b hb => (h a ha b hb).mp,
    fun hS => hS.imp_of_mem fun a ha b hb => (h a ha b hb).mpr⟩

/-- Images are matched as their sources are. -/
lemma matched_map_iff {γ δ : Type} {R : γ → δ → Prop} {f : α → γ} {g : β → δ} :
    Matched R (as.map f) (bs.map g) ↔ Matched (fun a b => R (f a) (g b)) as bs := by
  constructor
  · rintro ⟨cs, hperm, hall⟩
    obtain ⟨ds, hds, hdperm⟩ : Relation.Comp (Forall₂ fun c b => c = g b) Perm cs bs :=
      perm_comp_forall₂ hperm (forall₂_map_left_iff.mpr (forall₂_same.mpr fun _ _ => rfl))
    refine ⟨ds, hdperm, ?_⟩
    rw [← forall₂_map_right_iff (R := fun a d => R (f a) d), ← forall₂_map_left_iff]
    obtain rfl : cs = ds.map g := by
      simpa only [map_id'] using map_eq_of_forall₂ (f := fun c => c) hds
    exact hall
  · rintro ⟨cs, hperm, hall⟩
    exact ⟨cs.map g, hperm.map g, forall₂_map_left_iff.mpr (forall₂_map_right_iff.mpr hall)⟩

/-- The order of the items makes no difference. -/
lemma Matched.perm {as' : List α} {bs' : List β} (h : Matched R as bs) (has : as'.Perm as)
    (hbs : bs.Perm bs') : Matched R as' bs' := by
  obtain ⟨cs, hperm, hall⟩ := h
  obtain ⟨ds, hds, hdperm⟩ := perm_comp_forall₂ has hall
  exact ⟨ds, hdperm.trans (hperm.trans hbs), hds⟩

/-- Matched items have the same images, in some order. -/
lemma Matched.map_perm {γ : Type} {f : α → γ} {g : β → γ} (h : Matched R as bs)
    (hfg : ∀ a ∈ as, ∀ b ∈ bs, R a b → f a = g b) : (as.map f).Perm (bs.map g) := by
  obtain ⟨cs, hperm, hall⟩ := h
  rw [map_eq_of_forall₂ (forall₂_imp_of_mem hall fun a ha b hb => hfg a ha b (hperm.mem_iff.mp hb))]
  exact hperm.map g

/-! ## Keys -/

section

variable {key : α → κ} {key' : β → κ}

/-- **Looking up each item pairs all of them.**

**Proof sketch.** What is found for the items of the first list has different keys, as they do. So it
is different items of the second list, and as many as it has. -/
theorem matched_iff_exists (hkeys : (as.map key).Nodup)
    (hR : ∀ a ∈ as, ∀ b ∈ bs, R a b → key a = key' b) :
    Matched R as bs ↔ as.length = bs.length ∧ ∀ a ∈ as, ∃ b ∈ bs, R a b := by
  constructor
  · rintro ⟨cs, hperm, hall⟩
    refine ⟨hall.length_eq.trans hperm.length_eq, fun a ha => ?_⟩
    obtain ⟨b, hb, hab⟩ := exists_of_forall₂ hall ha
    exact ⟨b, hperm.mem_iff.mp hb, hab⟩
  · rintro ⟨hlength, hfound⟩
    obtain ⟨cs, hcs⟩ := exists_forall₂ hfound
    have hsubset : cs ⊆ bs := fun c hc => by
      obtain ⟨a, -, hmem, -⟩ := exists_of_forall₂ hcs.flip hc
      exact hmem
    have hsame : as.map key = cs.map key' :=
      map_eq_of_forall₂ (forall₂_imp_of_mem hcs fun a ha c _ hac => hR a ha c hac.1 hac.2)
    have hnodup : cs.Nodup := .of_map key' (hsame ▸ hkeys)
    refine ⟨cs, ?_, hcs.imp fun _ _ hac => hac.2⟩
    refine (subperm_of_subset hnodup hsubset).perm_of_length_le ?_
    exact (hlength.symm.trans hcs.length_eq).le

variable {lt : κ → κ → Prop} [Asymm lt]

/-- **Lists that are in strict order by key are matched side by side.** -/
theorem matched_iff_forall₂ (has : (as.map key).Pairwise lt) (hbs : (bs.map key').Pairwise lt)
    (hR : ∀ a ∈ as, ∀ b ∈ bs, R a b → key a = key' b) :
    Matched R as bs ↔ Forall₂ R as bs := by
  refine ⟨?_, fun h => ⟨bs, .refl bs, h⟩⟩
  rintro ⟨cs, hperm, hall⟩
  have hsame : as.map key = cs.map key' :=
    map_eq_of_forall₂ (forall₂_imp_of_mem hall fun a ha c hc =>
      hR a ha c (hperm.mem_iff.mp hc))
  have hcs := pairwise_map.mp (hsame ▸ has)
  obtain rfl : cs = bs :=
    hperm.eq_of_pairwise (fun b c _ _ hbc hcb => absurd hcb (Asymm.asymm _ _ hbc)) hcs
      (pairwise_map.mp hbs)
  exact hall

end

section

variable {cmp : α → α → Ordering} [TransCmp cmp] {key : α → κ} {lt : κ → κ → Prop}

/-- Sorting puts different keys in strict order, if it goes by key first. -/
lemma sortBy_pairwise_key (hkeys : (as.map key).Nodup)
    (hlt : ∀ a ∈ as, ∀ b ∈ as, leOf cmp a b = true → key a ≠ key b → lt (key a) (key b)) :
    ((sortBy (leOf cmp) as).map key).Pairwise lt := by
  have hperm := sortBy_perm (leOf cmp) as
  have hnodup := pairwise_map.mp ((hperm.map key).nodup_iff.mpr hkeys)
  refine pairwise_map.mpr (((sortBy_pairwise as).and hnodup).imp_of_mem ?_)
  exact fun ha hb h => hlt _ (hperm.mem_iff.mp ha) _ (hperm.mem_iff.mp hb) h.1 h.2

/-- **Lists are matched if they are related side by side after sorting.** -/
theorem forall₂_sortBy_iff_matched [Asymm lt] {R : α → α → Prop} {bs : List α}
    (has : (as.map key).Nodup) (hbs : (bs.map key).Nodup)
    (hlt : ∀ a b, a ∈ as ∧ b ∈ as ∨ a ∈ bs ∧ b ∈ bs →
      leOf cmp a b = true → key a ≠ key b → lt (key a) (key b))
    (hR : ∀ a ∈ as, ∀ b ∈ bs, R a b → key a = key b) :
    Forall₂ R (sortBy (leOf cmp) as) (sortBy (leOf cmp) bs) ↔ Matched R as bs := by
  have hperm := sortBy_perm (leOf cmp) as
  have hperm' := sortBy_perm (leOf cmp) bs
  have hsorted : ((sortBy (leOf cmp) as).map key).Pairwise lt :=
    sortBy_pairwise_key has fun a ha b hb => hlt a b (.inl ⟨ha, hb⟩)
  have hsorted' : ((sortBy (leOf cmp) bs).map key).Pairwise lt :=
    sortBy_pairwise_key hbs fun a ha b hb => hlt a b (.inr ⟨ha, hb⟩)
  rw [← matched_iff_forall₂ hsorted hsorted'
    fun a ha b hb => hR a (hperm.mem_iff.mp ha) b (hperm'.mem_iff.mp hb)]
  exact ⟨fun h => h.perm hperm.symm hperm', fun h => h.perm hperm hperm'.symm⟩

end

end Beans.Order

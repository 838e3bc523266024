import Mathlib.Data.List.Forall2
import Mathlib.Tactic.Common

/-!
# Pointwise relations

Two lists are related pointwise if they are of one length and their items are related one by one.
The lemmas here speak of a relation that is known of the items of given lists only, as it is in an
induction over nested data.
-/

set_option autoImplicit false

open List

namespace Beans.Order

variable {α β γ : Type} {R : α → β → Prop} {S : β → γ → Prop} {T : α → γ → Prop}

/-- A pointwise relation may be weakened for the items of the two lists alone. -/
lemma forall₂_imp_of_mem {R' : α → β → Prop} {as : List α} {bs : List β}
    (h : Forall₂ R as bs) (himp : ∀ a ∈ as, ∀ b ∈ bs, R a b → R' a b) :
    Forall₂ R' as bs := by
  induction h with
  | nil => exact .nil
  | cons hab _ ih =>
    refine .cons (himp _ mem_cons_self _ mem_cons_self hab) (ih fun a ha b hb => ?_)
    exact himp a (mem_cons_of_mem _ ha) b (mem_cons_of_mem _ hb)

/-- A pointwise relation may be replaced by one that is the same for the items of the two lists. -/
lemma forall₂_congr_of_mem {R' : α → β → Prop} {as : List α} {bs : List β}
    (h : ∀ a ∈ as, ∀ b ∈ bs, (R a b ↔ R' a b)) : Forall₂ R as bs ↔ Forall₂ R' as bs :=
  ⟨fun hR => forall₂_imp_of_mem hR fun a ha b hb => (h a ha b hb).mp,
    fun hR' => forall₂_imp_of_mem hR' fun a ha b hb => (h a ha b hb).mpr⟩

/-- Pointwise relations compose if they do for the items of the three lists. -/
lemma forall₂_trans_of_mem {as : List α} {bs : List β} {cs : List γ} (h : Forall₂ R as bs)
    (h' : Forall₂ S bs cs)
    (htrans : ∀ a ∈ as, ∀ b ∈ bs, ∀ c ∈ cs, R a b → S b c → T a c) : Forall₂ T as cs := by
  induction h generalizing cs with
  | nil =>
    cases h'
    exact .nil
  | cons hab _ ih =>
    cases h' with
    | cons hbc h' =>
      refine .cons (htrans _ mem_cons_self _ mem_cons_self _ mem_cons_self hab hbc)
        (ih h' fun a ha b hb c hc => ?_)
      exact htrans a (mem_cons_of_mem _ ha) b (mem_cons_of_mem _ hb) c
        (mem_cons_of_mem _ hc)

/-- What is in the first of two lists is related to something in the second. -/
lemma exists_of_forall₂ {as : List α} {bs : List β} (h : Forall₂ R as bs) {a : α}
    (ha : a ∈ as) : ∃ b ∈ bs, R a b := by
  induction h with
  | nil => cases ha
  | cons hab _ ih =>
    rcases mem_cons.mp ha with rfl | ha
    · exact ⟨_, mem_cons_self, hab⟩
    · obtain ⟨b, hb, hab⟩ := ih ha
      exact ⟨b, mem_cons_of_mem _ hb, hab⟩

/-- If everything in a list is related to something, the list is related to some list. -/
lemma exists_forall₂ {as : List α} (h : ∀ a ∈ as, ∃ b, R a b) : ∃ bs, Forall₂ R as bs := by
  induction as with
  | nil => exact ⟨[], .nil⟩
  | cons a as ih =>
    obtain ⟨⟨b, hab⟩, has⟩ := forall_mem_cons.mp h
    obtain ⟨bs, hbs⟩ := ih has
    exact ⟨b :: bs, .cons hab hbs⟩

/-- Lists whose items have equal images have equal lists of images. -/
lemma map_eq_of_forall₂ {f : α → γ} {g : β → γ} {as : List α} {bs : List β}
    (h : Forall₂ (fun a b => f a = g b) as bs) : as.map f = bs.map g := by
  induction h with
  | nil => rfl
  | cons hab _ ih => rw [map_cons, map_cons, hab, ih]

/-- Lists are equal if their items are, one by one. -/
lemma eq_of_forall₂ {R : α → α → Prop} {as bs : List α} (h : Forall₂ R as bs)
    (heq : ∀ a b, R a b → a = b) : as = bs := by
  have hmap : as.map id = bs.map id := map_eq_of_forall₂ (h.imp heq)
  rwa [map_id, map_id] at hmap

/-- Going through two lists side by side tells whether they are related pointwise. -/
lemma length_zip_iff {p : α → β → Bool} {as : List α} {bs : List β} :
    (as.length == bs.length && (as.zip bs).all fun x => p x.1 x.2) = true ↔
      Forall₂ (fun a b => p a b = true) as bs := by
  rw [forall₂_iff_zip, Bool.and_eq_true, beq_iff_eq, all_eq_true]
  exact and_congr_right fun _ => Prod.forall

/-- Two pointwise relations are one. -/
lemma forall₂_and {R' : α → β → Prop} {as : List α} {bs : List β} :
    Forall₂ R as bs ∧ Forall₂ R' as bs ↔ Forall₂ (fun a b => R a b ∧ R' a b) as bs := by
  constructor
  · rintro ⟨h, h'⟩
    induction h with
    | nil => exact .nil
    | cons hab _ ih =>
      obtain ⟨hab', h'⟩ := forall₂_cons.mp h'
      exact .cons ⟨hab, hab'⟩ (ih h')
  · exact fun h => ⟨h.imp fun _ _ hab => hab.1, h.imp fun _ _ hab => hab.2⟩

/-- Items at the same place are related. -/
lemma rel_of_forall₂_append {as as' : List α} {bs bs' : List β} {a : α} {b : β}
    (h : Forall₂ R (as ++ a :: as') (bs ++ b :: bs')) (hlength : as.length = bs.length) :
    R a b := by
  induction as generalizing bs with
  | nil =>
    obtain rfl : bs = [] := length_eq_zero_iff.mp hlength.symm
    exact (forall₂_cons.mp h).1
  | cons x as ih =>
    cases bs with
    | nil => cases hlength
    | cons y bs => exact ih (forall₂_cons.mp h).2 (Nat.succ.inj hlength)

end Beans.Order

import Mathlib.Data.List.Nodup
import Mathlib.Tactic.Common
import Beans.Proofs.Bean.Reflexive
import Beans.Proofs.Value.Plain

/-!
# Order and equality of beans

Beans are ordered by the values that they show, in the order in which each of them lists its
properties, and their names are left out. Equality looks every property up by its name, and what
fails to be read is equal to nothing. So neither follows from the other, even if all values are
plain: beans that show the same values under other names are tied without being equal, and beans
that list equal properties in another order are equal without being tied. The two agree on beans
that list the same properties in one order and none of whose properties fails, as it is for records.

## Main definitions

* `Beans.Bean.outline` — the properties that a bean lists, without what it shows under them.

## Main results

* `Beans.Bean.order_and_equality` — when beans are tied, when they are equal, and when both.
* `Beans.Bean.order_and_equality_record` — the two for the beans of a record type.
-/

set_option autoImplicit false

open List

namespace Beans

open Beans.Order Observation

/-! ## Slots in one order -/

namespace Slot

variable {α β : Type}

/-- The slot without what it shows. -/
def outline (s : Slot α) : Slot Unit := s.map fun _ => ()

@[simp]
lemma outline_map (f : α → β) (s : Slot α) : (s.map f).outline = s.outline := by
  cases s <;> rfl

end Slot

/-- Slots that are alike one by one have one outline, none of them fails, and they show related
values.

**Proof sketch.** Both lists are gone through together. The outlines tell which slots show a value,
so that the values stand side by side. -/
lemma Observation.forall₂_slotAlike_iff {R : Observation → Observation → Prop}
    {as bs : List (Slot Observation)} :
    Forall₂ (SlotAlike R) as bs ↔ as.map Slot.outline = bs.map Slot.outline ∧
      (∀ n, .failed n ∉ as) ∧ Forall₂ R (as.filterMap Slot.value?) (bs.filterMap Slot.value?) := by
  constructor
  · intro h
    induction h with
    | nil => exact ⟨rfl, nofun, .nil⟩
    | cons hab _ ih =>
      obtain ⟨houtline, hread, hvalues⟩ := ih
      cases hab with
      | hidden n =>
        exact ⟨congrArg (cons _) houtline, by simpa using hread, hvalues⟩
      | shown n hab =>
        exact ⟨congrArg (cons _) houtline, by simpa using hread, .cons hab hvalues⟩
  · rintro ⟨houtline, hread, hvalues⟩
    induction as generalizing bs with
    | nil =>
      rw [map_eq_nil_iff.mp houtline.symm]
      exact .nil
    | cons s as ih =>
      cases bs with
      | nil => cases houtline
      | cons t bs =>
        obtain ⟨hst, htail⟩ := cons_eq_cons.mp houtline
        have hrest (n : String) : .failed n ∉ as := fun hn => hread n (mem_cons_of_mem s hn)
        cases s with
        | failed n => exact absurd mem_cons_self (hread n)
        | hidden n =>
          cases t with
          | hidden m =>
            cases hst
            exact .cons (.hidden n) (ih htail hrest hvalues)
          | _ => cases hst
        | shown n a =>
          cases t with
          | shown m b =>
            cases hst
            obtain ⟨hab, hvalues⟩ := forall₂_cons.mp hvalues
            exact .cons (.shown n hab) (ih htail hrest hvalues)
          | _ => cases hst

/-- Slots of different names that are alike in some order, and of the same names in one order, are
alike one by one. -/
lemma Observation.slotsAlike_names_iff {R : Observation → Observation → Prop}
    {as bs : List (Slot Observation)} (hnodup : (bs.map Slot.name).Nodup) :
    SlotsAlike R as bs ∧ as.map Slot.name = bs.map Slot.name ↔ Forall₂ (SlotAlike R) as bs := by
  have hnames {cs : List (Slot Observation)} (h : Forall₂ (SlotAlike R) as cs) :
      as.map Slot.name = cs.map Slot.name := by
    refine map_eq_of_forall₂ (h.imp fun s t hst => ?_)
    cases hst <;> rfl
  constructor
  · rintro ⟨⟨cs, hperm, halike⟩, hnames'⟩
    -- a slot and the one in its place have one name, and there is only one slot of that name
    have hsame : Forall₂ (fun s t : Slot Observation => s.name = t.name) cs bs := by
      rw [hnames halike, ← forall₂_eq_eq_eq, forall₂_map_left_iff, forall₂_map_right_iff] at hnames'
      exact hnames'
    have heq : Forall₂ Eq cs bs := forall₂_imp_of_mem hsame fun s hs t ht hname =>
      inj_on_of_nodup_map hnodup (hperm.mem_iff.mp hs) ht hname
    rw [forall₂_eq_eq_eq] at heq
    exact heq ▸ halike
  · exact fun h => ⟨⟨bs, .rfl, h⟩, hnames h⟩

namespace Bean

/-- The properties that a bean lists, without what it shows under them. -/
def outline (b : Bean) : List (Slot Unit) := b.slots.map Slot.outline

/-- The outline is that of what can be seen of the bean. -/
lemma outline_observation (b : Bean) : b.observation.map Slot.outline = b.outline := by
  rw [observation, map_map]
  exact map_congr_left fun s _ => s.outline_map _

/-! ## Order -/

/-- The values that a bean shows are those of its slots. -/
lemma values_observation (b : Bean) :
    b.observation.filterMap Slot.value? = b.flatten.map fun f => f.2.observe := by
  rw [observation, flatten, filterMap_map, map_filterMap]
  refine filterMap_congr fun s _ => ?_
  cases s <;> rfl

/-- Beans are ordered by the values that they show, and then by the names of their types. -/
lemma compare_eq (a b : Bean) :
    (Value.bean a).compare (.bean b) =
      (compareAllBy Identity.compare (a.flatten.map fun f => f.2.observe)
        (b.flatten.map fun f => f.2.observe)).then (Ord.compare a.type.name b.type.name) := by
  rw [Value.compare, Value.compareBy, ← values_observation, ← values_observation,
    ← compareShownBy_eq]
  change compareBy _ (Value.bean a).observe (Value.bean b).observe = _
  rw [Value.observe_bean, Value.observe_bean]
  rfl

section

variable {a b : Bean}

/-- Beans of one type that show plain values are tied if these are equal, one by one. -/
lemma tied_iff (htype : a.type = b.type) (ha : ∀ f ∈ a.flatten, f.2.Plain)
    (hb : ∀ f ∈ b.flatten, f.2.Plain) :
    (Value.bean a).compare (.bean b) = .eq ↔
      Forall₂ (fun f g => f.2.same g.2 = true) a.flatten b.flatten := by
  have hall {as bs : List Observation} : compareAllBy Identity.compare as bs = .eq ↔
      Forall₂ (fun x y => compareBy Identity.compare x y = .eq) as bs :=
    ⟨forall₂_of_compareAllBy, compareAllBy_of_forall₂⟩
  rw [compare_eq, htype, Std.ReflOrd.compare_self, Ordering.then_eq, hall, forall₂_map_left_iff,
    forall₂_map_right_iff]
  exact forall₂_congr_of_mem fun f hf g hg => (ha f hf).compare_eq_iff (hb g hg)

/-! ## Equality -/

/-- Beans of one type are equal if their slots are alike in some order. -/
lemma same_iff_slotsAlike (ha : a.kind.Lawful (a.fields.map Prod.fst))
    (hb : b.kind.Lawful (b.fields.map Prod.fst)) (htype : a.type = b.type) :
    (Value.bean a).same (.bean b) = true ↔
      SlotsAlike (fun x y => x.same y = true) a.observation b.observation := by
  rw [Value.same_bean_of_type ha hb htype]
  exact propertiesSame_iff_slotsAlike ha hb

/-! ## Both -/

/-- No property of a bean fails if none of what can be seen of it does. -/
lemma not_failed_observation_iff :
    (∀ n, .failed n ∉ a.observation) ↔ ∀ n, .failed n ∉ a.slots := by
  refine forall_congr' fun n => not_congr ⟨fun h => ?_, fun h => mem_map.mpr ⟨_, h, rfl⟩⟩
  obtain ⟨s, hs, hfailed⟩ := mem_map.mp h
  cases s <;> cases hfailed
  exact hs

section

variable (ha : a.kind.Lawful (a.fields.map Prod.fst)) (hb : b.kind.Lawful (b.fields.map Prod.fst))
  (htype : a.type = b.type) (hplain : ∀ f ∈ a.flatten, f.2.Plain)
  (hplain' : ∀ f ∈ b.flatten, f.2.Plain)

include ha hb htype hplain hplain'

/-- Beans of one type that show plain values are equal and list their properties in one order if they
are tied, have one outline, and no property fails to be read. -/
lemma same_in_order_iff :
    (Value.bean a).same (.bean b) = true ∧ a.slots.map Slot.name = b.slots.map Slot.name ↔
      (Value.bean a).compare (.bean b) = .eq ∧ a.outline = b.outline ∧
        ∀ n, .failed n ∉ a.slots := by
  have hvalues : Forall₂ (fun x y => x.same y = true) (a.observation.filterMap Slot.value?)
      (b.observation.filterMap Slot.value?) ↔ (Value.bean a).compare (.bean b) = .eq := by
    rw [tied_iff htype hplain hplain', values_observation, values_observation,
      forall₂_map_left_iff, forall₂_map_right_iff]
    rfl
  rw [same_iff_slotsAlike ha hb htype, ← names_observation, ← names_observation,
    slotsAlike_names_iff (nodup_observation hb), forall₂_slotAlike_iff, hvalues,
    not_failed_observation_iff, outline_observation, outline_observation, ← and_assoc, and_comm]

/-- **Order and equality of beans.** Let two beans of one type show plain values. They are tied
exactly if these are equal one by one, in the order in which each bean lists them. They are equal
exactly if their slots are alike in some order. So they are both equal and list their properties in
one order exactly if they are tied, have one outline, and no property fails to be read. -/
theorem order_and_equality :
    ((Value.bean a).compare (.bean b) = .eq ↔
      Forall₂ (fun f g => f.2.same g.2 = true) a.flatten b.flatten) ∧
    ((Value.bean a).same (.bean b) = true ↔
      SlotsAlike (fun x y => x.same y = true) a.observation b.observation) ∧
    ((Value.bean a).same (.bean b) = true ∧ a.slots.map Slot.name = b.slots.map Slot.name ↔
      (Value.bean a).compare (.bean b) = .eq ∧ a.outline = b.outline ∧
        ∀ n, .failed n ∉ a.slots) :=
  ⟨tied_iff htype hplain hplain', same_iff_slotsAlike ha hb htype,
    same_in_order_iff ha hb htype hplain hplain'⟩

end

/-- Two beans without a type, with a set whose items are stored in another order. -/
theorem order_and_equality_flexible :
    let a : Bean := ⟨.flexible [], [("x", .set [.int 1, .int 2]), ("y", .null)]⟩
    let b : Bean := ⟨.flexible [], [("x", .set [.int 2, .int 1]), ("y", .null)]⟩
    (Value.bean a).same (.bean b) = true ∧ (Value.bean a).compare (.bean b) = .eq ∧
      a.outline = b.outline := by
  intro a b
  have hpair (v w : Scalar) :
      ∀ f ∈ [("x", Value.set [.scalar v, .scalar w]), ("y", .null)], f.2.Plain := by
    refine forall_mem_cons.mpr ⟨.set ?_, forall_mem_singleton.mpr (.scalar _)⟩
    exact forall_mem_cons.mpr ⟨.scalar _, forall_mem_singleton.mpr (.scalar _)⟩
  have hsame : (Value.bean a).same (.bean b) = true := by decide +kernel
  obtain ⟨-, -, hboth⟩ := order_and_equality (a := a) (b := b) (by decide : ["x", "y"].Nodup)
    (by decide : ["x", "y"].Nodup) rfl (hpair (.int 1) (.int 2)) (hpair (.int 2) (.int 1))
  obtain ⟨htied, houtline, -⟩ := hboth.mp ⟨hsame, rfl⟩
  exact ⟨hsame, htied, houtline⟩

/-- Neither follows from the other: two entries in another order are equal and not tied, and one entry
under another name is tied and not equal. -/
theorem exists_order_without_equality :
    (∃ a b : Bean, a.kind.Lawful (a.fields.map Prod.fst) ∧ b.kind.Lawful (b.fields.map Prod.fst) ∧
      a.type = b.type ∧ (∀ f ∈ a.flatten, f.2.Plain) ∧ (∀ f ∈ b.flatten, f.2.Plain) ∧
        (Value.bean a).same (.bean b) = true ∧ (Value.bean a).compare (.bean b) = .lt) ∧
    ∃ a b : Bean, a.kind.Lawful (a.fields.map Prod.fst) ∧ b.kind.Lawful (b.fields.map Prod.fst) ∧
      a.type = b.type ∧ (∀ f ∈ a.flatten, f.2.Plain) ∧ (∀ f ∈ b.flatten, f.2.Plain) ∧
        (Value.bean a).same (.bean b) = false ∧ (Value.bean a).compare (.bean b) = .eq := by
  constructor
  · refine ⟨⟨.flexible [], [("a", .int 1), ("b", .int 2)]⟩,
      ⟨.flexible [], [("b", .int 2), ("a", .int 1)]⟩, (by decide : ["a", "b"].Nodup),
      (by decide : ["b", "a"].Nodup), rfl, ?_, ?_, by decide +kernel, by decide +kernel⟩
    all_goals exact forall_mem_cons.mpr ⟨.scalar _, forall_mem_singleton.mpr (.scalar _)⟩
  · refine ⟨⟨.flexible [], [("a", .int 1)]⟩, ⟨.flexible [], [("b", .int 1)]⟩,
      (by decide : ["a"].Nodup), (by decide : ["b"].Nodup), rfl, ?_, ?_, by decide +kernel,
      by decide +kernel⟩
    all_goals exact forall_mem_singleton.mpr (.scalar _)

/-! ## Records -/

variable {t : RecordType} (hkind : a.kind = .record t) (hkind' : b.kind = .record t)
  (hstored : ∀ p ∈ t.stored, ∃ v, a.fields.lookup p.name = some v)
  (hstored' : ∀ p ∈ t.stored, ∃ v, b.fields.lookup p.name = some v)

include hkind hstored

/-- No property of a record fails if all fields are there and each property that is meant to be read
has a source. -/
lemma forall_not_failed_iff : (∀ n, .failed n ∉ a.slots) ↔
    ∀ p ∈ t.properties, p.description.style.isReadable = true → p.source ≠ .absent := by
  have hanswers : (∀ s ∈ a.slots, s.Answers fun _ => True) ↔ ∀ n, .failed n ∉ a.slots := by
    rw [Slot.forall_answers_iff]
    exact and_iff_left fun _ _ _ => trivial
  rw [← hanswers, slots, hkind, BeanKind.slots, forall_mem_map]
  refine forall₂_congr fun p hp => ?_
  rw [answers_slot_iff (fun _ => trivial) fun hsource => hstored p (mem_filter.mpr ⟨hp, ?_⟩)]
  · exact forall_congr' fun _ => and_iff_left fun _ _ _ => trivial
  · rw [RecordProperty.isStored, hsource]

include hkind' hstored'

/-- The beans of a record type that have all their fields have one outline. -/
lemma outline_record : a.outline = b.outline := by
  rw [outline, outline, slots, slots, hkind, hkind', BeanKind.slots, BeanKind.slots, map_map, map_map]
  refine map_congr_left fun p hp => ?_
  rw [Function.comp, Function.comp, RecordProperty.slot, RecordProperty.slot]
  split
  · rfl
  cases hsource : p.source with
  | absent => rfl
  | computed inputs value => rfl
  | stored =>
    have hmem : p ∈ t.stored := mem_filter.mpr ⟨hp, by rw [RecordProperty.isStored, hsource]⟩
    obtain ⟨v, hv⟩ := hstored p hmem
    obtain ⟨w, hw⟩ := hstored' p hmem
    rw [hv, hw]
    rfl

/-- Two records that show plain values are equal exactly if they are tied and each property that is
meant to be read has a source. -/
theorem order_and_equality_record (ht : t.Lawful) (hplain : ∀ f ∈ a.flatten, f.2.Plain)
    (hplain' : ∀ f ∈ b.flatten, f.2.Plain) :
    (Value.bean a).same (.bean b) = true ↔ (Value.bean a).compare (.bean b) = .eq ∧
      ∀ p ∈ t.properties, p.description.style.isReadable = true → p.source ≠ .absent := by
  have hlawful {c : Bean} (hc : c.kind = .record t) : c.kind.Lawful (c.fields.map Prod.fst) := by
    rw [hc]
    exact ht
  have houtline := outline_record hkind hkind' hstored hstored'
  have hnames : a.slots.map Slot.name = b.slots.map Slot.name := by
    rw [names_slots, names_slots, hkind, hkind']
  have htype : a.type = b.type := by rw [BeanOf.type, BeanOf.type, hkind, hkind']
  rw [← forall_not_failed_iff hkind hstored]
  have hboth := same_in_order_iff (hlawful hkind) (hlawful hkind') htype hplain hplain'
  rwa [and_iff_left hnames, and_iff_right houtline] at hboth

end

end Bean

end Beans

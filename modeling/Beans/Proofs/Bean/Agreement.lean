import Mathlib.Data.Option.Basic
import Mathlib.Tactic.Common
import Beans.Bean.Traits
import Beans.Proofs.Bean.Edited
import Beans.Proofs.Order.Matched

/-!
# Equalities that agree

Beans with any properties are compared in four ways. The equality of beans that keep the order looks
every entry of the one up in the other, and compares how many there are. That of beans in the order of
names goes through both side by side. Having the same properties looks up descriptions; and equality
as values asks for the types, too. As no name comes twice, all of them say the same: that under every
name both beans hold equal values, or neither holds any.

## Main definitions

* `Beans.Bean.HoldsSame` — under every name two beans hold equal values, or neither holds any.

## Main results

* `Beans.matched_fields_iff` — fields are matched if the same is found under every name.
* `Beans.Bean.propertiesSame_dynamic_iff` — beans with any properties have the same properties if they
  hold the same.
* `Beans.Bean.equalities_agree` — the four equalities agree; and a bean that is filled with what
  another one shows has the same properties.
-/

set_option autoImplicit false

open List

namespace Beans

open Beans.Order Observation

/-! ## Fields -/

/-- Of related options both hold something, or neither does. -/
lemma isSome_eq_of_rel {α β : Type} {R : α → β → Prop} {a : Option α} {b : Option β}
    (h : Option.Rel R a b) : a.isSome = b.isSome := by
  cases h <;> rfl

/-- **Fields of different names are matched if the same is found under every name.**

**Proof sketch.** A permutation does not change what is found under a name, as the names differ.
Conversely the lists have the same names, and each field is matched with the one that is found under
its name. -/
theorem matched_fields_iff {α β : Type} {R : α → β → Prop} {as : List (String × α)}
    {bs : List (String × β)} (has : (as.map Prod.fst).Nodup) (hbs : (bs.map Prod.fst).Nodup) :
    Matched (fun f g => f.1 = g.1 ∧ R f.2 g.2) as bs ↔
      ∀ n, Option.Rel R (as.lookup n) (bs.lookup n) := by
  constructor
  · intro hmatched n
    have hnames : as.map Prod.fst ~ bs.map Prod.fst :=
      hmatched.map_perm fun _ _ _ _ hfg => hfg.1
    by_cases hn : n ∈ as.map Prod.fst
    · obtain ⟨v, hv⟩ := exists_lookup hn
      obtain ⟨cs, hperm, hall⟩ := hmatched
      obtain ⟨g, hg, rfl, hR⟩ := exists_of_forall₂ hall (mem_of_lookup hv)
      rw [hv, lookup_of_nodup hbs (hperm.mem_iff.mp hg)]
      exact .some hR
    · rw [lookup_of_not_mem hn, lookup_of_not_mem (mt hnames.mem_iff.mpr hn)]
      exact .none
  · intro h
    have hnames : as.map Prod.fst ~ bs.map Prod.fst := by
      refine (perm_ext_iff_of_nodup has hbs).mpr fun n => ?_
      rw [← isSome_lookup_iff, ← isSome_lookup_iff]
      rw [isSome_eq_of_rel (h n)]
    refine (matched_iff_exists has fun f _ g _ hfg => hfg.1).mpr ⟨?_, fun f hf => ?_⟩
    · simpa using hnames.length_eq
    · have hfound := h f.1
      rw [lookup_of_nodup has hf] at hfound
      cases hg : bs.lookup f.1 with
      | none =>
        rw [hg] at hfound
        cases hfound
      | some w =>
        rw [hg] at hfound
        cases hfound with | some hR =>
        exact ⟨(f.1, w), mem_of_lookup hg, rfl, hR⟩

/-- One list of fields has the entries of another one if each is there under its name. -/
lemma hasEntries_iff {fields entries : List (String × Value)}
    (hfields : (fields.map Prod.fst).Nodup) :
    hasEntries fields entries = true ↔
      ∀ f ∈ entries, ∃ g ∈ fields, f.1 = g.1 ∧ g.2.same f.2 = true := by
  rw [hasEntries, all_eq_true]
  refine forall₂_congr fun f hf => ?_
  constructor
  · intro h
    cases hg : fields.lookup f.1 with
    | none =>
      rw [hg] at h
      cases h
    | some w =>
      rw [hg] at h
      exact ⟨(f.1, w), mem_of_lookup hg, rfl, h⟩
  · rintro ⟨g, hg, hname, hsame⟩
    rw [hname, lookup_of_nodup hfields hg]
    exact hsame

/-- Lists hold equal values if they do side by side. -/
lemma sameValues_iff {vs ws : List Value} :
    sameValues vs ws = true ↔ Forall₂ (fun v w => v.same w = true) vs ws := by
  rw [sameValues, Value.same, Value.observe_list, Value.observe_list]
  change sameAll _ _ = true ↔ _
  rw [sameAll_iff, forall₂_map_left_iff, forall₂_map_right_iff]
  rfl

namespace Bean

/-- Under every name two beans hold equal values, or neither holds any. -/
def HoldsSame (a b : Bean) : Prop :=
  ∀ n, Option.Rel (fun v w => v.same w = true) (a.fields.lookup n) (b.fields.lookup n)

/-! ## The properties -/

/-- A bean with any properties shows what it holds. -/
lemma observation_dynamic {b : Bean} (hdynamic : b.kind.isDynamic = true) :
    b.observation = b.fields.map fun f => .shown f.1 f.2.observe := by
  obtain ⟨kind, fields⟩ := b
  cases kind with
  | record t => cases hdynamic
  | flexible types => exact map_map
  | sorted => exact map_map

/-- A lawful bean with any properties has no name twice. -/
lemma nodup_of_lawful {b : Bean} (hb : b.kind.Lawful (b.fields.map Prod.fst))
    (hdynamic : b.kind.isDynamic = true) : (b.fields.map Prod.fst).Nodup := by
  obtain ⟨kind, fields⟩ := b
  cases kind with
  | record t => cases hdynamic
  | flexible types => exact hb
  | sorted => exact hb

section

variable {a b : Bean} (ha : a.kind.Lawful (a.fields.map Prod.fst))
  (hb : b.kind.Lawful (b.fields.map Prod.fst)) (hdynamic : a.kind.isDynamic = true)
  (hdynamic' : b.kind.isDynamic = true)

include ha hb hdynamic hdynamic'

/-- Beans with any properties have the same properties if their fields are matched. -/
lemma propertiesSame_iff_matched :
    a.propertiesSame b = true ↔
      Matched (fun f g => f.1 = g.1 ∧ f.2.same g.2 = true) a.fields b.fields := by
  rw [propertiesSame_iff_slotsAlike ha hb, observation_dynamic hdynamic,
    observation_dynamic hdynamic']
  change Matched _ _ _ ↔ _
  rw [matched_map_iff]
  refine matched_congr fun f _ g _ => ⟨fun h => ?_, fun ⟨hname, hsame⟩ => ?_⟩
  · obtain ⟨hname, hsame⟩ := slotAlike_iff.mp h
    exact ⟨hname.symm, hsame⟩
  · exact slotAlike_iff.mpr ⟨hname.symm, hsame⟩

/-- **Beans with any properties have the same properties if they hold the same.** -/
theorem propertiesSame_dynamic_iff : a.propertiesSame b = true ↔ a.HoldsSame b := by
  rw [propertiesSame_iff_matched ha hb hdynamic hdynamic']
  exact matched_fields_iff (R := fun v w => v.same w = true) (nodup_of_lawful ha hdynamic)
    (nodup_of_lawful hb hdynamic')

end

/-! ## The types' own equality -/

section

variable {heap : Identity → Grid Value} {a b : Bean}

/-- Beans that keep the order are equal if they have the same properties. The entries are compared
the other way round there. -/
lemma ownSame?_flexible (ha : a.Sound heap) (hb : b.Sound heap)
    {types types' : List (String × ResolvedType)} (hkind : a.kind = .flexible types)
    (hkind' : b.kind = .flexible types') : a.ownSame? b = some (a.propertiesSame b) := by
  have hdynamic : a.kind.isDynamic = true := by rw [hkind]; rfl
  have hdynamic' : b.kind.isDynamic = true := by rw [hkind']; rfl
  have hnodup := nodup_of_lawful ha.lawful hdynamic
  have hnodup' := nodup_of_lawful hb.lawful hdynamic'
  have hfields {c : Bean} (hc : c.Sound heap) : ∀ f ∈ c.fields, f.2.Sound heap := by
    cases hc with | bean _ hfields => exact hfields
  rw [ownSame?, hkind, hkind']
  refine congrArg some (Bool.eq_iff_iff.mpr ?_)
  rw [propertiesSame_iff_matched ha.lawful hb.lawful hdynamic hdynamic',
    matched_iff_exists hnodup fun f _ g _ hfg => hfg.1, Bool.and_eq_true, beq_iff_eq,
    hasEntries_iff hnodup']
  refine and_congr_right fun _ => forall₂_congr fun f hf => exists_congr fun g => ?_
  refine and_congr_right fun hg => and_congr_right fun _ => ?_
  have hf := (hfields ha f hf).observe
  have hg := (hfields hb g hg).observe
  exact ⟨same_symm hg hf, same_symm hf hg⟩

/-- Beans in the order of names are equal if they have the same properties. -/
lemma ownSame?_sorted (ha : a.InOrder) (hb : b.InOrder) :
    a.ownSame? b = some (a.propertiesSame b) := by
  have hlawful {c : Bean} (hc : c.InOrder) : c.kind.Lawful (c.fields.map Prod.fst) := by
    rw [hc.kind]
    exact hc.names.nodup
  have hdynamic {c : Bean} (hc : c.InOrder) : c.kind.isDynamic = true := by rw [hc.kind]; rfl
  have hnames : a.fields.map Prod.fst = b.fields.map Prod.fst ↔
      Forall₂ (fun f g => f.1 = g.1) a.fields b.fields := by
    rw [← forall₂_eq_eq_eq, forall₂_map_left_iff, forall₂_map_right_iff]
  have hvalues : sameValues (a.fields.map Prod.snd) (b.fields.map Prod.snd) = true ↔
      Forall₂ (fun f g => f.2.same g.2 = true) a.fields b.fields := by
    rw [sameValues_iff, forall₂_map_left_iff, forall₂_map_right_iff]
  rw [ownSame?, ha.kind, hb.kind]
  refine congrArg some (Bool.eq_iff_iff.mpr ?_)
  rw [Bool.and_eq_true, beq_iff_eq, hnames, hvalues, Order.forall₂_and,
    propertiesSame_iff_matched (hlawful ha) (hlawful hb) (hdynamic ha) (hdynamic hb),
    matched_iff_forall₂ ha.names hb.names fun f _ g _ hfg => hfg.1]

end

/-! ## Filling a bean -/

/-- What is put into an empty bean under different names is held in that order. -/
lemma ofEntries_flexible {entries : List (String × Value)} (hnodup : (entries.map Prod.fst).Nodup) :
    flexible.ofEntries entries = ⟨.flexible [], entries⟩ := by
  have hput (acc : List (String × Value)) :
      ofEntries ⟨.flexible [], acc⟩ entries = ⟨.flexible [], putFields acc entries⟩ := by
    clear hnodup
    induction entries generalizing acc with
    | nil => rfl
    | cons f entries ih => exact ih (putField f.1 f.2 acc)
  rw [flexible, hput, putFields_of_nodup hnodup]
  rfl

section

variable {b : Bean} (hb : b.kind.Lawful (b.fields.map Prod.fst))
  (hshown : ∀ p ∈ b.table.properties, p.style.isReadable = true ∧
    ∃ v, p.get b = .ok v ∧ v.same v = true)

include hb hshown

/-- A bean whose properties can all be read shows a value under each. -/
lemma slots_eq_flatten : b.slots = b.flatten.map fun f => .shown f.1 f.2 := by
  have hslot : ∀ s ∈ b.slots, ∃ n v, s = .shown n v := by
    rw [slots_eq_map hb]
    refine forall_mem_map.mpr fun p hp => ?_
    obtain ⟨hreadable, v, hget, -⟩ := hshown p hp
    exact ⟨p.name, v, by rw [slotOf, if_pos hreadable, hget]⟩
  rw [flatten]
  generalize b.slots = slots at hslot
  induction slots with
  | nil => rfl
  | cons s slots ih =>
    obtain ⟨⟨n, v, rfl⟩, hrest⟩ := forall_mem_cons.mp hslot
    exact congrArg (Slot.shown n v :: ·) (ih hrest)

/-- What a bean shows can be told apart by its names. -/
lemma nodup_flatten : (b.flatten.map Prod.fst).Nodup := by
  have hnodup := nodup_slots hb
  rwa [slots_eq_flatten hb hshown, map_map] at hnodup

/-- A bean that is filled with what another one shows looks like it. -/
lemma observation_filled : (flexible.ofEntries b.flatten).observation = b.observation := by
  rw [ofEntries_flexible (nodup_flatten hb hshown), observation_dynamic rfl, observation,
    slots_eq_flatten hb hshown, map_map]
  rfl

/-- **A bean that is filled with what another one shows has the same properties.** -/
theorem propertiesSame_filled :
    (flexible.ofEntries b.flatten).propertiesSame b = true ∧
      b.propertiesSame (flexible.ofEntries b.flatten) = true ∧
        (flexible.ofEntries b.flatten).propertiesDigest = b.propertiesDigest := by
  have hobservation := observation_filled hb hshown
  have hfilled : (flexible.ofEntries b.flatten).kind.Lawful
      ((flexible.ofEntries b.flatten).fields.map Prod.fst) := by
    rw [ofEntries_flexible (nodup_flatten hb hshown)]
    exact nodup_flatten hb hshown
  have hself : SlotsAlike (fun x y => x.same y = true) b.observation b.observation := by
    refine ⟨b.observation, .rfl, forall₂_same.mpr ?_⟩
    rw [observation, slots_eq_map hb]
    refine forall_mem_map.mpr (forall_mem_map.mpr fun p hp => ?_)
    obtain ⟨hreadable, v, hget, hsame⟩ := hshown p hp
    rw [slotOf, if_pos hreadable, hget]
    exact .shown p.name hsame
  rw [propertiesSame_iff_slotsAlike hfilled hb, propertiesSame_iff_slotsAlike hb hfilled,
    propertiesDigest_eq hfilled, propertiesDigest_eq hb, hobservation]
  exact ⟨hself, hself, rfl⟩

end

/-! ## All of them -/

/-- **Equalities that agree.** Let beans be made by any changes from sound values. For two that keep
the order, their own equality, having the same properties, and equality as values agree, and they
hold exactly if the two beans hold the same. So they do for two beans in the order of names. A bean
of either kind has the same properties as one of the other exactly if they hold the same. And a bean
that is filled with what another one shows, be it of any type, has the same properties both ways and
the same digest, if all properties of that one can be read and hold what is equal to itself. -/
theorem equalities_agree {heap : Identity → Grid Value} {edits edits' : List Edit}
    (hedits : ∀ e ∈ edits, ∀ v, e.value? = some v → v.Sound heap)
    (hedits' : ∀ e ∈ edits', ∀ v, e.value? = some v → v.Sound heap) :
    let f := edited edits
    let g := edited edits'
    let m := editedSorted edits
    let m' := editedSorted edits'
    (f.ownSame? g = some (f.propertiesSame g) ∧
      (Value.bean f).same (.bean g) = f.propertiesSame g ∧
        (f.propertiesSame g = true ↔ f.HoldsSame g)) ∧
    (m.ownSame? m' = some (m.propertiesSame m') ∧
      (Value.bean m).same (.bean m') = m.propertiesSame m' ∧
        (m.propertiesSame m' = true ↔ m.HoldsSame m')) ∧
    ((f.propertiesSame m' = true ↔ f.HoldsSame m') ∧
      (m.propertiesSame g = true ↔ m.HoldsSame g)) ∧
    ∀ b : Bean, b.kind.Lawful (b.fields.map Prod.fst) →
      (∀ p ∈ b.table.properties, p.style.isReadable = true ∧
        ∃ v, p.get b = .ok v ∧ v.same v = true) →
      (flexible.ofEntries b.flatten).propertiesSame b = true ∧
        b.propertiesSame (flexible.ofEntries b.flatten) = true ∧
          (flexible.ofEntries b.flatten).propertiesDigest = b.propertiesDigest := by
  intro f g m m'
  have hf : f.Sound heap := sound_edited hedits
  have hg : g.Sound heap := sound_edited hedits'
  have hm : m.Sound heap := sound_editedSorted hedits
  have hm' : m'.Sound heap := sound_editedSorted hedits'
  have horder : m.InOrder := inOrder_editedSorted edits
  have horder' : m'.InOrder := inOrder_editedSorted edits'
  obtain ⟨types, hkind⟩ := kind_edited edits
  obtain ⟨types', hkind'⟩ := kind_edited edits'
  have hdynamic : f.kind.isDynamic = true := by rw [hkind]; rfl
  have hdynamic' : g.kind.isDynamic = true := by rw [hkind']; rfl
  have hsorted : m.kind.isDynamic = true := by rw [horder.kind]; rfl
  have hsorted' : m'.kind.isDynamic = true := by rw [horder'.kind]; rfl
  have htype : f.type = g.type := by rw [BeanOf.type, BeanOf.type, hkind, hkind']; rfl
  have htype' : m.type = m'.type := by rw [BeanOf.type, BeanOf.type, horder.kind, horder'.kind]
  refine ⟨⟨?_, ?_, ?_⟩, ⟨?_, ?_, ?_⟩, ⟨?_, ?_⟩, fun b hb hshown => propertiesSame_filled hb hshown⟩
  · exact ownSame?_flexible hf hg hkind hkind'
  · exact Value.same_bean_of_type hf.lawful hg.lawful htype
  · exact propertiesSame_dynamic_iff hf.lawful hg.lawful hdynamic hdynamic'
  · exact ownSame?_sorted horder horder'
  · exact Value.same_bean_of_type hm.lawful hm'.lawful htype'
  · exact propertiesSame_dynamic_iff hm.lawful hm'.lawful hsorted hsorted'
  · exact propertiesSame_dynamic_iff hf.lawful hm'.lawful hdynamic hsorted'
  · exact propertiesSame_dynamic_iff hm.lawful hg.lawful hsorted hdynamic'

/-- What a counter shows, put and set in several orders. -/
theorem equalities_agree_counter :
    let heap : Identity → Grid Value := fun _ => .empty 0 0
    let counter : Bean := ⟨.record Sample.counter, [("label", .text "a"), ("count", .uint 2)]⟩
    let edits : List Edit := [.put "label" (.text "a"), .put "count" (.uint 2)]
    let edits' : List Edit := [.define "count" .any, .put "label" (.text "b"), .put "x" .null,
      .erase "x", .set "label" (.text "a"), .set "count" (.uint 2)]
    (∀ e ∈ edits, ∀ v, e.value? = some v → v.Sound heap) ∧
    (∀ e ∈ edits', ∀ v, e.value? = some v → v.Sound heap) ∧
      (edited edits).ownSame? (edited edits') = some true ∧
      (editedSorted edits).ownSame? (editedSorted edits') = some true ∧
      (edited edits).HoldsSame (editedSorted edits') ∧
      (flexible.ofEntries counter.flatten).propertiesSame counter = true := by
  intro heap counter edits edits'
  have hscalar {es : List Edit} (h : ∀ e ∈ es, ∀ v, e.value? = some v → ∃ s, v = .scalar s) :
      ∀ e ∈ es, ∀ v, e.value? = some v → v.Sound heap := by
    intro e he v hv
    obtain ⟨s, rfl⟩ := h e he v hv
    exact .scalar s
  have hedits : ∀ e ∈ edits, ∀ v, e.value? = some v → v.Sound heap :=
    hscalar (by simp [edits, Edit.value?, Value.text, Value.uint])
  have hedits' : ∀ e ∈ edits', ∀ v, e.value? = some v → v.Sound heap :=
    hscalar (by simp [edits', Edit.value?, Value.text, Value.uint, Value.null])
  obtain ⟨⟨hown, -, -⟩, ⟨hown', -, -⟩, ⟨hsame, -⟩, hfilled⟩ := equalities_agree hedits hedits'
  have hread : ∀ p ∈ counter.table.properties, p.style.isReadable = true ∧
      ∃ v, p.get counter = .ok v ∧ v.same v = true := by
    have hall : (counter.table.properties.all fun p => p.style.isReadable &&
        (p.get counter).toOption.any fun v => v.same v) = true := by decide +kernel
    intro p hp
    obtain ⟨hreadable, hvalue⟩ := Bool.and_eq_true_iff.mp (all_eq_true.mp hall p hp)
    cases hget : p.get counter with
    | error e =>
      rw [hget] at hvalue
      cases hvalue
    | ok v =>
      rw [hget] at hvalue
      exact ⟨hreadable, v, rfl, hvalue⟩
  refine ⟨hedits, hedits', hown.trans ?_, hown'.trans ?_, hsame.mp ?_,
    (hfilled counter (by decide +kernel : Sample.counter.Lawful) hread).1⟩
  all_goals decide +kernel

end Bean

end Beans

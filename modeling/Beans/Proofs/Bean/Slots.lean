import Mathlib.Data.List.Nodup
import Mathlib.Tactic.Common
import Beans.Proofs.Bean.Fields
import Beans.Proofs.Bean.Snapshot
import Beans.Proofs.Result
import Beans.Sample.Index

/-!
# What lawful beans show

A bean is a list of fields and a description of its properties, and not every pair of the two makes
sense. In those that a program makes, the properties have different names and belong to the type of
the bean. Then what a bean shows is what reading it property by property yields.

## Main definitions

* `Beans.BeanKind.Lawful` — the properties have different names and belong to the type of the bean.
* `Beans.Bean.slotOf` — what reading a property yields, as a slot.

## Main results

* `Beans.slots_eq_map` — a lawful bean shows under each property what reading it yields.
* `Beans.BeanKind.slots_map` — slots of images are images of slots.
* `Beans.MetaProperty.of_set` — setting a property writes under its name.
-/

set_option autoImplicit false

namespace Beans

/-! ## Lawful beans -/

/-- The properties of a record type have different names, and the type holds them. -/
structure RecordType.Lawful (t : RecordType) : Prop where
  nodup : (t.properties.map RecordProperty.name).Nodup
  holder : ∀ p ∈ t.properties, t.type.same p.description.holder = true

/-- The properties of a bean with fields of the given names have different names, and its type holds
them. -/
def BeanKind.Lawful (kind : BeanKind) (names : List String) : Prop :=
  match kind with
  | .record t => t.Lawful
  | .flexible _ | .sorted => names.Nodup

instance (t : RecordType) : Decidable t.Lawful :=
  decidable_of_iff ((t.properties.map RecordProperty.name).Nodup ∧
      ∀ p ∈ t.properties, t.type.same p.description.holder = true)
    ⟨fun h => ⟨h.1, h.2⟩, fun h => ⟨h.nodup, h.holder⟩⟩

/-- All sample types are lawful. -/
example : ∀ entry ∈ Sample.recordTypes, entry.2.Lawful := by decide +kernel

/-! ## What lawful beans show -/

section

variable {α β : Type}

/-- The slot with the image of the value. -/
def Slot.map (f : α → β) : Slot α → Slot β
  | hidden n => hidden n
  | failed n => failed n
  | shown n v => shown n (f v)

@[simp]
lemma Slot.name_map (f : α → β) (s : Slot α) : (s.map f).name = s.name := by
  cases s <;> rfl

/-- Images of values are looked up as the values are. -/
lemma lookup_map (f : α → β) (fields : List (String × α)) (name : String) :
    (fields.map fun e => (e.1, f e.2)).lookup name = (fields.lookup name).map f := by
  induction fields with
  | nil => rfl
  | cons e rest ih =>
    obtain ⟨n, v⟩ := e
    simp only [List.map_cons, List.lookup_cons]
    split
    · rfl
    · exact ih

/-- The slots with the images of values are the images of the slots with the values. -/
lemma BeanKind.slots_map (f : α → β) (kind : BeanKind) (fields : List (String × Value))
    (images : List (String × α)) (lift : Scalar → α) :
    kind.slots fields (images.map fun e => (e.1, f e.2)) (fun s => f (lift s)) =
      (kind.slots fields images lift).map (Slot.map f) := by
  cases kind with
  | record t =>
    simp only [BeanKind.slots, List.map_map]
    refine List.map_congr_left fun p _ => ?_
    simp only [RecordProperty.slot, Function.comp, lookup_map]
    split
    · rfl
    · cases p.source with
      | stored => cases images.lookup p.name <;> rfl
      | computed inputs value => rfl
      | absent => rfl
  | flexible types => simp [BeanKind.slots, Slot.map]
  | sorted => simp [BeanKind.slots, Slot.map]

end

namespace Bean

/-- What reading a property of a bean yields, as a slot. -/
def slotOf (b : Bean) (p : MetaProperty) : Slot Value :=
  if p.style.isReadable then
    match p.get b with
    | .ok v => .shown p.name v
    | .error _ => .failed p.name
  else .hidden p.name

@[simp]
lemma name_slotOf (b : Bean) (p : MetaProperty) : (b.slotOf p).name = p.name := by
  unfold slotOf
  split
  · split <;> rfl
  · rfl

/-- A property for an entry shows what getting it yields. -/
lemma slotOf_ofEntry {b : Bean} {type : BeanType} {n : String} {T : ResolvedType} {v : Value}
    (h : (MetaProperty.ofEntry type n T).get b = .ok v) :
    b.slotOf (.ofEntry type n T) = .shown n v := by
  simp only [slotOf, h]
  rfl

end Bean

/-- The slot of a property is named as the property. -/
@[simp]
lemma RecordProperty.name_slot {α : Type} (fields : List (String × Value))
    (images : List (String × α)) (lift : Scalar → α) (p : RecordProperty) :
    (p.slot fields images lift).name = p.name := by
  unfold slot
  repeat' split
  all_goals rfl

/-- The names of the slots of a bean. -/
lemma names_slots (b : Bean) :
    b.slots.map Slot.name = match b.kind with
      | .record t => t.properties.map RecordProperty.name
      | .flexible _ | .sorted => b.fields.map Prod.fst := by
  obtain ⟨kind, fields⟩ := b
  cases kind with
  | record t => simp [Bean.slots, BeanKind.slots]
  | flexible types => simp [Bean.slots, BeanKind.slots, Slot.name]
  | sorted => simp [Bean.slots, BeanKind.slots, Slot.name]

section

variable {b : Bean} (hb : b.kind.Lawful (b.fields.map Prod.fst))

include hb

/-- The slots of a lawful bean are named as its properties. -/
lemma names_table : b.table.names = b.slots.map Slot.name := by
  rw [names_slots]
  obtain ⟨kind, fields⟩ := b
  cases kind with
  | record t =>
    simp only [Bean.table, BeanKind.table, RecordType.table, PropertyMap.names, List.map_map]
    rfl
  | flexible types =>
    rw [Bean.table, BeanKind.table_flexible types hb, PropertyMap.names, List.map_map]
    exact List.map_id _
  | sorted =>
    rw [Bean.table, BeanKind.table_sorted hb, PropertyMap.names, List.map_map]
    exact List.map_id _

/-- The properties of a lawful bean have different names. -/
lemma nodup_names : b.table.names.Nodup := by
  rw [names_table hb, names_slots]
  obtain ⟨kind, fields⟩ := b
  cases kind with
  | record t => exact hb.nodup
  | flexible types => exact hb
  | sorted => exact hb

/-- The slots of a lawful bean have different names. -/
lemma nodup_slots : (b.slots.map Slot.name).Nodup := names_table hb ▸ nodup_names hb

/-- A property of a lawful bean applies to it, so that getting its value is reading it. -/
lemma get_eq_read {p : MetaProperty} (hp : p ∈ b.table.properties) :
    p.get b = b.read p.name := by
  have hholder : b.type.same p.holder = true := by
    obtain ⟨kind, fields⟩ := b
    cases kind with
    | record t =>
      obtain ⟨q, hq, rfl⟩ := List.mem_map.mp hp
      exact hb.holder q hq
    | flexible types =>
      rw [Bean.table, BeanKind.table_flexible types hb] at hp
      obtain ⟨n, -, rfl⟩ := List.mem_map.mp hp
      exact beq_self_eq_true _
    | sorted =>
      rw [Bean.table, BeanKind.table_sorted hb] at hp
      obtain ⟨n, -, rfl⟩ := List.mem_map.mp hp
      exact beq_self_eq_true _
  simp only [MetaProperty.get, MetaProperty.checkBean, if_pos hholder]
  rfl

/-- **A lawful bean shows under each property what reading it yields.**

**Proof sketch.** By the kind of bean. The names differ, so that what is found under the name of a
slot is what the slot shows. -/
theorem slots_eq_map : b.slots = b.table.properties.map b.slotOf := by
  have hget : ∀ p ∈ b.table.properties, p.get b = b.read p.name := fun p hp => get_eq_read hb hp
  have hnodup := nodup_slots hb
  obtain ⟨kind, fields⟩ := b
  cases kind with
  | record t =>
    simp only [Bean.table, BeanKind.table, RecordType.table, List.map_map] at hget ⊢
    refine List.map_congr_left fun p hp => ?_
    have hmem : p.slot fields fields Value.scalar ∈ Bean.slots ⟨.record t, fields⟩ :=
      List.mem_map_of_mem hp
    have hfound := find?_name_of_nodup hnodup hmem
    rw [RecordProperty.name_slot] at hfound
    have hread : p.description.get ⟨.record t, fields⟩ =
        ((p.slot fields fields Value.scalar).value?.map Except.ok).getD
          (.error (.writeOnly p.name)) := by
      rw [hget _ (List.mem_map_of_mem hp)]
      change Bean.read _ p.name = _
      rw [Bean.read, hfound, Option.bind_some]
      cases (p.slot fields fields Value.scalar).value? <;> rfl
    simp only [Function.comp, Bean.slotOf, hread]
    cases hreadable : p.description.style.isReadable <;> simp only [RecordProperty.slot, hreadable]
    · rfl
    · cases p.source with
      | stored => cases fields.lookup p.name <;> rfl
      | computed inputs value => rfl
      | absent => rfl
  | flexible types =>
    simp only [Bean.table, BeanKind.table_flexible types hb] at hget
    simp only [Bean.slots, BeanKind.slots, Bean.table, BeanKind.table_flexible types hb, List.map_map]
    refine List.map_congr_left fun f hf => (Bean.slotOf_ofEntry ?_).symm
    rw [hget _ (List.mem_map_of_mem (List.mem_map_of_mem hf)), MetaProperty.ofEntry, Bean.read,
      lookup_of_nodup hb hf, Option.getD_some]
  | sorted =>
    simp only [Bean.table, BeanKind.table_sorted hb] at hget
    simp only [Bean.slots, BeanKind.slots, Bean.table, BeanKind.table_sorted hb, List.map_map]
    refine List.map_congr_left fun f hf => (Bean.slotOf_ofEntry ?_).symm
    rw [hget _ (List.mem_map_of_mem (List.mem_map_of_mem hf)), MetaProperty.ofEntry, Bean.read,
      lookup_of_nodup hb hf, Option.getD_some]

end

/-! ## Setting properties -/

/-- A property that was set can be set, and a value was written under its name. -/
lemma MetaProperty.of_set {p : MetaProperty} {b b' : Bean} {v : Value} (h : p.set b v = .ok b') :
    p.settable = true ∧ b.write p.name v = .ok b' := by
  rw [set] at h
  cases hsettable : p.settable with
  | true =>
    rw [hsettable] at h
    obtain ⟨-, -, h⟩ := bind_eq_ok_iff.mp h
    exact ⟨rfl, h⟩
  | false =>
    rw [hsettable] at h
    cases hinherited : p.isInherited with
    | true =>
      rw [hinherited] at h
      obtain ⟨-, -, h⟩ := bind_eq_ok_iff.mp h
      cases h
    | false =>
      rw [hinherited] at h
      cases h

end Beans

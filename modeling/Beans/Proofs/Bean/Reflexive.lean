import Mathlib.Tactic.Common
import Beans.Proofs.Bean.Legible

/-!
# Beans that are equal to themselves

A bean is compared with itself property by property, and each is read twice. The two readings agree
if there is something to be read that is equal to itself in its turn. Nothing else can keep a bean
from being equal to itself, so that the exact condition can be said in terms of what its properties
yield: a property that is meant to be read and has no source is what it fails for.

## Main definitions

* `Beans.Slot.Answers` — a slot that is meant to show something shows what a condition asks for.

## Main results

* `Beans.Bean.reflexive_iff` — which beans are equal to themselves, by their properties and as
  values.
* `Beans.Bean.reflexive_record_iff`, `Beans.Bean.reflexive_dynamic_iff` — the same for the beans of a
  record type and for those with any properties, in terms of their fields.
-/

set_option autoImplicit false

open List

namespace Beans

/-! ## Slots -/

namespace Slot

variable {α β : Type}

/-- A slot that is meant to show something shows what a condition asks for. -/
def Answers (P : α → Prop) : Slot α → Prop
  | hidden _ => True
  | failed _ => False
  | shown _ v => P v

/-- The image of a slot answers a condition if the slot answers it for images. -/
lemma answers_map {P : β → Prop} {f : α → β} (s : Slot α) :
    (s.map f).Answers P ↔ s.Answers (P ∘ f) := by
  cases s <;> rfl

/-- Slots that answer a condition are those of which none fails and what is shown fulfils it. -/
lemma forall_answers_iff {P : α → Prop} {slots : List (Slot α)} :
    (∀ s ∈ slots, s.Answers P) ↔ (∀ n, .failed n ∉ slots) ∧ ∀ n v, .shown n v ∈ slots → P v := by
  constructor
  · exact fun h => ⟨fun n hn => h _ hn, fun n v hv => h _ hv⟩
  · rintro ⟨hread, hshown⟩ s hs
    cases s with
    | hidden n => trivial
    | failed n => exact hread n hs
    | shown n v => exact hshown n v hs

end Slot

namespace Bean

variable {b : Bean} {P : Value → Prop}

/-- The slots of a bean answer a condition if each property that is meant to be read yields what
fulfils it. -/
lemma answers_slots_iff (hb : b.kind.Lawful (b.fields.map Prod.fst)) :
    (∀ s ∈ b.slots, s.Answers P) ↔ ∀ p ∈ b.table.properties, p.style.isReadable = true →
      ∃ v, p.get b = .ok v ∧ P v := by
  rw [slots_eq_map hb, forall_mem_map]
  refine forall₂_congr fun p hp => ?_
  unfold slotOf
  split
  case isTrue hreadable =>
    cases hget : p.get b with
    | ok v =>
      refine ⟨fun hv _ => ⟨v, rfl, hv⟩, fun h => ?_⟩
      obtain ⟨w, hw, hP⟩ := h hreadable
      exact Except.ok.inj hw ▸ hP
    | error e =>
      refine ⟨False.elim, fun h => ?_⟩
      obtain ⟨w, hw, -⟩ := h hreadable
      cases hw
  case isFalse hnot => exact iff_of_true trivial fun hreadable => absurd hreadable hnot

/-- A bean is legible if its slots show what is legible. -/
lemma legible_iff_answers :
    (Value.bean b).observe.Legible ↔ ∀ s ∈ b.slots, s.Answers fun v => v.observe.Legible := by
  have hslots : (∀ s ∈ b.slots.map (Slot.map Value.observe), s.Answers Observation.Legible) ↔
      ∀ s ∈ b.slots, s.Answers fun v => v.observe.Legible := by
    rw [forall_mem_map]
    exact forall₂_congr fun s _ => s.answers_map
  rw [← hslots, Slot.forall_answers_iff, Value.observe_bean]
  constructor
  · intro h
    cases h with | bean hread hshown => exact ⟨hread, hshown⟩
  · exact fun ⟨hread, hshown⟩ => .bean hread hshown

/-- The slots of a bean show what is legible if they show what is equal to itself. -/
lemma answers_same_iff (hb : (Value.bean b).Lawful) :
    (∀ s ∈ b.slots, s.Answers fun v => v.same v = true) ↔
      ∀ s ∈ b.slots, s.Answers fun v => v.observe.Legible := by
  cases hb with | bean hkind hfields =>
  refine forall₂_congr fun s hs => ?_
  cases s with
  | hidden n => rfl
  | failed n => rfl
  | shown n v =>
    rcases shown_of_slots hs with ⟨c, rfl⟩ | ⟨f, hf, rfl⟩
    · exact (Value.Lawful.scalar c).same_self_iff
    · exact (hfields f hf).same_self_iff

/-- A bean is equal to itself if its slots show what is equal to itself. -/
lemma same_self_iff_answers (hb : (Value.bean b).Lawful) :
    (Value.bean b).same (.bean b) = true ↔ ∀ s ∈ b.slots, s.Answers fun v => v.same v = true :=
  hb.same_self_iff.trans (legible_iff_answers.trans (answers_same_iff hb).symm)

/-- **Beans that are equal to themselves.** Whatever its type and its properties are, a bean has the
same properties as itself exactly if each of them that is meant to be read can be and yields a value
that is equal to itself. As a value it is equal to itself exactly then; that is, if it is legible. -/
theorem reflexive_iff (hb : (Value.bean b).Lawful) :
    (b.propertiesSame b = true ↔ ∀ p ∈ b.table.properties, p.style.isReadable = true →
      ∃ v, p.get b = .ok v ∧ v.same v = true) ∧
    (Value.bean b).same (.bean b) = b.propertiesSame b ∧
    ((Value.bean b).same (.bean b) = true ↔ (Value.bean b).observe.Legible) := by
  have hkind : b.kind.Lawful (b.fields.map Prod.fst) := by
    cases hb with | bean hkind _ => exact hkind
  have hvalue : (Value.bean b).same (.bean b) = b.propertiesSame b := by
    rw [Value.same_bean hkind hkind, BeanType.same, beq_self_eq_true, Bool.true_and]
  refine ⟨?_, hvalue, hb.same_self_iff⟩
  rw [← hvalue, same_self_iff_answers hb]
  exact answers_slots_iff hkind

/-- A bean with a counter in a list. -/
theorem reflexive_iff_counter :
    let counter : Bean := ⟨.record Sample.counter, [("label", .text "a"), ("count", .uint 2)]⟩
    let b : Bean := ⟨.flexible [], [("x", .list [.bean counter])]⟩
    (Value.bean b).Lawful ∧ b.propertiesSame b = true ∧ (Value.bean b).observe.Legible := by
  intro counter b
  have hcounter : (Value.bean counter).Lawful := .bean (by decide +kernel : Sample.counter.Lawful)
    (forall_mem_cons.mpr ⟨.scalar _, forall_mem_singleton.mpr (.scalar _)⟩)
  have hb : (Value.bean b).Lawful := .bean (by decide : ["x"].Nodup)
    (forall_mem_singleton.mpr (.list (forall_mem_singleton.mpr hcounter)))
  obtain ⟨-, hvalue, hlegible⟩ := reflexive_iff hb
  have hsame : b.propertiesSame b = true := by decide +kernel
  exact ⟨hb, hsame, hlegible.mp (hvalue.trans hsame)⟩

/-- A vault is not equal to itself: it has a property that is meant to be read and has no source. -/
theorem exists_not_same_self : ∃ b : Bean, (Value.bean b).Lawful ∧ b.propertiesSame b = false ∧
    (Value.bean b).same (.bean b) = false := by
  refine ⟨Sample.vault.default, .bean (by decide +kernel : Sample.vault.Lawful)
    (forall_mem_singleton.mpr (.scalar _)), ?_, ?_⟩ <;> decide +kernel

/-! ## Fields -/

/-- The slot of a property answers a condition that all scalars fulfil if the property is not meant to
be read, or has a source and what is in its field fulfils the condition. -/
lemma answers_slot_iff {p : RecordProperty} {fields : List (String × Value)}
    (hscalar : ∀ s, P (.scalar s))
    (hstored : p.source = .stored → ∃ v, fields.lookup p.name = some v) :
    (p.slot fields fields Value.scalar).Answers P ↔ p.description.style.isReadable = true →
      p.source ≠ .absent ∧
        (p.source = .stored → ∀ v, fields.lookup p.name = some v → P v) := by
  unfold RecordProperty.slot
  cases hreadable : p.description.style.isReadable with
  | false => exact iff_of_true trivial Bool.noConfusion
  | true =>
    rw [Bool.not_true, if_neg Bool.false_ne_true, forall_prop_of_true rfl]
    cases hsource : p.source with
    | absent => exact iff_of_false id fun h => h.1 rfl
    | computed inputs value => exact iff_of_true (hscalar _) ⟨nofun, nofun⟩
    | stored =>
      obtain ⟨v, hv⟩ := hstored hsource
      simp only [hv]
      constructor
      · exact fun h => ⟨nofun, fun _ w hw => Option.some.inj hw ▸ h⟩
      · exact fun h => h.2 trivial v rfl

/-- A record is equal to itself if each property that is meant to be read has a source, and what is
in the fields of those is equal to itself. -/
theorem reflexive_record_iff {t : RecordType} {fields : List (String × Value)} (ht : t.Lawful)
    (hfields : ∀ f ∈ fields, f.2.Lawful)
    (hstored : ∀ p ∈ t.stored, ∃ v, fields.lookup p.name = some v) :
    (Value.bean ⟨.record t, fields⟩).same (.bean ⟨.record t, fields⟩) = true ↔
      ∀ p ∈ t.properties, p.description.style.isReadable = true → p.source ≠ .absent ∧
        (p.source = .stored → ∀ v, fields.lookup p.name = some v → v.same v = true) := by
  have hb : (Value.bean ⟨.record t, fields⟩).Lawful := .bean (b := ⟨.record t, fields⟩) ht hfields
  rw [same_self_iff_answers hb, slots, BeanKind.slots, forall_mem_map]
  refine forall₂_congr fun p hp => answers_slot_iff ?_ fun hsource => hstored p ?_
  · exact fun s => decide_eq_true rfl
  · refine mem_filter.mpr ⟨hp, ?_⟩
    rw [RecordProperty.isStored, hsource]

/-- A bean with any properties is equal to itself if what is in its fields is. -/
theorem reflexive_dynamic_iff (hb : (Value.bean b).Lawful) (hdynamic : b.kind.isDynamic = true) :
    (Value.bean b).same (.bean b) = true ↔ ∀ f ∈ b.fields, f.2.same f.2 = true := by
  rw [same_self_iff_answers hb]
  obtain ⟨kind, fields⟩ := b
  cases kind with
  | record t => cases hdynamic
  | flexible types => exact forall_mem_map
  | sorted => exact forall_mem_map

end Bean

end Beans

import Mathlib.Tactic.Common
import Beans.Proofs.Value.Equality

/-!
# Equality of values and of beans

The properties of two beans are compared by looking every property of the one up in the other, by
name or by alias, and getting both values. A property that is found by an alias has another name and
does not count, so that aliases make no difference. What remains is matching slots by name, and the
laws of equality for observations carry over to beans of any two types.

## Main results

* `Beans.Bean.propertiesSame_eq` — beans have the same properties if their slots match by name.
* `Beans.Value.same_bean`, `Beans.Value.feed_bean` — equality and bytes of beans as values.
* `Beans.Value.feed_set`, `Beans.Value.feed_map` — bytes of sets and maps, in any order.
* `Beans.equality_laws` — equality of values and of beans is symmetric and transitive, and equal
  ones have the same digest.
-/

set_option autoImplicit false

namespace Beans

open Digest

/-! ## Beans -/

/-- A property that is found by its own name is found under that name, not by an alias. -/
lemma PropertyMap.find?_any_name (m : PropertyMap) (name : String) (test : MetaProperty → Bool) :
    (m.find? name).any (fun q => q.name == name && test q) = (m.named? name).any test := by
  unfold find?
  cases hnamed : m.named? name with
  | some q =>
    have hname : q.name = name := by simpa using List.find?_some hnamed
    simp [hname]
  | none =>
    cases halias : (m.aliases.lookup name).bind m.named? with
    | none => rfl
    | some q =>
      obtain ⟨target, -, hq⟩ := Option.bind_eq_some_iff.mp halias
      have hmem : q ∈ m.properties := List.mem_of_find?_eq_some hq
      have hname : ¬(q.name == name) = true := List.find?_eq_none.mp hnamed q hmem
      simp [hname]

namespace Bean

/-- What can be seen of a bean. -/
def observation (b : Bean) : List (Slot Observation) := b.slots.map (Slot.map Value.observe)

/-- What can be seen of a bean has the names of its slots. -/
lemma names_observation (b : Bean) : b.observation.map Slot.name = b.slots.map Slot.name := by
  rw [observation, List.map_map]
  exact List.map_congr_left fun s _ => s.name_map _

/-- What can be seen of a lawful bean has different names. -/
lemma nodup_observation {b : Bean} (hb : b.kind.Lawful (b.fields.map Prod.fst)) :
    (b.observation.map Slot.name).Nodup := by
  rw [names_observation]
  exact nodup_slots hb

/-- Two properties hold the same if their slots match. -/
lemma slotMatches_slotOf (p q : MetaProperty) (a b : Bean) :
    Observation.slotMatches ((a.slotOf p).map Value.observe) ((b.slotOf q).map Value.observe) =
      sameUnder p q a b := by
  unfold sameUnder slotOf
  cases p.style.isReadable <;> cases q.style.isReadable <;> cases p.get a <;> cases q.get b <;> rfl

variable {a b : Bean} (ha : a.kind.Lawful (a.fields.map Prod.fst))
  (hb : b.kind.Lawful (b.fields.map Prod.fst))

include ha hb in
/-- **Beans have the same properties if their slots match by name.** -/
theorem propertiesSame_eq :
    a.propertiesSame b = (a.observation.length == b.observation.length &&
      Observation.matchesSlots a.observation b.observation) := by
  have hfound (name : String) :
      (b.observation.find? fun t => t.name == name) =
        (b.table.named? name).map fun q => (b.slotOf q).map Value.observe := by
    simp [observation, slots_eq_map hb, PropertyMap.named?, Function.comp_def]
  have hlength {c : Bean} (hc : c.kind.Lawful (c.fields.map Prod.fst)) :
      c.observation.length = c.table.size := by
    rw [observation, List.length_map, ← List.length_map Slot.name, ← names_table hc]
    exact List.length_map _
  rw [propertiesSame, hlength ha, hlength hb, Observation.matchesSlots_eq_all]
  simp only [hfound, PropertyMap.find?_any_name]
  simp only [observation, slots_eq_map ha, List.all_map, Function.comp_def, Slot.name_map,
    name_slotOf, Option.any_map, slotMatches_slotOf]

include ha hb in
/-- Beans have the same properties if their slots are alike in some order. -/
lemma propertiesSame_iff_slotsAlike :
    a.propertiesSame b = true ↔
      Observation.SlotsAlike (fun x y => x.same y = true) a.observation b.observation := by
  rw [propertiesSame_eq ha hb]
  exact Observation.matchesSlots_iff (nodup_observation ha) (nodup_observation hb)

include hb in
/-- The digest of the properties of a bean is that of what can be seen of it. -/
theorem propertiesDigest_eq :
    b.propertiesDigest = Observation.slotsDigest (Observation.feedSlots b.observation) := by
  have hslot (p : MetaProperty) : b.propertyFeed p =
      Observation.slotFeed (((b.slotOf p).map Value.observe).map Observation.feed) := by
    unfold propertyFeed slotOf
    cases p.style.isReadable
    · simp [Slot.map, Observation.slotFeed]
    · cases p.get b with
      | ok v => rfl
      | error e => simp [Slot.map, Observation.slotFeed]
  simp only [propertiesDigest, Observation.slotsDigest, Observation.feedSlots_eq_map, observation,
    slots_eq_map hb, List.map_map]
  exact congrArg (7 + unordered ·) (List.map_congr_left fun p _ => hslot p)

end Bean

/-! ## Values -/

namespace Value

/-- Beans are equal as values if their types are the same and so are their properties. -/
theorem same_bean {a b : Bean} (ha : a.kind.Lawful (a.fields.map Prod.fst))
    (hb : b.kind.Lawful (b.fields.map Prod.fst)) :
    (bean a).same (bean b) = (a.type.same b.type && a.propertiesSame b) := by
  rw [Bean.propertiesSame_eq ha hb, ← Bool.and_assoc, Value.same, observe_bean, observe_bean]
  rfl

/-- Beans of one type are equal as values if their properties are. -/
lemma same_bean_of_type {a b : Bean} (ha : a.kind.Lawful (a.fields.map Prod.fst))
    (hb : b.kind.Lawful (b.fields.map Prod.fst)) (htype : a.type = b.type) :
    (bean a).same (bean b) = a.propertiesSame b := by
  rw [same_bean ha hb, htype, BeanType.same, beq_self_eq_true, Bool.true_and]

/-- The bytes of a bean are those of its properties, in whatever order they are. -/
theorem feed_bean {b : Bean} (hb : b.kind.Lawful (b.fields.map Prod.fst)) :
    (bean b).feed = ofTag 9 ++ ofWord b.propertiesDigest := by
  rw [Bean.propertiesDigest_eq hb, Value.feed, observe_bean]
  rfl

/-- The bytes of a set are those of its items, in whatever order they are. -/
theorem feed_set (items : List Value) :
    (set items).feed = ofTag 6 ++ ofWord (unordered (items.map feed)) := by
  have hperm := (Order.sortBy_perm (Observation.leBy Identity.compare)
    (items.map observe)).map Observation.feed
  rw [Value.feed, observe_set, Observation.feed, Observation.feedAll_eq_map,
    Observation.sortBy, Observation.unordered_perm hperm, List.map_map]
  rfl

/-- The bytes of a map are those of its entries, in whatever order they are. -/
theorem feed_map (entries : List (Value × Value)) :
    (map entries).feed =
      ofTag 7 ++ ofWord (unordered (entries.map fun e => e.1.feed ++ e.2.feed)) := by
  let entryFeed (e : Observation × Observation) : Feed := e.1.feed ++ e.2.feed
  let observeEntry (e : Value × Value) := (e.1.observe, e.2.observe)
  have hzip (es : List (Observation × Observation)) :
      List.zipWith (· ++ ·) ((es.map Prod.fst).map Observation.feed)
        ((es.map Prod.snd).map Observation.feed) = es.map entryFeed := by
    induction es with
    | nil => rfl
    | cons e es ih => exact congrArg _ ih
  have hperm := (Order.sortBy_perm (Observation.leEntryBy Identity.compare)
    (entries.map observeEntry)).map entryFeed
  rw [Value.feed, observe_map, Observation.ofEntriesBy, Observation.feed,
    Observation.feedAll_eq_map, Observation.feedAll_eq_map, hzip, Observation.sortEntriesBy,
    Observation.unordered_perm hperm, List.map_map]
  rfl

end Value

/-! ## Laws -/

/-- A bean is sound if it is as a value. -/
def Bean.Sound (heap : Identity → Grid Value) (b : Bean) : Prop := (Value.bean b).Sound heap

section

variable {heap : Identity → Grid Value}

/-- A sound bean is lawful. -/
lemma Bean.Sound.lawful {b : Bean} (hb : b.Sound heap) :
    b.kind.Lawful (b.fields.map Prod.fst) := by
  cases hb with
  | bean hkind _ => exact hkind

/-- What can be seen of a sound bean is sound, whatever its type is taken to be. -/
lemma Bean.Sound.observation {b : Bean} (hb : b.Sound heap) (t : BeanType) :
    (Observation.bean t b.observation).Sound fun i => (heap i).map Value.observe := by
  have hvalue := Value.Sound.observe hb
  rw [Value.observe_bean] at hvalue
  cases hvalue with
  | bean hnames hslots => exact .bean hnames hslots

/-- Beans with the same properties are observations of one type that are equal. -/
lemma Bean.propertiesSame_eq_same {a b : Bean} (ha : a.Sound heap) (hb : b.Sound heap) :
    a.propertiesSame b = (Observation.bean flexibleType a.observation).same
      (.bean flexibleType b.observation) := by
  rw [propertiesSame_eq ha.lawful hb.lawful, Observation.same, BeanType.same, beq_self_eq_true,
    Bool.true_and]

end

end Beans

import Mathlib.Tactic.Common
import Beans.Proofs.Bean.Equality
import Beans.Proofs.Bean.Regular

/-!
# Values that are equal to themselves

Equality is not reflexive, but only one thing is not equal to itself: a property that is meant to be
read and cannot be.

## Main definitions

* `Beans.Observation.Legible` — what is meant to be read can be read.
* `Beans.Value.Lawful` — the properties of all beans in a value have different names.

## Main results

* `Beans.Value.Lawful.same_self_iff` — a value is equal to itself exactly if it is legible.
-/

set_option autoImplicit false

open List

namespace Beans

namespace Observation

/-- What is meant to be read can be read, in all beans in an observation. Nothing is asked of what is
in an object, which is the same object as itself; but an object that was made to show a value is not.
-/
inductive Legible : Observation → Prop
  | scalar (s : Scalar) : Legible (.scalar s)
  | list {items : List Observation} (hitems : ∀ a ∈ items, Legible a) : Legible (.list items)
  | set {items : List Observation} (hitems : ∀ a ∈ items, Legible a) : Legible (.set items)
  | map {keys values : List Observation} (hkeys : ∀ a ∈ keys, Legible a)
      (hvalues : ∀ a ∈ values, Legible a) : Legible (.map keys values)
  | absent : Legible .absent
  | present {a : Observation} (ha : Legible a) : Legible (.present a)
  | bean {type : BeanType} {slots : List (Slot Observation)} (hread : ∀ n, .failed n ∉ slots)
      (hshown : ∀ n a, .shown n a ∈ slots → Legible a) : Legible (.bean type slots)
  | thing {i : Identity} (hi : i ≠ .made) : Legible (.thing i)
  | object {i : Identity} (hi : i ≠ .made) (g : Grid Observation) : Legible (.grid i g)
  | grid (i : Identity) {g : Grid Observation} (hcells : ∀ c ∈ g.cells, Legible c.2) :
      Legible (.grid i g)

/-- A sequence is equal to itself if its items are. -/
lemma sameAll_self_iff {as : List Observation} :
    sameAll as as = true ↔ ∀ a ∈ as, a.same a = true := by
  rw [sameAll_iff, forall₂_same]

/-- Slots of different names match themselves if each can be read and shows what is equal to itself. -/
lemma same_bean_self_iff {t : BeanType} {slots : List (Slot Observation)}
    (hnames : (slots.map Slot.name).Nodup) :
    (bean t slots).same (bean t slots) = true ↔
      (∀ n, .failed n ∉ slots) ∧ ∀ n a, .shown n a ∈ slots → a.same a = true := by
  have hslot : (bean t slots).same (bean t slots) = true ↔
      ∀ s ∈ slots, slotMatches s s = true := by
    rw [same, BeanType.same, beq_self_eq_true, beq_self_eq_true, Bool.true_and, Bool.true_and,
      matchesSlots_eq_all, all_eq_true]
    refine forall₂_congr fun s hs => ?_
    rw [find?_name_of_nodup hnames hs, Option.any_some]
  rw [hslot]
  constructor
  · exact fun h => ⟨fun n hn => Bool.noConfusion (h _ hn), fun n a ha => h _ ha⟩
  · rintro ⟨hread, hshown⟩ s hs
    cases s with
    | hidden n => rfl
    | failed n => exact absurd hs (hread n)
    | shown n a => exact hshown n a hs

end Observation

namespace Value

/-! ## One level -/

/-- A list is equal to itself if its items are. -/
lemma same_list_self_iff {items : List Value} :
    (list items).same (list items) = true ↔ ∀ v ∈ items, v.same v = true := by
  rw [same, observe_list]
  change Observation.sameAll _ _ = true ↔ _
  rw [Observation.sameAll_self_iff, forall_mem_map]
  rfl

/-- A set is equal to itself if its items are. -/
lemma same_set_self_iff {items : List Value} :
    (set items).same (set items) = true ↔ ∀ v ∈ items, v.same v = true := by
  rw [same, observe_set]
  change Observation.sameAll _ _ = true ↔ _
  simp only [Observation.sameAll_self_iff, Observation.mem_sortBy]
  exact forall_mem_map

/-- A map is equal to itself if its keys and values are. -/
lemma same_map_self_iff {entries : List (Value × Value)} : (map entries).same (map entries) = true ↔
    ∀ e ∈ entries, e.1.same e.1 = true ∧ e.2.same e.2 = true := by
  let sorted := Observation.sortEntriesBy Identity.compare
    (entries.map fun e => (e.1.observe, e.2.observe))
  rw [same, observe_map]
  change (Observation.sameAll (sorted.map Prod.fst) _ &&
    Observation.sameAll (sorted.map Prod.snd) _) = true ↔ _
  rw [Bool.and_eq_true, Observation.sameAll_self_iff, Observation.sameAll_self_iff,
    forall_mem_map, forall_mem_map, ← forall₂_and]
  simp only [sorted, Observation.mem_sortEntriesBy]
  exact forall_mem_map

/-- A grid is equal to itself if it is an object one can hold twice, or if its cells are. -/
lemma same_grid_self_iff {i : Identity} {g : Grid Value} : (grid i g).same (grid i g) = true ↔
    i ≠ .made ∨ ∀ c ∈ g.cells, c.2.same c.2 = true := by
  obtain ⟨rows, columns, cells⟩ := g
  have hidentity : i.isSame i = true ↔ i ≠ .made := by
    rw [Identity.isSame, decide_eq_true_iff]
    exact and_iff_right rfl
  rw [same, observe_grid]
  change (i.isSame i || (rows == rows && columns == columns && Observation.sameCells _ _)) = true ↔ _
  rw [beq_self_eq_true, beq_self_eq_true, Bool.true_and, Bool.true_and, Bool.or_eq_true, hidentity,
    Observation.sameCells_iff, forall₂_same, forall_mem_map]
  exact or_congr_right (forall₂_congr fun c hc => and_iff_right rfl)

/-- A list is legible if its items are. -/
lemma legible_list_iff {items : List Value} :
    (list items).observe.Legible ↔ ∀ v ∈ items, v.observe.Legible := by
  rw [observe_list]
  constructor
  · intro h
    cases h with | list h => exact forall_mem_map.mp h
  · exact fun h => .list (forall_mem_map.mpr h)

/-- A set is legible if its items are. -/
lemma legible_set_iff {items : List Value} :
    (set items).observe.Legible ↔ ∀ v ∈ items, v.observe.Legible := by
  rw [observe_set]
  constructor
  · intro h v hv
    cases h with | set h => exact h v.observe (Observation.mem_sortBy.mpr (mem_map_of_mem hv))
  · intro h
    refine .set fun a ha => ?_
    obtain ⟨v, hv, rfl⟩ := mem_map.mp (Observation.mem_sortBy.mp ha)
    exact h v hv

/-- A map is legible if its keys and values are. -/
lemma legible_map_iff {entries : List (Value × Value)} : (map entries).observe.Legible ↔
    ∀ e ∈ entries, e.1.observe.Legible ∧ e.2.observe.Legible := by
  let sorted := Observation.sortEntriesBy Identity.compare
    (entries.map fun e => (e.1.observe, e.2.observe))
  rw [observe_map]
  change (Observation.map (sorted.map Prod.fst) (sorted.map Prod.snd)).Legible ↔ _
  constructor
  · intro h e he
    have hd : (e.1.observe, e.2.observe) ∈ sorted :=
      Observation.mem_sortEntriesBy.mpr (mem_map_of_mem he)
    cases h with | map hkeys hvalues =>
    exact ⟨forall_mem_map.mp hkeys _ hd, forall_mem_map.mp hvalues _ hd⟩
  · intro h
    have hentry : ∀ d ∈ sorted, d.1.Legible ∧ d.2.Legible := by
      intro d hd
      obtain ⟨e, he, rfl⟩ := mem_map.mp (Observation.mem_sortEntriesBy.mp hd)
      exact h e he
    exact .map (forall_mem_map.mpr fun d hd => (hentry d hd).1)
      (forall_mem_map.mpr fun d hd => (hentry d hd).2)

/-- A grid is legible if it is an object one can hold twice, or if its cells are. -/
lemma legible_grid_iff {i : Identity} {g : Grid Value} : (grid i g).observe.Legible ↔
    i ≠ .made ∨ ∀ c ∈ g.cells, c.2.observe.Legible := by
  rw [observe_grid]
  constructor
  · intro h
    cases h with
    | object hi => exact .inl hi
    | grid _ hcells => exact .inr fun c hc => hcells _ (mem_map_of_mem hc)
  · rintro (hi | hcells)
    · exact .object hi _
    · refine .grid i fun d hd => ?_
      obtain ⟨c, hc, rfl⟩ := mem_map.mp hd
      exact hcells c hc

/-! ## Beans and values -/

/-- A bean is equal to itself if it is legible, if that is known of its fields. -/
lemma same_bean_self_iff {b : Bean} (hb : b.kind.Lawful (b.fields.map Prod.fst))
    (ih : ∀ f ∈ b.fields, f.2.same f.2 = true ↔ f.2.observe.Legible) :
    (bean b).same (bean b) = true ↔ (bean b).observe.Legible := by
  have hnames : ((b.slots.map (Slot.map observe)).map Slot.name).Nodup := by
    simpa [Function.comp_def] using nodup_slots hb
  have hvalue {n : String} {a : Observation} (h : .shown n a ∈ b.slots.map (Slot.map observe)) :
      a.same a = true ↔ a.Legible := by
    obtain ⟨s, rfl⟩ | ⟨f, hf, rfl⟩ := observed_of_slots h
    · exact iff_of_true (decide_eq_true rfl) (.scalar s)
    · exact ih f hf
  rw [same, observe_bean, Observation.same_bean_self_iff hnames]
  constructor
  · rintro ⟨hread, hshown⟩
    exact .bean hread fun n a ha => (hvalue ha).mp (hshown n a ha)
  · intro h
    cases h with
    | bean hread hshown => exact ⟨hread, fun n a ha => (hvalue ha).mpr (hshown n a ha)⟩

/-- All beans in a value are lawful. -/
inductive Lawful : Value → Prop
  | scalar (s : Scalar) : Lawful (.scalar s)
  | list {items : List Value} (hitems : ∀ v ∈ items, Lawful v) : Lawful (.list items)
  | set {items : List Value} (hitems : ∀ v ∈ items, Lawful v) : Lawful (.set items)
  | map {entries : List (Value × Value)} (hkeys : ∀ e ∈ entries, Lawful e.1)
      (hvalues : ∀ e ∈ entries, Lawful e.2) : Lawful (.map entries)
  | absent : Lawful (.optional none)
  | present {v : Value} (hv : Lawful v) : Lawful (.optional (some v))
  | bean {b : Bean} (hkind : b.kind.Lawful (b.fields.map Prod.fst))
      (hfields : ∀ f ∈ b.fields, Lawful f.2) : Lawful (.bean b)
  | thing (i : Identity) (t : Thing) : Lawful (.thing i t)
  | grid (i : Identity) {g : Grid Value} (hcells : ∀ c ∈ g.cells, Lawful c.2) : Lawful (.grid i g)

/-- The beans in a sound value are lawful. -/
lemma Sound.toLawful {heap : Identity → Grid Value} {v : Value} (hv : v.Sound heap) : v.Lawful := by
  induction hv with
  | scalar s => exact .scalar s
  | list _ ih => exact .list ih
  | set _ ih => exact .set ih
  | map _ _ ihk ihv => exact .map ihk ihv
  | absent => exact .absent
  | present _ ih => exact .present ih
  | bean hkind _ ih => exact .bean hkind ih
  | thing i t => exact .thing i t
  | grid _ _ ih => exact .grid _ ih

/-- The beans in a regular value are lawful. -/
lemma Regular.toLawful {v : Value} (hv : v.Regular) : v.Lawful := by
  induction hv with
  | scalar s => exact .scalar s
  | list _ ih => exact .list ih
  | set _ ih => exact .set ih
  | map _ _ ihk ihv => exact .map ihk ihv
  | absent => exact .absent
  | present _ ih => exact .present ih
  | thing _ t => exact .thing _ t
  | grid i _ ih => exact .grid i ih
  | @record t _ ht _ _ ih => exact .bean (b := ⟨.record t, _⟩) ht.lawful ih
  | @flexible types _ hnames _ ih => exact .bean (b := ⟨.flexible types, _⟩) hnames ih
  | sorted hnames _ ih => exact .bean (b := ⟨.sorted, _⟩) hnames.nodup ih

/-- **A value is equal to itself exactly if it is legible.** -/
theorem Lawful.same_self_iff {v : Value} (hv : v.Lawful) :
    v.same v = true ↔ v.observe.Legible := by
  induction hv with
  | scalar s => exact iff_of_true (decide_eq_true rfl) (.scalar s)
  | list _ ih =>
    rw [same_list_self_iff, legible_list_iff]
    exact forall₂_congr ih
  | set _ ih =>
    rw [same_set_self_iff, legible_set_iff]
    exact forall₂_congr ih
  | map _ _ ihk ihv =>
    rw [same_map_self_iff, legible_map_iff]
    exact forall₂_congr fun e he => and_congr (ihk e he) (ihv e he)
  | absent => exact iff_of_true rfl .absent
  | present _ ih =>
    refine ih.trans ⟨.present, fun h => ?_⟩
    cases h with | present h => exact h
  | bean hkind _ ih => exact same_bean_self_iff hkind ih
  | thing i t =>
    -- an object that was made to show a value is not even the same object as itself
    constructor
    · exact fun h => .thing (of_decide_eq_true h).2
    · intro h
      cases h with | thing hi => exact decide_eq_true ⟨rfl, hi⟩
  | grid i _ ih =>
    rw [same_grid_self_iff, legible_grid_iff]
    exact or_congr_right (forall₂_congr ih)

/-- A regular value is equal to itself exactly if it is legible. -/
theorem Regular.same_self_iff {v : Value} (hv : v.Regular) :
    v.same v = true ↔ v.observe.Legible :=
  hv.toLawful.same_self_iff

end Value

end Beans

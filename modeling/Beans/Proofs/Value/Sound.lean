import Mathlib.Tactic.Common
import Beans.Proofs.Value.Observation

/-!
# Sound values

All values that a program makes obey two rules that the type of values does not know. The beans in
them are lawful; and an object has one content wherever it occurs. What an object holds is looked up
in a heap, so that the second rule is one about single values.

## Main definitions

* `Beans.Value.Sound` — all beans in a value are lawful, and all grids hold what the heap says.
* `Beans.Observation.Sound` — the same of what can be seen of a value.

## Main results

* `Beans.Value.Sound.observe` — what can be seen of a sound value is sound.

## Implementation notes

Objects that are made to show a value are not in the heap. No other object has their identity.
-/

set_option autoImplicit false

namespace Beans

/-- All beans in a value are lawful, and all grids in it hold what the heap says. -/
inductive Value.Sound (heap : Identity → Grid Value) : Value → Prop
  | scalar (s : Scalar) : Sound heap (.scalar s)
  | list {items : List Value} (hitems : ∀ v ∈ items, Sound heap v) : Sound heap (.list items)
  | set {items : List Value} (hitems : ∀ v ∈ items, Sound heap v) : Sound heap (.set items)
  | map {entries : List (Value × Value)} (hkeys : ∀ e ∈ entries, Sound heap e.1)
      (hvalues : ∀ e ∈ entries, Sound heap e.2) : Sound heap (.map entries)
  | absent : Sound heap (.optional none)
  | present {v : Value} (hv : Sound heap v) : Sound heap (.optional (some v))
  | bean {kind : BeanKind} {fields : List (String × Value)}
      (hkind : kind.Lawful (fields.map Prod.fst)) (hfields : ∀ f ∈ fields, Sound heap f.2) :
      Sound heap (.bean ⟨kind, fields⟩)
  | thing (i : Identity) (t : Thing) : Sound heap (.thing i t)
  | grid {i : Identity} {g : Grid Value} (hgrid : i ≠ .made → heap i = g)
      (hcells : ∀ c ∈ g.cells, Sound heap c.2) : Sound heap (.grid i g)

/-- The slots of all beans in an observation have different names, and all grids in it hold what the
given one for their identity does. -/
inductive Observation.Sound (grids : Identity → Grid Observation) : Observation → Prop
  | scalar (s : Scalar) : Sound grids (.scalar s)
  | list {items : List Observation} (hitems : ∀ a ∈ items, Sound grids a) :
      Sound grids (.list items)
  | set {items : List Observation} (hitems : ∀ a ∈ items, Sound grids a) : Sound grids (.set items)
  | map {keys values : List Observation} (hkeys : ∀ a ∈ keys, Sound grids a)
      (hvalues : ∀ a ∈ values, Sound grids a) : Sound grids (.map keys values)
  | absent : Sound grids .absent
  | present {a : Observation} (ha : Sound grids a) : Sound grids (.present a)
  | bean {type : BeanType} {slots : List (Slot Observation)}
      (hnames : (slots.map Slot.name).Nodup)
      (hslots : ∀ n a, .shown n a ∈ slots → Sound grids a) : Sound grids (.bean type slots)
  | thing (i : Identity) : Sound grids (.thing i)
  | grid {i : Identity} {g : Grid Observation} (hgrid : i ≠ .made → grids i = g)
      (hcells : ∀ c ∈ g.cells, Sound grids c.2) : Sound grids (.grid i g)

/-- A bean shows scalars and what is in its fields. -/
lemma shown_of_slots {b : Bean} {n : String} {v : Value} (h : .shown n v ∈ b.slots) :
    (∃ s, v = .scalar s) ∨ ∃ f ∈ b.fields, f.2 = v := by
  obtain ⟨kind, fields⟩ := b
  cases kind with
  | record t =>
    obtain ⟨p, -, hp⟩ := List.mem_map.mp h
    unfold RecordProperty.slot at hp
    split at hp
    · cases hp
    split at hp
    · cases hp
    · cases hp
      exact .inl ⟨_, rfl⟩
    · split at hp
      case _ hlookup =>
        cases hp
        obtain ⟨before, after, hfields, -⟩ := List.lookup_eq_some_iff.mp hlookup
        refine .inr ⟨(p.name, v), ?_, rfl⟩
        rw [hfields]
        exact List.mem_append_right before List.mem_cons_self
      case _ => cases hp
  | flexible types =>
    obtain ⟨f, hf, hshown⟩ := List.mem_map.mp h
    cases hshown
    exact .inr ⟨f, hf, rfl⟩
  | sorted =>
    obtain ⟨f, hf, hshown⟩ := List.mem_map.mp h
    cases hshown
    exact .inr ⟨f, hf, rfl⟩

/-- What can be seen in a bean is a scalar or can be seen in its fields. -/
lemma observed_of_slots {b : Bean} {n : String} {a : Observation}
    (h : .shown n a ∈ b.slots.map (Slot.map Value.observe)) :
    (∃ s, a = .scalar s) ∨ ∃ f ∈ b.fields, f.2.observe = a := by
  obtain ⟨s, hs, hshown⟩ := List.mem_map.mp h
  cases s with
  | hidden m => cases hshown
  | failed m => cases hshown
  | shown m v =>
    cases hshown
    rcases shown_of_slots hs with ⟨s, rfl⟩ | ⟨f, hf, rfl⟩
    · exact .inl ⟨s, rfl⟩
    · exact .inr ⟨f, hf, rfl⟩

/-- What can be seen of a sound value is sound. -/
theorem Value.Sound.observe {heap : Identity → Grid Value} {v : Value} (h : v.Sound heap) :
    v.observe.Sound fun i => (heap i).map Value.observe := by
  induction h with
  | scalar s => exact .scalar s
  | list _ ih =>
    rw [observe_list]
    exact .list (List.forall_mem_map.mpr ih)
  | set _ ih =>
    rw [observe_set]
    refine .set fun a ha => ?_
    exact List.forall_mem_map.mpr ih a (Observation.mem_sortBy.mp ha)
  | map _ _ ihk ihv =>
    rw [observe_map]
    refine .map (List.forall_mem_map.mpr fun e he => ?_) (List.forall_mem_map.mpr fun e he => ?_)
    all_goals obtain ⟨f, hf, rfl⟩ := List.mem_map.mp (Observation.mem_sortEntriesBy.mp he)
    · exact ihk f hf
    · exact ihv f hf
  | absent => exact .absent
  | present _ ih => exact .present ih
  | @bean kind fields hkind _ ih =>
    rw [observe_bean]
    refine .bean ?_ fun n a ha => ?_
    · have hlawful : (BeanOf.mk kind fields).kind.Lawful (fields.map Prod.fst) := hkind
      simpa [Function.comp_def] using nodup_slots hlawful
    · obtain ⟨s, rfl⟩ | ⟨f, hf, rfl⟩ := observed_of_slots (b := ⟨kind, fields⟩) ha
      · exact .scalar s
      · exact ih f hf
  | thing i t => exact .thing i
  | grid hgrid _ ih =>
    rw [observe_grid]
    refine .grid (fun hi => ?_) ?_
    · rw [hgrid hi]
    · intro c hc
      obtain ⟨d, hd, rfl⟩ := List.mem_map.mp hc
      exact ih d hd

end Beans

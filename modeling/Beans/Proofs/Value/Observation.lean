import Mathlib.Tactic.Common
import Beans.Proofs.Bean.Slots
import Beans.Value.Observation

/-!
# Observing part by part

Values are observed by functions that go through the lists inside them. Here each of them is a map
over its list, so that what can be seen of a value is given by an equation for each kind.

## Main results

* `Beans.Value.observe_list` and the like — the observation of a value of each kind.
* `Beans.Value.observe_bean` — what can be seen of a bean are its slots.
-/

set_option autoImplicit false

namespace Beans

namespace Observation

/-- Sorting keeps the items. -/
lemma mem_sortBy {as : List Observation} {a : Observation} :
    a ∈ sortBy Identity.compare as ↔ a ∈ as :=
  (Order.sortBy_perm _ _).mem_iff

/-- Sorting keeps the entries. -/
lemma mem_sortEntriesBy {es : List (Observation × Observation)} {e : Observation × Observation} :
    e ∈ sortEntriesBy Identity.compare es ↔ e ∈ es :=
  (Order.sortBy_perm _ _).mem_iff

end Observation

namespace Value

section

variable (objects : Identity → Identity → Ordering)

/-- Values are observed one by one. -/
lemma observeAllBy_eq_map (items : List Value) :
    observeAllBy objects items = items.map (observeBy objects) := by
  induction items with
  | nil => rfl
  | cons v items ih => exact congrArg _ ih

/-- Entries are observed one by one. -/
lemma observeEntriesBy_eq_map (entries : List (Value × Value)) :
    observeEntriesBy objects entries =
      entries.map fun e => (observeBy objects e.1, observeBy objects e.2) := by
  induction entries with
  | nil => rfl
  | cons e entries ih => exact congrArg _ ih

/-- Fields are observed one by one. -/
lemma observeFieldsBy_eq_map (fields : List (String × Value)) :
    observeFieldsBy objects fields = fields.map fun f => (f.1, observeBy objects f.2) := by
  induction fields with
  | nil => rfl
  | cons f fields ih => exact congrArg _ ih

/-- Cells are observed one by one. -/
lemma observeCellsBy_eq_map (cells : List ((Nat × Nat) × Value)) :
    observeCellsBy objects cells = cells.map fun c => (c.1, observeBy objects c.2) := by
  induction cells with
  | nil => rfl
  | cons c cells ih => exact congrArg _ ih

end

@[simp]
lemma observe_scalar (s : Scalar) : (scalar s).observe = .scalar s := rfl

@[simp]
lemma observe_list (items : List Value) : (list items).observe = .list (items.map observe) :=
  congrArg _ (observeAllBy_eq_map _ items)

@[simp]
lemma observe_set (items : List Value) :
    (set items).observe = .set (Observation.sortBy Identity.compare (items.map observe)) :=
  congrArg (fun os => Observation.set (Observation.sortBy _ os)) (observeAllBy_eq_map _ items)

@[simp]
lemma observe_map (entries : List (Value × Value)) :
    (map entries).observe = .ofEntriesBy Identity.compare
      (entries.map fun e => (e.1.observe, e.2.observe)) :=
  congrArg _ (observeEntriesBy_eq_map _ entries)

@[simp]
lemma observe_none : (optional none).observe = .absent := rfl

@[simp]
lemma observe_some (v : Value) : (optional (some v)).observe = .present v.observe := rfl

/-- What can be seen of a bean are its slots. -/
@[simp]
lemma observe_bean (b : Bean) :
    (bean b).observe = .bean b.type (b.slots.map (Slot.map observe)) := by
  obtain ⟨kind, fields⟩ := b
  refine congrArg (Observation.bean kind.type) ?_
  rw [observeFieldsBy_eq_map]
  exact BeanKind.slots_map observe kind fields fields scalar

@[simp]
lemma observe_thing (i : Identity) (t : Thing) : (thing i t).observe = .thing i := rfl

@[simp]
lemma observe_grid (i : Identity) (g : Grid Value) :
    (grid i g).observe = .grid i (g.map observe) := by
  obtain ⟨rows, columns, cells⟩ := g
  exact congrArg (fun cs => Observation.grid i ⟨rows, columns, cs⟩) (observeCellsBy_eq_map _ cells)

end Value

end Beans

import Mathlib.Tactic.Common
import Beans.Proofs.Value.Unordered

/-!
# Plain values

Plain values are built from scalars by lists, sets, maps and optional values, without beans and
objects. Of two such values the order tells the same as equality: they are tied exactly if they are
equal. Both go down the two values side by side, so that the one law is an induction over plain data
in each direction. Objects do not occur in it; how they are ordered makes no difference.

## Main definitions

* `Beans.Value.Plain` — values without beans and objects.

## Main results

* `Beans.Value.Plain.compareBy_eq` — plain values are ordered alike whatever the order of objects.
* `Beans.Value.plain_tied_iff` — plain values are tied exactly if they are equal.
-/

set_option autoImplicit false

open Std

namespace Beans

open Beans.Order

/-- Without beans and objects. -/
inductive Value.Plain : Value → Prop
  | scalar (s : Scalar) : Plain (.scalar s)
  | list {items : List Value} (hitems : ∀ v ∈ items, Plain v) : Plain (.list items)
  | set {items : List Value} (hitems : ∀ v ∈ items, Plain v) : Plain (.set items)
  | map {entries : List (Value × Value)} (hkeys : ∀ e ∈ entries, Plain e.1)
      (hvalues : ∀ e ∈ entries, Plain e.2) : Plain (.map entries)
  | absent : Plain (.optional none)
  | present {v : Value} (hv : Plain v) : Plain (.optional (some v))

namespace Observation

variable {objects objects' : Identity → Identity → Ordering}

/-! ## The order of objects -/

/-- Sequences are ordered alike if their items are. -/
lemma compareAllBy_congr {as bs : List Observation}
    (h : ∀ a ∈ as, ∀ b ∈ bs, compareBy objects a b = compareBy objects' a b) :
    compareAllBy objects as bs = compareAllBy objects' as bs := by
  induction as generalizing bs with
  | nil => cases bs <;> rfl
  | cons a as ih =>
    cases bs with
    | nil => rfl
    | cons b bs =>
      rw [compareAllBy, compareAllBy, h a List.mem_cons_self b List.mem_cons_self,
        ih fun x hx y hy => h x (List.mem_cons_of_mem a hx) y (List.mem_cons_of_mem b hy)]

/-- Plain observations are ordered alike whatever the order of objects. -/
lemma Plain.compareBy_congr {a b : Observation} (ha : a.Plain) (hb : b.Plain) :
    compareBy objects a b = compareBy objects' a b := by
  induction ha generalizing b with
  | list _ ih =>
    cases hb with
    | list hbs => exact compareAllBy_congr fun x hx y hy => ih x hx (hbs y hy)
    | _ => rfl
  | set _ ih =>
    cases hb with
    | set hbs => exact compareAllBy_congr fun x hx y hy => ih x hx (hbs y hy)
    | _ => rfl
  | map _ _ ihk ihv =>
    cases hb with
    | map hks hvs =>
      rw [compareBy, compareBy, compareAllBy_congr fun x hx y hy => ihk x hx (hks y hy),
        compareAllBy_congr fun x hx y hy => ihv x hx (hvs y hy)]
    | _ => rfl
  | present _ ih =>
    cases hb with
    | present hb => exact ih hb
    | _ => rfl
  | scalar s => cases hb <;> rfl
  | absent => cases hb <;> rfl

/-! ## Equal observations -/

/-- Sequences are tied if their items are, one by one. -/
lemma compareAllBy_of_forall₂ {as bs : List Observation}
    (h : List.Forall₂ (fun a b => compareBy objects a b = .eq) as bs) :
    compareAllBy objects as bs = .eq := by
  induction h with
  | nil => rfl
  | cons hab _ ih => exact Ordering.then_eq_eq.mpr ⟨hab, ih⟩

/-- Plain observations that are equal are tied.

**Proof sketch.** Induction on how the first observation is plain. No objects stand in it, so that
their order is never asked for. -/
theorem Plain.compareBy_of_same {a b : Observation} (ha : a.Plain) (h : a.same b = true) :
    compareBy objects a b = .eq := by
  have hall {as bs : List Observation} (h : sameAll as bs = true)
      (ih : ∀ a ∈ as, ∀ {b : Observation}, a.same b = true → compareBy objects a b = .eq) :
      compareAllBy objects as bs = .eq :=
    compareAllBy_of_forall₂ (forall₂_imp_of_mem (sameAll_iff.mp h) fun x hx _ _ => ih x hx)
  induction ha generalizing b with
  | scalar s =>
    cases b with
    | scalar t =>
      obtain rfl : s = t := of_decide_eq_true h
      exact (ReflCmp.compare_self : s.compare s = .eq)
    | _ => cases h
  | list _ ih =>
    cases b with
    | list bs => exact hall h ih
    | _ => cases h
  | set _ ih =>
    cases b with
    | set bs => exact hall h ih
    | _ => cases h
  | map _ _ ihk ihv =>
    cases b with
    | map ks vs =>
      obtain ⟨hkeys, hvalues⟩ := Bool.and_eq_true_iff.mp h
      exact Ordering.then_eq_eq.mpr ⟨hall hkeys ihk, hall hvalues ihv⟩
    | _ => cases h
  | absent =>
    cases b with
    | absent => rfl
    | _ => cases h
  | present _ ih =>
    cases b with
    | present b => exact ih h
    | _ => cases h

/-- Plain observations are tied exactly if they are equal. -/
lemma Plain.compareBy_eq_iff {a b : Observation} (ha : a.Plain) (hb : b.Plain) :
    compareBy objects a b = .eq ↔ a.same b = true :=
  ⟨ha.same_of_compareBy hb, ha.compareBy_of_same⟩

end Observation

namespace Value

/-- What can be seen of a plain value is plain. -/
theorem Plain.observe {v : Value} (hv : v.Plain) : v.observe.Plain := by
  induction hv with
  | scalar s => exact .scalar s
  | list _ ih =>
    rw [observe_list]
    exact .list (List.forall_mem_map.mpr ih)
  | set _ ih =>
    rw [observe_set]
    exact .set fun a ha => List.forall_mem_map.mpr ih a (Observation.mem_sortBy.mp ha)
  | map _ _ ihk ihv =>
    rw [observe_map]
    refine .map (List.forall_mem_map.mpr fun e he => ?_) (List.forall_mem_map.mpr fun e he => ?_)
    all_goals obtain ⟨f, hf, rfl⟩ := List.mem_map.mp (Observation.mem_sortEntriesBy.mp he)
    · exact ihk f hf
    · exact ihv f hf
  | absent => exact .absent
  | present _ ih => exact .present ih

/-- What can be seen of a plain value does not depend on the order of objects.

**Proof sketch.** Induction on how the value is plain. The order of objects could only matter for
how sets and maps are listed, and plain items are compared without it. -/
theorem Plain.observeBy_eq (objects : Identity → Identity → Ordering) {v : Value} (hv : v.Plain) :
    observeBy objects v = v.observe := by
  induction hv with
  | scalar s => rfl
  | @list items _ ih =>
    rw [observeBy, observeAllBy_eq_map, List.map_congr_left ih, observe_list]
  | @set items hitems ih =>
    rw [observeBy, observeAllBy_eq_map, List.map_congr_left ih, observe_set]
    refine congrArg Observation.set (sortBy_congr fun a ha b hb => ?_)
    obtain ⟨v, hv, rfl⟩ := List.mem_map.mp ha
    obtain ⟨w, hw, rfl⟩ := List.mem_map.mp hb
    rw [Observation.leBy, Observation.leBy,
      (hitems v hv).observe.compareBy_congr (hitems w hw).observe]
  | @map entries hkeys hvalues ihk ihv =>
    have hentries : entries.map (fun e => (observeBy objects e.1, observeBy objects e.2)) =
        entries.map fun e => (e.1.observe, e.2.observe) :=
      List.map_congr_left fun e he => by rw [ihk e he, ihv e he]
    rw [observeBy, observeEntriesBy_eq_map, hentries, observe_map, Observation.ofEntriesBy,
      Observation.ofEntriesBy, Observation.sortEntriesBy, sortBy_congr fun a ha b hb => ?_]
    · rfl
    obtain ⟨e, he, rfl⟩ := List.mem_map.mp ha
    obtain ⟨f, hf, rfl⟩ := List.mem_map.mp hb
    rw [Observation.leEntryBy, Observation.leEntryBy, Observation.compareEntryBy,
      Observation.compareEntryBy, (hkeys e he).observe.compareBy_congr (hkeys f hf).observe,
      (hvalues e he).observe.compareBy_congr (hvalues f hf).observe]
  | absent => rfl
  | present _ ih => exact congrArg Observation.present ih

/-- Plain values are ordered alike whatever the order of objects. -/
theorem Plain.compareBy_eq (objects : Identity → Identity → Ordering) {a b : Value} (ha : a.Plain)
    (hb : b.Plain) : a.compareBy objects b = a.compare b := by
  rw [Value.compareBy, ha.observeBy_eq, hb.observeBy_eq]
  exact ha.observe.compareBy_congr hb.observe

/-- Plain values are tied in the order in use exactly if they are equal. -/
lemma Plain.compare_eq_iff {a b : Value} (ha : a.Plain) (hb : b.Plain) :
    a.compare b = .eq ↔ a.same b = true :=
  ha.observe.compareBy_eq_iff hb.observe

/-- Scalars are tied only with themselves. -/
lemma compareBy_scalar_iff (objects : Identity → Identity → Ordering) {s t : Scalar} :
    (scalar s).compareBy objects (scalar t) = .eq ↔ s = t :=
  ⟨Scalar.eq_of_compare, fun h => h ▸ (ReflCmp.compare_self : s.compare s = .eq)⟩

/-- **Order and equality of plain values.** Whatever the order of objects, two plain values are tied
exactly if they are equal. In particular numbers of different kinds are never tied, and
floating-point numbers only if they have the same bits. -/
theorem plain_tied_iff (objects : Identity → Identity → Ordering) :
    (∀ a b : Value, a.Plain → b.Plain → (a.compareBy objects b = .eq ↔ a.same b = true)) ∧
      (∀ i u x,
        (int i).compareBy objects (uint u) ≠ .eq ∧ (uint u).compareBy objects (int i) ≠ .eq ∧
        (int i).compareBy objects (float x) ≠ .eq ∧ (float x).compareBy objects (int i) ≠ .eq ∧
        (uint u).compareBy objects (float x) ≠ .eq ∧ (float x).compareBy objects (uint u) ≠ .eq) ∧
      ∀ x y, (float x).compareBy objects (float y) = .eq ↔ x.bits = y.bits := by
  refine ⟨fun a b ha hb => ?_, fun i u x => ?_, fun x y => ?_⟩
  · rw [ha.compareBy_eq objects hb, ha.compare_eq_iff hb]
  · simp [int, uint, float, compareBy_scalar_iff]
  · obtain ⟨x⟩ := x
    obtain ⟨y⟩ := y
    simp [float, compareBy_scalar_iff]

/-- A set in a map in a list, and the same with its items the other way round, are equal and
tied. -/
theorem plain_tied_nested :
    let one : Value := .int 1
    let other : Value := .uint 1
    let a : Value := .list [.map [(.text "k", .set [one, other])], .optional none]
    let b : Value := .list [.map [(.text "k", .set [other, one])], .optional none]
    a.Plain ∧ b.Plain ∧ a.same b = true ∧ a.compare b = .eq := by
  intro one other a b
  have hpair {v w : Value} (hv : v.Plain) (hw : w.Plain) :
      Plain (.list [.map [(.text "k", .set [v, w])], .optional none]) := by
    refine .list (List.forall_mem_cons.mpr ⟨?_, List.forall_mem_singleton.mpr .absent⟩)
    refine .map (List.forall_mem_singleton.mpr (.scalar _)) (List.forall_mem_singleton.mpr ?_)
    exact .set (List.forall_mem_cons.mpr ⟨hv, List.forall_mem_singleton.mpr hw⟩)
  have ha : a.Plain := hpair (.scalar _) (.scalar _)
  have hb : b.Plain := hpair (.scalar _) (.scalar _)
  have hsame : a.same b = true := by decide +kernel
  exact ⟨ha, hb, hsame, ((plain_tied_iff Identity.compare).1 a b ha hb).mpr hsame⟩

end Value

end Beans

import Mathlib.Tactic.Common
import Beans.Proofs.Bean.Equality
import Beans.Proofs.Bean.Store

/-!
# What changes keep

The changes of a bean with any properties are the same whether it keeps the order in which its
properties came or the order of their names. Each of them puts an entry, takes one away, declares
one, removes all, or does nothing. So a property of beans that these five keep holds after any
changes: what is held was put there, and names that are in order stay in order.

## Main definitions

* `Beans.Edit.value?` — the value that a change may store.
* `Beans.Kept` — a property of beans that is kept by what a change can do.
* `Beans.Bean.editedSorted` — an empty bean in the order of names after several changes.

## Main results

* `Beans.Edit.apply_cases` — what a change can do to a bean with any properties.
* `Beans.Kept.foldl_apply` — what is kept holds after any changes.
* `Beans.Bean.sound_edited`, `Beans.Bean.sound_editedSorted` — beans after changes are sound if the
  values are.
-/

set_option autoImplicit false

open List

namespace Beans

/-! ## What a change can do -/

/-- The value that a change may store. -/
def Edit.value? : Edit → Option Value
  | put _ v | set _ v | exchange _ v | setThrough _ v | exchangeThrough _ v => some v
  | define _ _ | erase _ | clear => none

section

variable {b : Bean} (hdynamic : b.kind.isDynamic = true)

include hdynamic

/-- Writing to a bean with any properties puts an entry. -/
lemma write_dynamic (name : String) (v : Value) : b.write name v = .ok (b.putEntry name v).2 := by
  obtain ⟨kind, fields⟩ := b
  cases kind with
  | record t => cases hdynamic
  | flexible types => rfl
  | sorted => rfl

/-- Setting a property of a bean with any properties puts an entry, if it succeeds. -/
lemma set_dynamic {p : MetaProperty} {v : Value} {b' : Bean} (h : p.set b v = .ok b') :
    b' = (b.putEntry p.name v).2 := by
  obtain ⟨-, h⟩ := MetaProperty.of_set h
  exact Except.ok.inj (h.symm.trans (write_dynamic hdynamic p.name v))

/-- So does exchanging its value. -/
lemma exchange_dynamic {p : MetaProperty} {v : Value} {r : Value × Bean} (h : p.put b v = .ok r) :
    r.2 = (b.putEntry p.name v).2 := by
  obtain ⟨old, -, h⟩ := bind_eq_ok_iff.mp h
  obtain ⟨b', hset, h⟩ := bind_eq_ok_iff.mp h
  cases h
  exact set_dynamic hdynamic hset

/-- **What a change can do.** It does nothing, puts the value that it may store, declares a property,
takes an entry away, or removes all. -/
theorem Edit.apply_cases (e : Edit) :
    e.apply b = b ∨ (∃ n v, e.value? = some v ∧ e.apply b = (b.putEntry n v).2) ∨
      (∃ n t, e.apply b = b.define n t) ∨ (∃ n, e.apply b = (b.eraseEntry n).2) ∨
        e.apply b = b.clear := by
  cases e with
  | put n v => exact .inr (.inl ⟨n, v, rfl, rfl⟩)
  | set n v =>
    rw [apply]
    cases h : b.set n v with
    | error err => exact .inl rfl
    | ok b' =>
      obtain ⟨p, -, h⟩ := bind_eq_ok_iff.mp h
      exact .inr (.inl ⟨p.name, v, rfl, set_dynamic hdynamic h⟩)
  | exchange n v =>
    rw [apply]
    cases h : b.put n v with
    | error err => exact .inl rfl
    | ok r =>
      obtain ⟨p, -, h⟩ := bind_eq_ok_iff.mp h
      exact .inr (.inl ⟨p.name, v, rfl, exchange_dynamic hdynamic h⟩)
  | setThrough p v =>
    rw [apply]
    cases h : p.set b v with
    | error err => exact .inl rfl
    | ok b' => exact .inr (.inl ⟨p.name, v, rfl, set_dynamic hdynamic h⟩)
  | exchangeThrough p v =>
    rw [apply]
    cases h : p.put b v with
    | error err => exact .inl rfl
    | ok r => exact .inr (.inl ⟨p.name, v, rfl, exchange_dynamic hdynamic h⟩)
  | define n t => exact .inr (.inr (.inl ⟨n, t, rfl⟩))
  | erase n => exact .inr (.inr (.inr (.inl ⟨n, rfl⟩)))
  | clear => exact .inr (.inr (.inr (.inr rfl)))

end

/-! ## What holds after any changes -/

/-- A property of beans with any properties that is kept by what a change can do, as long as the values
that are put fulfil a condition. -/
structure Kept (P : Value → Prop) (I : Bean → Prop) : Prop where
  dynamic : ∀ {b}, I b → b.kind.isDynamic = true
  put : ∀ {b} n v, I b → P v → I (b.putEntry n v).2
  define : ∀ {b} n t, I b → I (b.define n t)
  erase : ∀ {b} n, I b → I (b.eraseEntry n).2
  clear : ∀ {b}, I b → I b.clear

/-- What is kept holds after a change. -/
lemma Kept.apply {P : Value → Prop} {I : Bean → Prop} (h : Kept P I) {b : Bean} (hb : I b) {e : Edit}
    (he : ∀ v, e.value? = some v → P v) : I (e.apply b) := by
  rcases e.apply_cases (h.dynamic hb) with
    heq | ⟨n, v, hv, heq⟩ | ⟨n, t, heq⟩ | ⟨n, heq⟩ | heq <;> rw [heq]
  · exact hb
  · exact h.put n v hb (he v hv)
  · exact h.define n t hb
  · exact h.erase n hb
  · exact h.clear hb

/-- **What is kept holds after any changes.** -/
theorem Kept.foldl_apply {P : Value → Prop} {I : Bean → Prop} (h : Kept P I) {start : Bean}
    (hstart : I start) {edits : List Edit}
    (hedits : ∀ e ∈ edits, ∀ v, e.value? = some v → P v) : I (edits.foldl Edit.apply start) := by
  induction edits generalizing start with
  | nil => exact hstart
  | cons e edits ih =>
    obtain ⟨he, hedits⟩ := forall_mem_cons.mp hedits
    exact ih (h.apply hstart he) hedits

namespace Bean

/-- An empty bean in the order of names after some changes. -/
def editedSorted (edits : List Edit) : Bean := edits.foldl Edit.apply .sorted

/-! ### Values -/

/-- A bean with any properties that holds values of a condition only. -/
structure Holds (P : Value → Prop) (b : Bean) : Prop where
  dynamic : b.kind.isDynamic = true
  values : ∀ f ∈ b.fields, P f.2

section

variable {b : Bean} {n : String} {f : String × Value}

/-- Putting an entry adds nothing else. -/
lemma mem_putEntry {v : Value} (h : f ∈ (b.putEntry n v).2.fields) : f = (n, v) ∨ f ∈ b.fields := by
  obtain ⟨kind, fields⟩ := b
  cases kind with
  | record t => exact .inr h
  | flexible types => exact mem_putField h
  | sorted => exact mem_putSorted h

/-- Declaring a property adds at most an entry that holds nothing. -/
lemma mem_define {t : ResolvedType} (h : f ∈ (b.define n t).fields) :
    f = (n, .null) ∨ f ∈ b.fields := by
  obtain ⟨kind, fields⟩ := b
  have hnew {fields' : List (String × Value)} (hput : f ∈ fields' → f = (n, .null) ∨ f ∈ fields)
      (hf : f ∈ if (fields.lookup n).isSome then fields else fields') :
      f = (n, .null) ∨ f ∈ fields := by
    split at hf
    · exact .inr hf
    · exact hput hf
  cases kind with
  | record t => exact .inr h
  | flexible types => exact hnew mem_putField h
  | sorted => exact hnew mem_putSorted h

/-- Taking an entry away adds nothing. -/
lemma mem_eraseEntry (h : f ∈ (b.eraseEntry n).2.fields) : f ∈ b.fields := by
  obtain ⟨kind, fields⟩ := b
  cases kind with
  | record t => exact h
  | flexible types => exact mem_of_mem_filter h
  | sorted => exact mem_of_mem_filter h

end

/-- What is held was put there, or is nothing. -/
lemma kept_holds {P : Value → Prop} (hnull : P .null) : Kept P (Holds P) where
  dynamic := Holds.dynamic
  put {b} n v hb hv := by
    refine ⟨hb.dynamic, fun f hf => ?_⟩
    rcases mem_putEntry hf with rfl | hf
    · exact hv
    · exact hb.values f hf
  define {b} n t hb := by
    refine ⟨?_, fun f hf => ?_⟩
    · obtain ⟨kind, fields⟩ := b
      cases kind <;> exact hb.dynamic
    · rcases mem_define hf with rfl | hf
      · exact hnull
      · exact hb.values f hf
  erase {b} n hb := by
    refine ⟨?_, fun f hf => hb.values f (mem_eraseEntry hf)⟩
    obtain ⟨kind, fields⟩ := b
    cases kind <;> exact hb.dynamic
  clear {b} hb := by
    obtain ⟨kind, fields⟩ := b
    cases kind with
    | record t => cases hb.dynamic
    | flexible types => exact ⟨rfl, nofun⟩
    | sorted => exact ⟨rfl, nofun⟩

/-! ### Names in order -/

/-- A bean in the order of names. -/
structure InOrder (b : Bean) : Prop where
  kind : b.kind = .sorted
  names : (b.fields.map Prod.fst).Pairwise (· < ·)

/-- Names in order stay in order. -/
lemma kept_inOrder : Kept (fun _ => True) InOrder where
  dynamic hb := by
    rw [hb.kind]
    rfl
  put {b} n v hb _ := by
    obtain ⟨kind, fields⟩ := b
    obtain rfl : kind = .sorted := hb.kind
    exact ⟨rfl, pairwise_putSorted n v hb.names⟩
  define {b} n t hb := by
    obtain ⟨kind, fields⟩ := b
    obtain rfl : kind = .sorted := hb.kind
    refine ⟨rfl, ?_⟩
    change ((if (fields.lookup n).isSome then fields else putSorted n .null fields).map _).Pairwise _
    split
    · exact hb.names
    · exact pairwise_putSorted n .null hb.names
  erase {b} n hb := by
    obtain ⟨kind, fields⟩ := b
    obtain rfl : kind = .sorted := hb.kind
    refine ⟨rfl, ?_⟩
    change ((eraseField n fields).map Prod.fst).Pairwise _
    rw [names_eraseField]
    exact hb.names.filter _
  clear {b} hb := by
    obtain ⟨kind, fields⟩ := b
    obtain rfl : kind = .sorted := hb.kind
    exact ⟨rfl, .nil⟩

/-- After any changes the names are in order. -/
lemma inOrder_editedSorted (edits : List Edit) : (editedSorted edits).InOrder :=
  kept_inOrder.foldl_apply ⟨rfl, .nil⟩ fun _ _ _ _ => trivial

/-! ### Sound beans -/

/-- After any changes a bean that keeps the order still does. -/
lemma kind_edited (edits : List Edit) : ∃ types, (edited edits).kind = .flexible types := by
  obtain ⟨types, fields, hedited, -⟩ := recalls_edited edits
  exact ⟨types, congrArg BeanOf.kind hedited⟩

section

variable {heap : Identity → Grid Value} {edits : List Edit}
  (hedits : ∀ e ∈ edits, ∀ v, e.value? = some v → v.Sound heap)

include hedits

/-- After changes by sound values a bean that keeps the order is sound. -/
theorem sound_edited : (edited edits).Sound heap := by
  obtain ⟨types, fields, hedited, hrecalls⟩ := recalls_edited edits
  have hholds : (edited edits).Holds (Value.Sound heap) :=
    (kept_holds (.scalar _)).foldl_apply ⟨rfl, nofun⟩ hedits
  rw [hedited] at hholds ⊢
  exact .bean hrecalls.nodup_names hholds.values

/-- After changes by sound values a bean in the order of names is sound. -/
theorem sound_editedSorted : (editedSorted edits).Sound heap := by
  have hholds : (editedSorted edits).Holds (Value.Sound heap) :=
    (kept_holds (.scalar _)).foldl_apply ⟨rfl, nofun⟩ hedits
  have horder := inOrder_editedSorted edits
  generalize editedSorted edits = b at *
  obtain ⟨kind, fields⟩ := b
  obtain rfl : kind = .sorted := horder.kind
  exact .bean horder.names.nodup hholds.values

end

end Bean

end Beans

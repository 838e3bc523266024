import Mathlib.Tactic.Common
import Beans.Proofs.Bean.Rebuild

/-!
# Attempts

Values are offered to a builder, and those that it refuses are left out. What a builder holds then
depends on the values that it took. Here are the facts that are needed for any kind of builder: what
an attempt does, and what a record shows under a property.

## Main definitions

* `Beans.Builder.attempt`, `Beans.Builder.attemptAll` — a builder after values that it may refuse.

## Main results

* `Beans.RecordType.checkRules_eq_ok_iff` — values pass the rules of properties if they obey them.
* `Beans.RecordProperty.obeyed_of_accept` — what a property takes obeys its rule.
* `Beans.get_record` — what a record shows under a property.
-/

set_option autoImplicit false

open List

namespace Beans

/-! ## Builders -/

namespace Builder

/-- The builder after a value is offered for a property; it is as before if it refuses the value. -/
def attempt (b : Builder) (name : String) (v : Value) : Builder :=
  match b.set name v with
  | .ok b' => b'
  | .error _ => b

/-- The builder after values are offered one by one. -/
def attemptAll (b : Builder) (entries : List (String × Value)) : Builder :=
  entries.foldl (fun b e => b.attempt e.1 e.2) b

variable {b : Builder} {name : String} {v : Value}

/-- After an attempt the builder is as before, or with the value. -/
lemma attempt_eq_or (b : Builder) (name : String) (v : Value) :
    b.attempt name v = b ∨ b.set name v = .ok (b.attempt name v) := by
  cases h : b.set name v with
  | ok b' => exact .inr (by rw [attempt, h])
  | error e => exact .inl (by rw [attempt, h])

end Builder

/-! ## Rules -/

/-- Without a rule every value is fine. -/
lemma RecordProperty.obeyed_of_none {p : RecordProperty} {v : Value} (h : p.rule = none) :
    p.Obeyed v := by
  intro r hr
  rw [h] at hr
  cases hr

/-- A rule passes the values that it holds of. -/
lemma Rule.check_eq_ok_iff {r : Rule} {name : String} {v : Value} :
    r.check name v = .ok () ↔ r.holds v = true := by
  simp [check]

/-- **Values pass the rules of properties if they obey them**; properties without a value are left
out. -/
theorem RecordType.checkRules_eq_ok_iff {values : List (String × Value)}
    {ps : List RecordProperty} : checkRules values ps = .ok () ↔
      ∀ p ∈ ps, ∀ v, values.lookup p.name = some v → p.Obeyed v := by
  induction ps with
  | nil => exact iff_of_true rfl (forall_mem_nil _)
  | cons p ps ih =>
    rw [forall_mem_cons, ← ih, checkRules]
    cases hrule : p.rule with
    | none =>
      have hobeyed : ∀ v, values.lookup p.name = some v → p.Obeyed v :=
        fun v _ => RecordProperty.obeyed_of_none hrule
      exact (and_iff_right hobeyed).symm
    | some r =>
      cases hv : values.lookup p.name with
      | none =>
        have hobeyed : ∀ v, none = some v → p.Obeyed v := by simp
        exact (and_iff_right hobeyed).symm
      | some v =>
        have hobeyed : (∀ w, some v = some w → p.Obeyed w) ↔ r.holds v = true := by
          simp [RecordProperty.Obeyed, hrule]
        rw [hobeyed, ← @Rule.check_eq_ok_iff r p.name v]
        dsimp only
        cases hcheck : r.check p.name v with
        | ok u => exact (and_iff_right rfl).symm
        | error e =>
          have hrefused : (Except.error e : Except BeanError Unit) ≠ .ok () := by simp
          exact iff_of_false hrefused fun h => hrefused h.1

/-- **What a property takes obeys its rule**, unless the rule was applied before trimming. -/
theorem RecordProperty.obeyed_of_accept {p : RecordProperty} {v w : Value}
    (htrim : p.trimmed = false) (h : p.accept v = .ok w) : p.Obeyed w := by
  intro r hr
  obtain ⟨u, -, h⟩ := bind_eq_ok_iff.mp h
  rw [hr, htrim] at h
  obtain ⟨⟨⟩, hcheck, h⟩ := bind_eq_ok_iff.mp h
  obtain rfl := Except.ok.inj h
  exact Rule.check_eq_ok_iff.mp hcheck

/-! ## Access to records -/

section

variable {t : RecordType} {fields : List (String × Value)} {p : RecordProperty} {b : Bean}

/-- A property of a record is found by its name or an alias. -/
lemma metaProperty_record (hb : b.kind = .record t) (name : String) :
    b.metaProperty name = match t.table.find? name with
      | some d => .ok d
      | none => .error (.noSuchProperty t.type.name name) := by
  obtain ⟨kind, fields⟩ := b
  obtain rfl : kind = .record t := hb
  rfl

/-- A property that cannot be written refuses every value, be it inherited or not. -/
lemma set_of_not_settable (ht : t.Lawful) (hb : b.kind = .record t) (hp : p ∈ t.properties)
    (hsettable : p.description.settable = false) (v : Value) :
    p.description.set b v = .error (.readOnly p.name) := by
  have htype : b.type = t.type := congrArg BeanKind.type hb
  have hcheck : p.description.checkBean b = .ok () := by
    rw [MetaProperty.checkBean, htype, if_pos (ht.holder p hp)]
  rw [MetaProperty.set, hsettable, hcheck]
  cases p.description.isInherited <;> rfl

/-- **What a record shows under a property** is what is in its slot. -/
theorem get_record (ht : t.Lawful) (hp : p ∈ t.properties) :
    Bean.get ⟨.record t, fields⟩ p.name =
      match (p.slot fields fields Value.scalar).value? with
      | some v => .ok v
      | none => .error (.writeOnly p.name) := by
  have hfound : Bean.metaProperty ⟨.record t, fields⟩ p.name = .ok p.description :=
    Bean.metaProperty_eq_ok_iff.mpr (ht.find?_table hp)
  have hlawful : BeanKind.Lawful (.record t) (fields.map Prod.fst) := ht
  have hnames : ((t.properties.map (RecordProperty.slot fields fields Value.scalar)).map
      Slot.name).Nodup := by
    have hmap := names_slots ⟨.record t, fields⟩
    exact hmap ▸ ht.nodup
  have hslot : (Bean.slots ⟨.record t, fields⟩).find? (fun s => s.name == p.name) =
      some (p.slot fields fields Value.scalar) := by
    have hslot := find?_name_of_nodup hnames
      (mem_map_of_mem (f := RecordProperty.slot fields fields Value.scalar) hp)
    rwa [RecordProperty.name_slot] at hslot
  rw [Bean.get, hfound]
  change p.description.get _ = _
  rw [get_eq_read hlawful (mem_map_of_mem hp)]
  change Bean.read _ p.name = _
  rw [Bean.read, hslot]
  rfl

/-- A stored property that can be read shows the value in its field. -/
lemma get_stored (ht : t.Lawful) (hp : p ∈ t.stored)
    (hreadable : p.description.style.isReadable = true) {v : Value}
    (hv : fields.lookup p.name = some v) : Bean.get ⟨.record t, fields⟩ p.name = .ok v := by
  rw [get_record ht (RecordType.mem_properties hp), RecordProperty.slot, hreadable,
    RecordType.source_of_mem_stored hp, hv]
  rfl

end

end Beans

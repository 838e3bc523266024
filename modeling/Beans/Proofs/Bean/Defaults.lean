import Mathlib.Tactic.Common
import Beans.Proofs.Bean.Attempts

/-!
# Beans that start from a default

A bean of some types is built by changing the default bean. Rules are applied to the values that are
supplied, but not to the default bean, and not to the bean in the end. So a property obeys its rule
if it took some value, and is as the default bean has it if it took none.

## Main definitions

* `Beans.RecordType.taken` — the values that a property took of those that were offered.
* `Beans.RecordType.Edited` — the types whose beans start from a default.

## Main results

* `Beans.attempt_editing`, `Beans.attemptAll_editing` — the fields after one value is offered, and
  after several.
* `Beans.RecordType.Edited.build_eq` — what is built, and which of its values obey the rules.
* `Beans.Sample.built_obeyed_iff` — the sample types that can be changed.
-/

set_option autoImplicit false

open List

namespace Beans

/-! ## What properties take -/

namespace RecordType

/-- What a property takes of a value that is offered under some name: it is the property of the
name, can be written, and accepts the value. -/
def taken? (t : RecordType) (p : RecordProperty) (e : String × Value) : Option Value :=
  if (t.table.find? e.1).any (fun d => d.name == p.name) && p.description.settable then
    (p.accept e.2).toOption
  else none

/-- The values that a property took of those that were offered. -/
def taken (t : RecordType) (p : RecordProperty) (entries : List (String × Value)) : List Value :=
  entries.filterMap (t.taken? p)

end RecordType

section

variable {t : RecordType} {p q : RecordProperty} {fields : List (String × Value)} {name : String}
  {v w : Value}

/-- What a property took, it accepted. -/
lemma exists_accept_of_taken? {e : String × Value} (h : t.taken? p e = some w) :
    p.accept e.2 = .ok w := by
  rw [RecordType.taken?] at h
  split at h
  case isTrue =>
    cases haccept : p.accept e.2 with
    | ok u =>
      rw [haccept] at h
      exact congrArg Except.ok (Option.some.inj h)
    | error err =>
      rw [haccept] at h
      cases h
  case isFalse => cases h

/-- Nothing is taken under the name of another property. -/
lemma taken?_eq_none_of_ne (hfound : t.table.find? name = some q.description)
    (hname : p.name ≠ q.name) : t.taken? p (name, v) = none := by
  have hother : (q.description.name == p.name) = false := beq_false_of_ne (Ne.symm hname)
  rw [RecordType.taken?, hfound, Option.any_some, hother, Bool.false_and, if_neg Bool.false_ne_true]

/-- **Writing by a name or an alias** stores what the property takes, or fails. -/
theorem set_record_found (ht : t.Lawful) (hq : q ∈ t.properties)
    (hfound : t.table.find? name = some q.description) :
    match t.taken? q (name, v) with
    | some w => Bean.set ⟨.record t, fields⟩ name v = .ok ⟨.record t, putField q.name w fields⟩
    | none => ∃ e, Bean.set ⟨.record t, fields⟩ name v = .error e := by
  have hname {other : String} (hother : t.table.find? other = some q.description) :
      Bean.set ⟨.record t, fields⟩ other v = q.description.set ⟨.record t, fields⟩ v := by
    rw [Bean.set, metaProperty_record rfl, hother]
    rfl
  have hown : (q.description.name == q.name) = true := beq_self_eq_true q.name
  rw [RecordType.taken?, hfound, Option.any_some, hown, Bool.true_and, hname hfound]
  cases hsettable : q.description.settable with
  | false =>
    rw [if_neg Bool.false_ne_true]
    exact ⟨_, set_of_not_settable ht rfl hq hsettable v⟩
  | true =>
    rw [if_pos rfl, ← hname (ht.find?_table hq), set_record_eq ht hq hsettable]
    cases q.accept v with
    | ok w => rfl
    | error e => exact ⟨e, rfl⟩

/-- **The fields after a value is offered**: a property has what it took, or is as before.

**Proof sketch.** By what is found under the name. What is refused leaves the fields alone; what is
taken is put under the name of the property, which no other property has. -/
theorem attempt_editing (ht : t.Lawful) (fields : List (String × Value)) (name : String)
    (v : Value) : ∃ fields',
      (Builder.editing ⟨.record t, fields⟩).attempt name v = .editing ⟨.record t, fields'⟩ ∧
      ∀ p ∈ t.properties,
        fields'.lookup p.name = (t.taken? p (name, v)).or (fields.lookup p.name) := by
  have hrefused {e : BeanError} (h : Bean.set ⟨.record t, fields⟩ name v = .error e) :
      (Builder.editing ⟨.record t, fields⟩).attempt name v = .editing ⟨.record t, fields⟩ := by
    rw [Builder.attempt, Builder.set, h]
    rfl
  cases hd : t.table.find? name with
  | none =>
    have hset : Bean.set ⟨.record t, fields⟩ name v =
        .error (.noSuchProperty t.type.name name) := by
      rw [Bean.set, metaProperty_record rfl, hd]
      rfl
    refine ⟨fields, hrefused hset, fun p _ => ?_⟩
    rw [RecordType.taken?, hd]
    rfl
  | some d =>
    obtain ⟨q, hq, rfl⟩ := mem_map.mp (PropertyMap.mem_of_find? hd)
    have hset := @set_record_found t q fields name v ht hq hd
    cases htaken : t.taken? q (name, v) with
    | none =>
      rw [htaken] at hset
      obtain ⟨e, hset⟩ := hset
      refine ⟨fields, hrefused hset, fun p hp => ?_⟩
      by_cases hname : p.name = q.name
      · obtain rfl := inj_on_of_nodup_map ht.nodup hp hq hname
        rw [htaken, Option.none_or]
      · rw [taken?_eq_none_of_ne hd hname, Option.none_or]
    | some w =>
      rw [htaken] at hset
      refine ⟨putField q.name w fields, ?_, fun p hp => ?_⟩
      · rw [Builder.attempt, Builder.set, hset]
        rfl
      · by_cases hname : p.name = q.name
        · obtain rfl := inj_on_of_nodup_map ht.nodup hp hq hname
          rw [htaken, lookup_putField, Option.some_or]
        · rw [taken?_eq_none_of_ne hd hname, lookup_putField_of_ne hname, Option.none_or]

/-- **The fields after several values are offered**: a property has what it took last, or is as
before. -/
theorem attemptAll_editing (ht : t.Lawful) (fields : List (String × Value))
    (entries : List (String × Value)) :
    ∃ fields', (Builder.editing ⟨.record t, fields⟩).attemptAll entries =
        .editing ⟨.record t, fields'⟩ ∧
      ∀ p ∈ t.properties,
        fields'.lookup p.name = (t.taken p entries).getLast?.or (fields.lookup p.name) := by
  induction entries generalizing fields with
  | nil => exact ⟨fields, rfl, fun p _ => rfl⟩
  | cons e entries ih =>
    obtain ⟨first, hfirst, hfirsts⟩ := attempt_editing ht fields e.1 e.2
    obtain ⟨last, hlast, hlasts⟩ := ih first
    refine ⟨last, ?_, fun p hp => ?_⟩
    · rw [← hlast, ← hfirst]
      rfl
    · rw [hlasts p hp, hfirsts p hp, RecordType.taken, RecordType.taken, filterMap_cons]
      cases t.taken? p e with
      | none => rw [Option.none_or]
      | some w =>
        rw [getLast?_cons]
        cases (entries.filterMap (t.taken? p)).getLast? <;> rfl

end

/-! ## What is built -/

/-- The beans of a type start from a default, and rules are for stored values that can be read and
are not trimmed. -/
structure RecordType.Edited (t : RecordType) : Prop where
  rebuildable : t.Rebuildable
  editing : t.building = .editing
  ruled : ∀ p ∈ t.properties, p.rule.isSome = true →
    p.isStored = true ∧ p.description.style.isReadable = true ∧ p.trimmed = false

/-- **What is built from a default.** Building always succeeds. A property with a rule has the value
that it took last, or that of the default bean if it took none. So it obeys the rule exactly if it
took a value, or the default does.

**Proof sketch.** The builder changes the default bean, and building hands it out. By
`attemptAll_editing` a field holds what its property took last, or what it held from the start. -/
theorem RecordType.Edited.build_eq {t : RecordType} (ht : t.Edited)
    (entries : List (String × Value)) :
    ∃ start b, t.builder = .ok start ∧ (start.attemptAll entries).build = .ok b ∧
      b.kind = .record t ∧
      ∀ p ∈ t.properties, p.rule.isSome = true →
        ∃ d v, t.default.get p.name = .ok d ∧ b.get p.name = .ok v ∧
          v = (t.taken p entries).getLast?.getD d ∧
          (p.Obeyed v ↔ t.taken p entries ≠ [] ∨ p.Obeyed d) := by
  have hlawful := ht.rebuildable.lawful
  have hstart : t.builder = .ok (.editing t.default) := by rw [builder, ht.editing]
  obtain ⟨fields, hdone, hfields⟩ := attemptAll_editing hlawful t.default.fields entries
  refine ⟨_, ⟨.record t, fields⟩, hstart, congrArg Builder.build hdone, rfl, fun p hp hrule => ?_⟩
  obtain ⟨hstored, hreadable, htrim⟩ := ht.ruled p hp hrule
  have hp' : p ∈ t.stored := mem_filter.mpr ⟨hp, hstored⟩
  have hfits := ht.rebuildable.building
  rw [ht.editing] at hfits
  obtain ⟨x, hx⟩ := Option.isSome_iff_exists.mp (hfits p hp').1
  have hdefault := lookup_default hlawful hp' hx
  have hvalue := hfields p hp
  rw [hdefault] at hvalue
  refine ⟨x.toValue, (t.taken p entries).getLast?.getD x.toValue,
    get_stored hlawful hp' hreadable hdefault, get_stored hlawful hp' hreadable ?_, rfl, ?_⟩
  · rw [hvalue]
    cases (t.taken p entries).getLast? <;> rfl
  · cases hlast : (t.taken p entries).getLast? with
    | none =>
      have hnil := getLast?_eq_none_iff.mp hlast
      simp [hnil]
    | some w =>
      have hmem : w ∈ t.taken p entries := mem_of_getLast? hlast
      obtain ⟨e, -, he⟩ := mem_filterMap.mp hmem
      exact iff_of_true (RecordProperty.obeyed_of_accept htrim (exists_accept_of_taken? he))
        (.inl (ne_nil_of_mem hmem))

/-! ## Sample types -/

namespace Sample

/-- The types whose beans start from a default. -/
def mutableTypes : List RecordType :=
  [person, employee, counter, name, pairOfTexts, pairOfNumbers, tag, styles, all]

/-- Their beans start from a default. -/
lemma edited_of_mem {t : RecordType} (ht : t ∈ mutableTypes) : t.Edited := by
  have hrebuildable : ∀ t ∈ mutableTypes, t.Rebuildable := by decide +kernel
  have hediting : ∀ t ∈ mutableTypes, t.building = .editing := by
    simp only [mutableTypes, forall_mem_cons]
    exact ⟨rfl, rfl, rfl, rfl, rfl, rfl, rfl, rfl, rfl, forall_mem_nil _⟩
  have hruled : ∀ t ∈ mutableTypes, ∀ p ∈ t.properties, p.rule.isSome = true →
      p.isStored = true ∧ p.description.style.isReadable = true ∧ p.trimmed = false := by
    decide +kernel
  exact ⟨hrebuildable t ht, hediting t ht, hruled t ht⟩

/-- **Which values of a bean that is built from a default obey the rules.** Whatever is offered to
the builder, there is a bean in the end. A property with a rule, inherited or not, has the value
that it took last, or the default if it took none. So it obeys the rule exactly if it took a value,
or the default does. -/
theorem built_obeyed_iff {t : RecordType} (ht : t ∈ mutableTypes)
    (entries : List (String × Value)) :
    ∃ start b, t.builder = .ok start ∧ (start.attemptAll entries).build = .ok b ∧
      b.kind = .record t ∧
      ∀ p ∈ t.properties, p.rule.isSome = true →
        ∃ d v, t.default.get p.name = .ok d ∧ b.get p.name = .ok v ∧
          v = (t.taken p entries).getLast?.getD d ∧
          (p.Obeyed v ↔ t.taken p entries ≠ [] ∨ p.Obeyed d) :=
  (edited_of_mem ht).build_eq entries

/-- A person to whom an age is offered under an alias, and a blank name. -/
theorem built_obeyed_iff_person :
    let entries := [("years", Value.uint 7), ("name", .text " ")]
    person ∈ mutableTypes ∧ ∃ start b, person.builder = .ok start ∧
      (start.attemptAll entries).build = .ok b ∧ b.kind = .record person ∧
      ∀ p ∈ person.properties, p.rule.isSome = true →
        ∃ d v, person.default.get p.name = .ok d ∧ b.get p.name = .ok v ∧
          v = (person.taken p entries).getLast?.getD d ∧
          (p.Obeyed v ↔ person.taken p entries ≠ [] ∨ p.Obeyed d) := by
  have hmem : person ∈ mutableTypes := by simp [mutableTypes]
  exact ⟨hmem, built_obeyed_iff hmem _⟩

/-- **Not all that is built obeys the rules**: a person has a blank name if none is offered. -/
theorem exists_built_not_obeyed : ∃ start b p v, person.builder = .ok start ∧
    (start.attemptAll []).build = .ok b ∧ p ∈ person.properties ∧ p.rule = some .notBlank ∧
    b.get p.name = .ok v ∧ ¬ p.Obeyed v := by
  refine ⟨.editing person.default, person.default, person.properties[0], .text "", rfl, rfl,
    mem_cons_self, rfl, rfl, fun h => ?_⟩
  have hblank := h .notBlank rfl
  revert hblank
  decide

end Sample

end Beans

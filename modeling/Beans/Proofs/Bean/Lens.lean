import Mathlib.Tactic.Common
import Beans.Proofs.Bean.Change
import Beans.Proofs.Bean.Defaults

/-!
# Changing one property

A property of a record is changed by its name or an alias. Then it shows what was stored, in the form
of its type, the other fields are as before, and computed properties follow. Doing the same once more
changes nothing.

## Main definitions

* `Beans.RecordType.Assigned` — what is to be seen of a change of one property.
* `Beans.RecordType.Alike` — two names do the same in all calls.
* `Beans.RecordType.Storing`, `Beans.RecordType.Accessible` — the conditions on a type, which can be
  checked.

## Main results

* `Beans.get_congr`, `Beans.RecordType.Accessible.get_computed` — what a property shows depends on its
  field, or on what the fields that it is computed from show.
* `Beans.RecordType.Accessible.assigned` — a change that succeeds.
* `Beans.RecordType.Accessible.alike_of_mem_aliases`, `Beans.RecordType.calls_description` — an alias
  and the description of a property do what the name does.
* `Beans.Sample.assign_assigned` — all this for the sample types that can be changed.
-/

set_option autoImplicit false

open List

namespace Beans

/-! ## What is to be seen -/

/-- The scalar that a bean shows under a name. -/
def Bean.scalarAt (b : Bean) (name : String) : Scalar :=
  ((b.get name).toOption.bind Value.asScalar?).getD .null

namespace RecordType

/-- A bean of a type comes from another one by a change of one property to some value. -/
structure Assigned (t : RecordType) (p : RecordProperty) (w : Value) (b b' : Bean) : Prop where
  kind : b'.kind = .record t
  /-- The property shows the value, if it can be read. -/
  shown : p.description.style.isReadable = true → b'.get p.name = .ok w
  /-- The other stored properties keep their values. -/
  kept : ∀ q ∈ t.stored, q.name ≠ p.name →
    b'.fields.lookup q.name = b.fields.lookup q.name ∧ b'.get q.name = b.get q.name
  /-- Computed properties show what comes of the values that the bean shows now. -/
  computed : ∀ q ∈ t.properties, ∀ inputs value, q.source = .computed inputs value →
    b'.get q.name = .ok (.scalar (value (inputs.map b'.scalarAt)))

/-- Two names do the same in all calls on beans of a type. -/
def Alike (t : RecordType) (name other : String) : Prop :=
  ∀ b : Bean, b.kind = .record t → b.get name = b.get other ∧
    ∀ v, (Bean.assign name v).run b = (Bean.assign other v).run b ∧
      (Bean.exchange name v).run b = (Bean.exchange other v).run b

/-- What can be written is stored. -/
structure Storing (t : RecordType) : Prop where
  lawful : t.Lawful
  isStored : ∀ p ∈ t.properties, p.description.settable = true → p.isStored = true

/-- What is not stored can be read and comes from stored properties that can be read, too, and aliases
stand for stored properties. -/
structure Accessible (t : RecordType) : Prop extends t.Storing where
  isReadable : ∀ p ∈ t.properties, p.isStored = false → p.description.style.isReadable = true
  inputs : ∀ p ∈ t.properties, ∀ n ∈ p.inputs,
    ∃ q ∈ t.stored, q.name = n ∧ q.description.style.isReadable = true
  aliases : ∀ a ∈ t.aliases, a.1 ∉ t.properties.map RecordProperty.name ∧
    t.aliases.lookup a.1 = some a.2 ∧ a.2 ∈ t.stored.map RecordProperty.name

instance (t : RecordType) : Decidable t.Accessible :=
  decidable_of_iff (t.Lawful ∧
      (∀ p ∈ t.properties, p.description.settable = true → p.isStored = true) ∧
      (∀ p ∈ t.properties, p.isStored = false → p.description.style.isReadable = true) ∧
      (∀ p ∈ t.properties, ∀ n ∈ p.inputs,
        ∃ q ∈ t.stored, q.name = n ∧ q.description.style.isReadable = true) ∧
      ∀ a ∈ t.aliases, a.1 ∉ t.properties.map RecordProperty.name ∧
        t.aliases.lookup a.1 = some a.2 ∧ a.2 ∈ t.stored.map RecordProperty.name)
    ⟨fun ⟨hlawful, hstored, hreadable, hinputs, haliases⟩ =>
      ⟨⟨hlawful, hstored⟩, hreadable, hinputs, haliases⟩,
      fun h => ⟨h.lawful, h.isStored, h.isReadable, h.inputs, h.aliases⟩⟩

end RecordType

/-! ## What properties show -/

section

variable {t : RecordType} {p : RecordProperty} {fields fields' : List (String × Value)}

/-- What a stored property shows depends on its field only. -/
lemma get_congr (ht : t.Lawful) (hp : p ∈ t.stored)
    (h : fields'.lookup p.name = fields.lookup p.name) :
    Bean.get ⟨.record t, fields'⟩ p.name = Bean.get ⟨.record t, fields⟩ p.name := by
  have hsource := RecordType.source_of_mem_stored hp
  rw [get_record ht (RecordType.mem_properties hp), get_record ht (RecordType.mem_properties hp)]
  simp only [RecordProperty.slot, hsource, h]

/-- The scalar that a stored property shows, if it can be read, is the one in its field. -/
lemma scalarAt_stored (ht : t.Lawful) (hp : p ∈ t.stored)
    (hreadable : p.description.style.isReadable = true) :
    Bean.scalarAt ⟨.record t, fields⟩ p.name = fieldScalar fields p.name := by
  have hsource := RecordType.source_of_mem_stored hp
  rw [Bean.scalarAt, get_record ht (RecordType.mem_properties hp), fieldScalar]
  simp only [RecordProperty.slot, hsource, hreadable]
  cases fields.lookup p.name <;> rfl

/-- **A computed property shows what comes of the values that the bean shows.** -/
theorem RecordType.Accessible.get_computed (ht : t.Accessible) (hp : p ∈ t.properties)
    {inputs : List String} {value : List Scalar → Scalar} (hsource : p.source = .computed inputs value) :
    Bean.get ⟨.record t, fields⟩ p.name =
      .ok (.scalar (value (inputs.map (Bean.scalarAt ⟨.record t, fields⟩)))) := by
  have hreadable : p.description.style.isReadable = true :=
    ht.isReadable p hp (by rw [RecordProperty.isStored, hsource])
  have hinputs : inputs.map (fieldScalar fields) =
      inputs.map (Bean.scalarAt ⟨.record t, fields⟩) := by
    refine map_congr_left fun n hn => ?_
    have hmem : n ∈ p.inputs := by rwa [RecordProperty.inputs, hsource]
    obtain ⟨q, hq, rfl, hshown⟩ := ht.inputs p hp n hmem
    exact (scalarAt_stored ht.lawful hq hshown).symm
  rw [get_record ht.lawful hp, ← hinputs]
  simp only [RecordProperty.slot, hreadable, hsource]
  rfl

/-! ## Changes -/

/-- A change in place that succeeds comes out as `Bean.set` says. -/
lemma Bean.run_assign_eq_ok_iff {b b' : Bean} {name : String} {v : Value} :
    (Bean.assign name v).run b = .ok () b' ↔ b.set name v = .ok b' := by
  rw [b.run_assign]
  cases b.set name v <;> simp [withoutAnswer, Change.atOnce, Except.map]

/-- A property takes the value that its type makes of what is offered, without the blanks at its ends
if it is trimmed. -/
lemma RecordProperty.exists_convert_of_accept {v w : Value} (h : p.accept v = .ok w) :
    ∃ u, p.type.convert v = .ok u ∧ w = if p.trimmed then u.trimmed else u := by
  obtain ⟨u, hu, h⟩ := bind_eq_ok_iff.mp h
  refine ⟨u, hu, ?_⟩
  cases hrule : p.rule with
  | none =>
    rw [hrule] at h
    exact (Except.ok.inj h).symm
  | some r =>
    rw [hrule] at h
    obtain ⟨_, -, h⟩ := bind_eq_ok_iff.mp h
    exact (Except.ok.inj h).symm

/-- What a property took, it may take. -/
lemma settable_of_taken? {e : String × Value} {w : Value} (h : t.taken? p e = some w) :
    p.description.settable = true := by
  rw [RecordType.taken?] at h
  split at h
  case isTrue hcan => exact (Bool.and_eq_true_iff.mp hcan).2
  case isFalse => cases h

/-- Storing a value in the field of a property is a change of that property. -/
lemma RecordType.Accessible.assigned_putField (ht : t.Accessible) (hp : p ∈ t.stored) (w : Value) :
    t.Assigned p w ⟨.record t, fields⟩ ⟨.record t, putField p.name w fields⟩ where
  kind := rfl
  shown hreadable := get_stored ht.lawful hp hreadable (lookup_putField p.name w fields)
  kept q hq hne := by
    have hlookup := lookup_putField_of_ne hne w fields
    exact ⟨hlookup, get_congr ht.lawful hq hlookup⟩
  computed q hq inputs value hsource := ht.get_computed hq hsource

/-- **A change of a property by its name or an alias**: it shows the value in the form of its type, the
others are as before, and the same change once more changes nothing. -/
theorem RecordType.Accessible.assigned (ht : t.Accessible) {b b' : Bean} (hb : b.kind = .record t)
    {name : String} {v : Value} (h : (Bean.assign name v).run b = .ok () b') :
    ∃ p ∈ t.stored, t.table.find? name = some p.description ∧ ∃ w, p.type.convert v = .ok w ∧
      t.Assigned p (if p.trimmed then w.trimmed else w) b b' ∧
      (Bean.assign name v).run b' = .ok () b' := by
  obtain ⟨kind, fields⟩ := b
  obtain rfl : kind = .record t := hb
  have hset := Bean.run_assign_eq_ok_iff.mp h
  obtain ⟨d, hd, -⟩ := bind_eq_ok_iff.mp hset
  have hfound : t.table.find? name = some d := Bean.metaProperty_eq_ok_iff.mp hd
  obtain ⟨p, hp, rfl⟩ := mem_map.mp (PropertyMap.mem_of_find? hfound)
  cases htaken : t.taken? p (name, v) with
  | none =>
    have hrefused := @set_record_found t p fields name v ht.lawful hp hfound
    rw [htaken] at hrefused
    obtain ⟨e, he⟩ := hrefused
    rw [he] at hset
    cases hset
  | some w =>
    -- whether the property takes the value does not depend on the fields
    have hwrites (fields : List (String × Value)) : Bean.set ⟨.record t, fields⟩ name v =
        .ok ⟨.record t, putField p.name w fields⟩ := by
      have hwrites := @set_record_found t p fields name v ht.lawful hp hfound
      rwa [htaken] at hwrites
    obtain rfl := Except.ok.inj (hset.symm.trans (hwrites fields))
    have hstored : p ∈ t.stored :=
      mem_filter.mpr ⟨hp, ht.isStored p hp (settable_of_taken? htaken)⟩
    have hagain := hwrites (putField p.name w fields)
    rw [putField_putField] at hagain
    obtain ⟨u, hu, rfl⟩ :=
      RecordProperty.exists_convert_of_accept (exists_accept_of_taken? htaken)
    exact ⟨p, hstored, hfound, u, hu, ht.assigned_putField hstored _,
      Bean.run_assign_eq_ok_iff.mpr hagain⟩

/-! ## Aliases and descriptions -/

/-- Names that stand for one property do the same in all calls. -/
lemma RecordType.alike_of_find? {d : MetaProperty} {name other : String}
    (hname : t.table.find? name = some d) (hother : t.table.find? other = some d) :
    t.Alike name other := by
  intro b hb
  have hmeta : b.metaProperty name = b.metaProperty other := by
    rw [metaProperty_record hb, metaProperty_record hb, hname, hother]
  refine ⟨?_, fun v => ⟨?_, ?_⟩⟩
  · rw [Bean.get, Bean.get, hmeta]
  · rw [Bean.run_assign, Bean.run_assign, Bean.set, Bean.set, hmeta]
  · rw [Bean.run_exchange, Bean.run_exchange, Bean.put, Bean.put, hmeta]

/-- **A description of a property does what the name does**, be the property inherited or not. -/
theorem RecordType.calls_description (ht : t.Lawful) (hp : p ∈ t.properties) {b : Bean}
    (hb : b.kind = .record t) : b.get p.name = p.description.get b ∧
      ∀ v, (Bean.assign p.name v).run b = (p.description.assign v).run b ∧
        (Bean.exchange p.name v).run b = (p.description.exchange v).run b := by
  have hmeta : b.metaProperty p.name = .ok p.description := by
    rw [metaProperty_record hb, ht.find?_table hp]
  refine ⟨?_, fun v => ⟨?_, ?_⟩⟩
  · rw [Bean.get, hmeta, ok_bind]
  · rw [Bean.run_assign, MetaProperty.run_assign, Bean.set, hmeta, ok_bind]
  · rw [Bean.run_exchange, MetaProperty.run_exchange, Bean.put, hmeta, ok_bind]

/-- **An alias does what the name does** that it stands for, and the name is that of a property. -/
theorem RecordType.Accessible.alike_of_mem_aliases (ht : t.Accessible) {a : String × String}
    (ha : a ∈ t.aliases) : t.Alike a.1 a.2 ∧ ∃ p ∈ t.stored, p.name = a.2 := by
  obtain ⟨hname, hlookup, hstored⟩ := ht.aliases a ha
  obtain ⟨p, hp, hp'⟩ := mem_map.mp hstored
  have hunnamed : t.table.named? a.1 = none := by
    refine find?_eq_none.mpr fun d hd heq => hname ?_
    obtain ⟨q, hq, rfl⟩ := mem_map.mp hd
    exact mem_map.mpr ⟨q, hq, beq_iff_eq.mp heq⟩
  have hnamed : t.table.named? a.2 = some p.description := by
    have hnodup : (t.table.properties.map MetaProperty.name).Nodup := by
      rw [RecordType.table, map_map]
      exact ht.lawful.nodup
    rw [← hp']
    exact find?_name_of_nodup hnodup (mem_map_of_mem (RecordType.mem_properties hp))
  have halias : t.table.find? a.1 = some p.description := by
    rw [PropertyMap.find?, hunnamed]
    change (t.aliases.lookup a.1).bind t.table.named? = _
    rw [hlookup, Option.bind_some, hnamed]
  have hfound : t.table.find? a.2 = some p.description := by
    rw [PropertyMap.find?, hnamed]
    rfl
  exact ⟨RecordType.alike_of_find? halias hfound, p, hp, hp'⟩

end

/-! ## Sample types -/

namespace Sample

/-- The types that can be changed: pairs have items of any type. -/
def IsMutable (t : RecordType) : Prop := t ∈ mutableTypes ∨ ∃ argument item, t = pair argument item

/-- The properties of pairs are accessible, whatever their items are. -/
lemma accessible_pair (argument : String) (item : ValueType) : (pair argument item).Accessible where
  lawful := by
    have hsame : (pairType argument item).same (pairType argument item) = true :=
      beq_self_eq_true _
    refine ⟨show ["first", "rest"].Nodup by decide, ?_⟩
    simp [pair, RecordType.root, RecordProperty.withGeneric, RecordProperty.stored, hsame]
  isStored := by
    simp [pair, RecordType.root, RecordProperty.withGeneric, RecordProperty.stored,
      RecordProperty.isStored]
  isReadable := by
    simp [pair, RecordType.root, RecordProperty.withGeneric, RecordProperty.stored,
      RecordProperty.isStored]
  inputs := by
    simp [pair, RecordType.root, RecordProperty.withGeneric, RecordProperty.stored,
      RecordProperty.inputs]
  aliases := forall_mem_nil _

/-- The properties of the types that can be changed are accessible, and those of one name are
trimmed. -/
lemma accessible_of_isMutable {t : RecordType} (ht : IsMutable t) :
    t.Accessible ∧ ∀ p ∈ t.properties, p.trimmed = true ↔ p.name = "trimmed" := by
  rcases ht with ht | ⟨argument, item, rfl⟩
  · have hall : ∀ t ∈ mutableTypes,
        t.Accessible ∧ ∀ p ∈ t.properties, p.trimmed = true ↔ p.name = "trimmed" := by
      decide +kernel
    exact hall t ht
  · refine ⟨accessible_pair argument item, ?_⟩
    simp [pair, RecordType.root, RecordProperty.withGeneric, RecordProperty.stored,
      RecordProperty.name]

/-- **Access by names is a lens.** Whatever the fields of a bean of these types are, a change of a
property that succeeds, by the name of the property or an alias of it, lets the property show the value
in the form of its type, without the blanks at its ends for the one that is trimmed. The other stored
properties keep their values, computed ones follow, and the same change once more changes nothing.
Aliases and descriptions of properties do what the names do in all calls. -/
theorem assign_assigned {t : RecordType} (ht : IsMutable t) :
    (∀ (b b' : Bean) (name : String) (v : Value), b.kind = .record t →
      (Bean.assign name v).run b = .ok () b' →
      ∃ p ∈ t.stored, t.table.find? name = some p.description ∧ ∃ w, p.type.convert v = .ok w ∧
        t.Assigned p (if p.name = "trimmed" then w.trimmed else w) b b' ∧
        (Bean.assign name v).run b' = .ok () b') ∧
      (∀ a ∈ t.aliases, t.Alike a.1 a.2 ∧ ∃ p ∈ t.stored, p.name = a.2) ∧
      ∀ p ∈ t.properties, ∀ b : Bean, b.kind = .record t → b.get p.name = p.description.get b ∧
        ∀ v, (Bean.assign p.name v).run b = (p.description.assign v).run b ∧
          (Bean.exchange p.name v).run b = (p.description.exchange v).run b := by
  obtain ⟨haccess, htrimmed⟩ := accessible_of_isMutable ht
  refine ⟨fun b b' name v hb h => ?_, fun a ha => haccess.alike_of_mem_aliases ha,
    fun p hp b hb => RecordType.calls_description haccess.lawful hp hb⟩
  obtain ⟨p, hp, hfound, w, hw, hassigned, hagain⟩ := haccess.assigned hb h
  simp only [htrimmed p (RecordType.mem_properties hp)] at hassigned
  exact ⟨p, hp, hfound, w, hw, hassigned, hagain⟩

/-- An employee whose age is changed by an alias of the parent's property. -/
theorem assign_assigned_employee :
    IsMutable employee ∧
      (∃ b', (Bean.assign "years" (.int 41)).run employee.default = .ok () b' ∧
        ∃ p ∈ employee.stored, employee.table.find? "years" = some p.description ∧
          ∃ w, p.type.convert (.int 41) = .ok w ∧
            employee.Assigned p (if p.name = "trimmed" then w.trimmed else w) employee.default b' ∧
            (Bean.assign "years" (.int 41)).run b' = .ok () b') ∧
      employee.Alike "years" "age" := by
  have hmutable : IsMutable employee := .inl (by simp [mutableTypes])
  obtain ⟨hassign, halias, -⟩ := assign_assigned hmutable
  refine ⟨hmutable, ⟨_, rfl, hassign employee.default _ "years" (.int 41) rfl rfl⟩, ?_⟩
  exact (halias ("years", "age") mem_cons_self).1

end Sample

end Beans

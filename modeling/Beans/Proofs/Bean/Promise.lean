import Mathlib.Tactic.Common
import Beans.Proofs.Bean.Attempts
import Beans.Proofs.Bean.Copied
import Beans.Proofs.Bean.Reachable

/-!
# What beans that cannot be changed keep

The beans of some types are built at once, from a builder that collects values or hands them to a
constructor, and cannot be changed. Rules are applied in one place only, where such a bean is built.
All ways to a bean lead there: a new builder, one with the values of another bean, and a copy. So
the values obey the rules for good.

## Main definitions

* `Beans.RecordType.Immutable` — the types whose beans stay as they are.
* `Beans.RecordType.Keeps` — the beans whose values obey the rules.
* `Beans.RecordType.Obtained` — what is at hand after builders and beans are made of each other.

## Main results

* `Beans.RecordType.construct_checked` — what a constructor checks obeys its rule in the end.
* `Beans.Builder.IsFor.build` — the values of what is built obey the rules.
* `Beans.RecordType.Immutable.of_obtained` — so do those of all beans that can be obtained.
* `Beans.RecordType.Immutable.set_eq`, `Beans.RecordType.Immutable.put_eq` — no property is changed.
* `Beans.Sample.obtained_keeps` — the sample types that cannot be changed.
-/

set_option autoImplicit false

open List

namespace Beans

/-! ## Types -/

/-- Whether beans are built at once. -/
def Building.isAtOnce : Building → Bool
  | impossible | editing => false
  | collecting | buffering _ => true

/-- Whether a property can be read. -/
def RecordProperty.isLegible (p : RecordProperty) : Bool :=
  p.description.style.isReadable && match p.source with
    | .stored | .computed .. => true
    | .absent => false

/-- The beans of a type stay as they are: they are built at once, all their properties can be read
and none can be written. Rules are for stored values. -/
structure RecordType.Immutable (t : RecordType) : Prop where
  rebuildable : t.Rebuildable
  atOnce : t.building.isAtOnce = true
  legible : ∀ p ∈ t.properties, p.isLegible = true
  fixed : ∀ p ∈ t.properties, p.description.settable = false
  ruled : ∀ p ∈ t.properties, p.rule.isSome = true → p.isStored = true

instance (t : RecordType) : Decidable t.Immutable :=
  decidable_of_iff (t.Rebuildable ∧ t.building.isAtOnce = true ∧
      (∀ p ∈ t.properties, p.isLegible = true) ∧
      (∀ p ∈ t.properties, p.description.settable = false) ∧
      ∀ p ∈ t.properties, p.rule.isSome = true → p.isStored = true)
    ⟨fun ⟨hrebuildable, hatOnce, hlegible, hfixed, hruled⟩ =>
      ⟨hrebuildable, hatOnce, hlegible, hfixed, hruled⟩,
      fun h => ⟨h.rebuildable, h.atOnce, h.legible, h.fixed, h.ruled⟩⟩

/-- A bean of the type with a value for each stored property that obeys the rule. -/
structure RecordType.Keeps (t : RecordType) (b : Bean) : Prop where
  kind : b.kind = .record t
  obeyed : ∀ p ∈ t.stored, ∃ v, b.fields.lookup p.name = some v ∧ p.Obeyed v

/-! ## Constructors -/

namespace RecordType

section

variable {t : RecordType} {fields fields' : List (String × Value)} {args : Arguments}
  {steps : List ConstructorStep} {name : String} {p : RecordProperty}

/-- What a check does: it applies a rule, and leaves the fields as they are. -/
lemma of_construct_check (h : t.construct fields args (.check name :: steps) = .ok fields') :
    ∃ p, t.property? name = some p ∧ checkRules fields [p] = .ok () ∧
      t.construct fields args steps = .ok fields' := by
  obtain ⟨p, hp, h⟩ := bind_eq_ok_iff.mp h
  obtain ⟨⟨⟩, hcheck, h⟩ := bind_eq_ok_iff.mp h
  unfold construct.find at hp
  split at hp
  case h_1 hsome => exact ⟨p, Except.ok.inj hp ▸ hsome, hcheck, h⟩
  case h_2 => cases hp

/-- A field that no step takes is left as it is. -/
lemma lookup_construct (hname : name ∉ steps.filterMap ConstructorStep.taken?)
    (h : t.construct fields args steps = .ok fields') :
    fields'.lookup name = fields.lookup name := by
  induction steps generalizing fields args with
  | nil => rw [Except.ok.inj h]
  | cons step steps ih =>
    obtain ⟨other, q, x, args', hstep, -, -, h⟩ | ⟨hstep, h⟩ := of_construct_step h
    · rw [filterMap_cons_some hstep, mem_cons, not_or] at hname
      rw [ih hname.2 h, lookup_putField_of_ne hname.1]
    · rw [filterMap_cons_none hstep] at hname
      exact ih hname h

/-- A field that is there stays there, and the ones that are taken come to be there. -/
lemma exists_lookup_construct (hname : (∃ v, fields.lookup name = some v) ∨
      name ∈ steps.filterMap ConstructorStep.taken?)
    (h : t.construct fields args steps = .ok fields') : ∃ v, fields'.lookup name = some v := by
  induction steps generalizing fields args with
  | nil => exact Except.ok.inj h ▸ hname.resolve_right not_mem_nil
  | cons step steps ih =>
    obtain ⟨other, q, x, args', hstep, -, -, h⟩ | ⟨hstep, h⟩ := of_construct_step h
    · rw [filterMap_cons_some hstep, mem_cons] at hname
      refine ih ?_ h
      by_cases hother : name = other
      · exact .inl ⟨x.toValue, hother ▸ lookup_putField name x.toValue fields⟩
      · rw [lookup_putField_of_ne hother]
        exact hname.imp_right fun hname => hname.resolve_left hother
    · rw [filterMap_cons_none hstep] at hname
      exact ih hname h

/-- **What a constructor checks obeys its rule in the end.**

The induction is on the steps that are left. Those that are `taken` have a field already, and no
later step takes them again, so what is checked stays. -/
theorem construct_checked {taken : List String}
    (hnodup : (taken ++ steps.filterMap ConstructorStep.taken?).Nodup)
    (htaken : ∀ n ∈ taken, ∃ v, fields.lookup n = some v)
    (hchecks : ConstructorStep.checksTaken taken steps = true)
    (h : t.construct fields args steps = .ok fields') (hcheck : .check p.name ∈ steps)
    (hp : t.property? p.name = some p) : ∃ v, fields'.lookup p.name = some v ∧ p.Obeyed v := by
  induction steps generalizing taken fields args with
  | nil => cases hcheck
  | cons step steps ih =>
    -- a step that takes a value is no check
    have htake {name : String} (hstep : step.taken? = some name)
        (hchecks : ConstructorStep.checksTaken (name :: taken) steps = true)
        (hcheck : .check p.name ∈ steps) : ∃ v, fields'.lookup p.name = some v ∧ p.Obeyed v := by
      obtain ⟨other, q, x, args', hstep', -, -, h⟩ | ⟨hstep', -⟩ := of_construct_step h
      swap
      · rw [hstep] at hstep'
        cases hstep'
      obtain rfl : name = other := Option.some.inj (hstep.symm.trans hstep')
      rw [filterMap_cons_some hstep] at hnodup
      refine ih (nodup_middle.mp hnodup) (fun n hn => ?_) hchecks h hcheck
      by_cases hname : n = name
      · exact ⟨x.toValue, hname ▸ lookup_putField n x.toValue fields⟩
      · rw [lookup_putField_of_ne hname]
        exact htaken n ((mem_cons.mp hn).resolve_left hname)
    cases step with
    | take name => exact htake rfl hchecks (by simpa using hcheck)
    | takeOrDefault name => exact htake rfl hchecks (by simpa using hcheck)
    | check name =>
      obtain ⟨hmem, hchecks⟩ := Bool.and_eq_true_iff.mp hchecks
      rw [filterMap_cons_none rfl] at hnodup
      obtain ⟨q, hq, hrule, h⟩ := of_construct_check h
      rcases mem_cons.mp hcheck with hfirst | hlater
      · obtain rfl : p.name = name := ConstructorStep.check.inj hfirst
        obtain rfl : p = q := Option.some.inj (hp.symm.trans hq)
        have hname : p.name ∈ taken := by simpa using hmem
        obtain ⟨v, hv⟩ := htaken p.name hname
        refine ⟨v, ?_, checkRules_eq_ok_iff.mp hrule p mem_cons_self v hv⟩
        rw [lookup_construct (fun hagain => ?_) h, hv]
        exact (nodup_append.mp hnodup).2.2 _ hname _ hagain rfl
      · exact ih hnodup htaken hchecks h hlater

end

end RecordType

/-! ## Builders -/

/-- A builder for the beans of a type that are built at once. -/
def Builder.IsFor (t : RecordType) : Builder → Prop
  | editing _ | growing _ => False
  | collecting u _ => u = t ∧ t.building = .collecting
  | buffering u steps _ => u = t ∧ t.building = .buffering steps

namespace Builder.IsFor

variable {t : RecordType} {b b' : Builder} {name : String} {v : Value}

/-- A new builder is one. -/
lemma builder (hatOnce : t.building.isAtOnce = true) (h : t.builder = .ok b) : b.IsFor t := by
  unfold RecordType.builder at h
  split at h
  case h_1 => cases h
  case h_2 hbuilding =>
    rw [hbuilding] at hatOnce
    cases hatOnce
  case h_3 hbuilding => exact Except.ok.inj h ▸ ⟨rfl, hbuilding⟩
  case h_4 hbuilding => exact Except.ok.inj h ▸ ⟨rfl, hbuilding⟩

/-- It stays one when it takes a value. -/
lemma set (hb : b.IsFor t) (h : b.set name v = .ok b') : b'.IsFor t := by
  cases b with
  | editing bean => exact hb.elim
  | growing bean => exact hb.elim
  | collecting u values =>
    obtain ⟨p, -, w, -, rfl⟩ := of_set_collecting h
    exact hb
  | buffering u steps args =>
    obtain ⟨p, -, h⟩ := bind_eq_ok_iff.mp h
    split at h
    case isTrue => exact Except.ok.inj h ▸ hb
    case isFalse => cases h

/-- So it does when a value is offered to it. -/
lemma attempt (hb : b.IsFor t) (name : String) (v : Value) : (b.attempt name v).IsFor t := by
  rcases attempt_eq_or b name v with h | h
  · rwa [h]
  · exact hb.set h

/-- **The values of what is built obey the rules**, be they collected or taken by a constructor.

**Proof sketch.** What is collected is checked in the end. A constructor checks on its way: each
rule has a step of its own behind the one that takes the value. -/
theorem build {bean : Bean} (ht : t.Rebuildable) (hb : b.IsFor t) (h : b.build = .ok bean) :
    t.Keeps bean := by
  have hfits := ht.building
  cases b with
  | editing bean => exact hb.elim
  | growing bean => exact hb.elim
  | collecting u values =>
    obtain ⟨rfl, hbuilding⟩ := hb
    obtain ⟨hvalues, hrules, rfl⟩ := RecordType.of_collect h
    refine ⟨rfl, fun p hp => ?_⟩
    obtain ⟨v, hv⟩ := hvalues p hp
    refine ⟨v, ?_, RecordType.checkRules_eq_ok_iff.mp hrules p hp v hv⟩
    rw [ht.lawful.lookup_tabulate hp, hv]
    rfl
  | buffering u steps args =>
    obtain ⟨rfl, hbuilding⟩ := hb
    rw [hbuilding] at hfits
    obtain ⟨hstored, htaken, hchecks⟩ := hfits
    obtain ⟨fields, hfields, rfl⟩ := map_eq_ok_iff.mp h
    refine ⟨rfl, fun p hp => ?_⟩
    cases hrule : p.rule with
    | none =>
      have hname : p.name ∈ steps.filterMap ConstructorStep.taken? := htaken ▸ mem_map_of_mem hp
      obtain ⟨v, hv⟩ := RecordType.exists_lookup_construct (.inr hname) hfields
      exact ⟨v, hv, RecordProperty.obeyed_of_none hrule⟩
    | some r =>
      have hnodup : ([] ++ steps.filterMap ConstructorStep.taken?).Nodup := by
        rw [nil_append, htaken]
        exact ht.lawful.nodup_stored
      have hcheck := (hstored p hp).2.2 (by rw [hrule, Option.isSome_some])
      exact RecordType.construct_checked hnodup (forall_mem_nil _) hchecks hfields hcheck
        (ht.lawful.property?_eq (RecordType.mem_properties hp))

end Builder.IsFor

/-! ## What can be obtained -/

/-- What is at hand while beans are made. -/
inductive Workpiece
  | builder (b : Builder)
  | bean (b : Bean)

/-- What is at hand after builders for a type are made, values are offered to them, beans are built,
builders are made of beans, and beans are copied, in any order. -/
inductive RecordType.Obtained (t : RecordType) : Workpiece → Prop
  | started {b : Builder} (h : t.builder = .ok b) : Obtained t (.builder b)
  | offered {b : Builder} (hb : Obtained t (.builder b)) (name : String) (v : Value) :
      Obtained t (.builder (b.attempt name v))
  | built {b : Builder} {bean : Bean} (hb : Obtained t (.builder b)) (h : b.build = .ok bean) :
      Obtained t (.bean bean)
  | reopened {bean : Bean} {b : Builder} (hbean : Obtained t (.bean bean))
      (h : bean.toBuilder? = some b) : Obtained t (.builder b)
  | copied {c : Cloner} {bean copy : Bean} (hbean : Obtained t (.bean bean))
      (h : c.cloneBean bean = .ok copy) : Obtained t (.bean copy)

/-- A builder for beans of the type, or a bean whose values obey the rules. -/
def RecordType.Sound (t : RecordType) : Workpiece → Prop
  | .builder b => b.IsFor t
  | .bean b => t.Keeps b

/-- The error for a value that is written to a bean that stays as it is. -/
def RecordType.refusal (t : RecordType) (name : String) : BeanError :=
  match t.table.find? name with
  | some d => .readOnly d.name
  | none => .noSuchProperty t.type.name name

namespace RecordType.Immutable

variable {t : RecordType} (ht : t.Immutable) {b copy : Bean} {name : String} {v : Value}

include ht

/-- A bean is copied by a builder. -/
lemma keeps_of_clone {c : Cloner} (hb : b.kind = .record t) (h : c.cloneBean b = .ok copy) :
    t.Keeps copy := by
  have hbuilding : t.building ≠ .impossible := by
    intro himpossible
    have hatOnce := ht.atOnce
    rw [himpossible] at hatOnce
    cases hatOnce
  obtain ⟨start, parts, done, hstart, hfeed, hbuild⟩ := Cloner.of_cloneBean_record hb hbuilding h
  have hdone : done.IsFor t :=
    Cloner.of_feedBuilder Builder.IsFor.set (Builder.IsFor.builder ht.atOnce hstart) hfeed
  exact hdone.build ht.rebuildable hbuild

/-- **All that can be obtained is sound**, by induction on how it is obtained. -/
theorem of_obtained {w : Workpiece} (h : t.Obtained w) : t.Sound w := by
  induction h with
  | started h => exact Builder.IsFor.builder ht.atOnce h
  | offered _ name v ih => exact Builder.IsFor.attempt ih name v
  | built _ h ih => exact Builder.IsFor.build ht.rebuildable ih h
  | @reopened bean b _ h ih =>
    have hkind : bean.kind = .record t := Keeps.kind ih
    rw [Bean.toBuilder?, hkind] at h
    dsimp only at h
    split at h
    case h_1 hbuilding => exact Option.some.inj h ▸ ⟨rfl, hbuilding⟩
    all_goals cases h
  | copied _ h ih => exact ht.keeps_of_clone (Keeps.kind ih) h

/-! ## Properties -/

variable {p : RecordProperty}

/-- Every property shows a value, which obeys the rule. -/
theorem exists_get (hb : t.Keeps b) (hp : p ∈ t.properties) :
    ∃ v, b.get p.name = .ok v ∧ p.Obeyed v := by
  obtain ⟨kind, fields⟩ := b
  obtain rfl : kind = .record t := hb.kind
  have hlawful := ht.rebuildable.lawful
  obtain ⟨hreadable, hsource⟩ := Bool.and_eq_true_iff.mp (ht.legible p hp)
  cases hstored : p.isStored with
  | true =>
    have hp : p ∈ t.stored := mem_filter.mpr ⟨hp, hstored⟩
    obtain ⟨v, hv, hobeyed⟩ := hb.obeyed p hp
    exact ⟨v, get_stored hlawful hp hreadable hv, hobeyed⟩
  | false =>
    have hrule : p.rule = none := by
      by_contra hrule
      have hcontra := ht.ruled p hp (Option.isSome_iff_ne_none.mpr hrule)
      rw [hstored] at hcontra
      cases hcontra
    rw [get_record hlawful hp, RecordProperty.slot, hreadable]
    cases hp' : p.source with
    | stored =>
      rw [RecordProperty.isStored, hp'] at hstored
      cases hstored
    | computed inputs value => exact ⟨_, rfl, RecordProperty.obeyed_of_none hrule⟩
    | absent =>
      rw [hp'] at hsource
      cases hsource

/-- **No property can be set**, be it found by its name or by an alias, inherited or not. -/
theorem set_eq (hb : b.kind = .record t) (name : String) (v : Value) :
    b.set name v = .error (t.refusal name) := by
  rw [Bean.set, metaProperty_record hb, refusal]
  cases hd : t.table.find? name with
  | none => rfl
  | some d =>
    obtain ⟨p, hp, rfl⟩ := mem_map.mp (PropertyMap.mem_of_find? hd)
    exact set_of_not_settable ht.rebuildable.lawful hb hp (ht.fixed p hp) v

/-- So it is if the old value is asked for. -/
theorem put_eq (hb : t.Keeps b) (name : String) (v : Value) :
    b.put name v = .error (t.refusal name) := by
  have hlawful := ht.rebuildable.lawful
  rw [Bean.put, metaProperty_record hb.kind, refusal]
  cases hd : t.table.find? name with
  | none => rfl
  | some d =>
    obtain ⟨p, hp, rfl⟩ := mem_map.mp (PropertyMap.mem_of_find? hd)
    obtain ⟨old, hold, -⟩ := ht.exists_get hb hp
    rw [Bean.get, metaProperty_record hb.kind, hlawful.find?_table hp] at hold
    change p.description.get b = .ok old at hold
    change p.description.put b v = _
    rw [MetaProperty.put, hold, ok_bind, set_of_not_settable hlawful hb.kind hp (ht.fixed p hp)]
    rfl

end RecordType.Immutable

/-! ## Sample types -/

namespace Sample

/-- The types whose beans stay as they are. -/
def immutableTypes : List RecordType := [address, animal, dog, point, key, holder, odd]

/-- The rules of these types. -/
example : (immutableTypes.flatMap fun t => t.properties.filterMap fun p =>
    p.rule.map fun r => (t.type.simpleName, p.name, r)) =
    [("Address", "street", .notBlank), ("Dog", "breed", .notEmpty), ("Point", "label", .notEmpty),
      ("Odd", "city", .notEmpty)] := by decide

/-- Their beans stay as they are. -/
lemma immutable_of_mem : ∀ t ∈ immutableTypes, t.Immutable := by decide +kernel

/-- **What beans that cannot be changed keep.** However such a bean is obtained, each of its
properties, inherited ones included, shows a value that obeys the rule of the property. Setting or
exchanging a value fails under every name and alias, so that this stays so. -/
theorem obtained_keeps {t : RecordType} (ht : t ∈ immutableTypes) {b : Bean}
    (hb : t.Obtained (.bean b)) :
    b.kind = .record t ∧
    (∀ p ∈ t.properties, ∃ v, b.get p.name = .ok v ∧ p.Obeyed v) ∧
    ∀ name v, b.set name v = .error (t.refusal name) ∧ b.put name v = .error (t.refusal name) := by
  have himmutable := immutable_of_mem t ht
  have hkeeps : t.Keeps b := himmutable.of_obtained hb
  exact ⟨hkeeps.kind, fun p hp => himmutable.exists_get hkeeps hp,
    fun name v => ⟨himmutable.set_eq hkeeps.kind name v, himmutable.put_eq hkeeps name v⟩⟩

/-- A dog that is built with its name under an alias, after attempts that fail, and copied. -/
def rex : Bean := ⟨.record dog, [("name", .text "Rex"), ("breed", .text "Collie")]⟩

/-- The dog is obtained, and keeps what it has. -/
theorem obtained_keeps_rex : dog ∈ immutableTypes ∧ dog.Obtained (.bean rex) ∧
    rex.kind = .record dog ∧ (∀ p ∈ dog.properties, ∃ v, rex.get p.name = .ok v ∧ p.Obeyed v) ∧
    ∀ name v, rex.set name v = .error (dog.refusal name) ∧
      rex.put name v = .error (dog.refusal name) := by
  have hmem : dog ∈ immutableTypes := by simp [immutableTypes]
  have hstart : dog.builder = .ok (.collecting dog dog.initialValues) := rfl
  have hoffered := (((RecordType.Obtained.started hstart).offered "label" (.text "Rex")).offered
    "breed" (.int 7)).offered "breed" (.text "Collie")
  have hbuilt : dog.Obtained (.bean rex) := hoffered.built rfl
  have hcopied : dog.Obtained (.bean rex) :=
    hbuilt.copied (show Cloner.cloneBean ⟨.collections, []⟩ rex = .ok rex from rfl)
  exact ⟨hmem, hcopied, obtained_keeps hmem hcopied⟩

end Sample

end Beans

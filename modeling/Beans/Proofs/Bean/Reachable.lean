import Mathlib.Tactic.Common
import Beans.Proofs.Bean.Regular

/-!
# Beans that can be reached

A bean of a record type comes from a builder, and from writing its properties. Whatever values are
supplied, the bean is regular if these are.

## Main definitions

* `Beans.Builder.Fits` — what a builder for beans of a record type holds.
* `Beans.Value.Reachable` — values with beans that are built, and then written to.

## Main results

* `Beans.Builder.Fits.set`, `Beans.Builder.Fits.build` — what supplying a value and building keep.
* `Beans.Value.Reachable.regular` — what can be reached is regular.
-/

set_option autoImplicit false

open List

namespace Beans

/-! ## Builders -/

/-- What a builder for beans of a record type holds: a regular bean, values in the form of the types of
their properties, or values as they come. -/
def Builder.Fits (t : RecordType) : Builder → Prop
  | editing b => (Value.bean b).Regular ∧ b.kind = .record t
  | growing _ => False
  | collecting u values => u = t ∧ t.building = .collecting ∧
    ∀ p ∈ t.stored, ∀ v, values.lookup p.name = some v →
      (∃ x, Typed.HasType p.type x ∧ v = x.toValue) ∧ v.Regular
  | buffering u steps args => u = t ∧ t.building = .buffering steps ∧
    ∀ f ∈ args.values, f.2.Regular

/-- A builder that collects values takes one in the form of the type of its property. -/
lemma Builder.of_set_collecting {t : RecordType} {values : List (String × Value)} {name : String}
    {v : Value} {b : Builder} (h : (collecting t values).set name v = .ok b) :
    ∃ p ∈ t.properties, ∃ w, p.type.convert v = .ok w ∧
      b = collecting t (putField p.name w values) := by
  obtain ⟨d, -, h⟩ := bind_eq_ok_iff.mp h
  dsimp only at h
  cases hproperty : t.property? d.name with
  | none =>
    rw [hproperty] at h
    cases h
  | some p =>
    rw [hproperty] at h
    obtain ⟨w, hw, h⟩ := bind_eq_ok_iff.mp h
    obtain ⟨hp, hname⟩ := RecordType.of_property? hproperty
    exact ⟨p, hp, w, hw, hname ▸ (Except.ok.inj h).symm⟩

namespace Builder.Fits

variable {t : RecordType} {b b' : Builder} {name : String} {v : Value}

/-- A new builder holds defaults, or nothing. -/
theorem builder (ht : t.Rebuildable) (h : t.builder = .ok b) : b.Fits t := by
  have hfits := ht.building
  unfold RecordType.builder at h
  split at h
  case h_1 => cases h
  case h_2 hbuilding =>
    rw [hbuilding] at hfits
    obtain rfl := Except.ok.inj h
    obtain ⟨hdefault, hregular⟩ := ht.fits_default fun p hp => (hfits p hp).1
    exact ⟨.record ht hdefault hregular, rfl⟩
  case h_3 hbuilding =>
    obtain rfl := Except.ok.inj h
    refine ⟨rfl, hbuilding, fun p hp v hv => ?_⟩
    obtain ⟨q, hq, hinitial⟩ := mem_filterMap.mp (mem_of_lookup hv)
    obtain ⟨x, hx, hpair⟩ := Option.map_eq_some_iff.mp hinitial
    obtain ⟨hname, rfl⟩ := Prod.mk.inj hpair
    obtain rfl := ht.lawful.eq_of_name hq hp hname
    obtain ⟨htype, -, hregular⟩ := ValueType.default?_regular (ht.strict q hq)
      (ValueType.default?_of_initial? hx)
    exact ⟨⟨x, htype, rfl⟩, hregular⟩
  case h_4 hbuilding =>
    obtain rfl := Except.ok.inj h
    exact ⟨rfl, hbuilding, forall_mem_nil _⟩

/-- **Supplying a value keeps what a builder holds in form.**

**Proof sketch.** By the kind of builder. A value that is supplied is converted first, so it is of
the type of its property; the other values stay. -/
theorem set (ht : t.Rebuildable) (hb : b.Fits t) (hv : v.Regular) (h : b.set name v = .ok b') :
    b'.Fits t := by
  cases b with
  | editing bean =>
    obtain ⟨kind, fields⟩ := bean
    obtain ⟨hregular, hkind⟩ := hb
    obtain rfl : kind = .record t := hkind
    obtain ⟨bean', hset, rfl⟩ := map_eq_ok_iff.mp h
    exact hregular.set_record hv hset
  | growing bean => exact hb.elim
  | collecting u values =>
    obtain ⟨rfl, hbuilding, hvalues⟩ := hb
    obtain ⟨p, hp, w, hw, rfl⟩ := of_set_collecting h
    obtain ⟨x, hx, rfl⟩ := map_eq_ok_iff.mp hw
    refine ⟨rfl, hbuilding, fun q hq w hw => ?_⟩
    by_cases hname : q.name = p.name
    · obtain rfl : q = p :=
        inj_on_of_nodup_map ht.lawful.nodup (RecordType.mem_properties hq) hp hname
      rw [lookup_putField] at hw
      obtain rfl := Option.some.inj hw
      exact ⟨⟨x, ValueType.hasType_of_ofValue (ht.strict q hq) hx, rfl⟩, hv.ofValue hx⟩
    · rw [lookup_putField_of_ne hname] at hw
      exact hvalues q hq w hw
  | buffering u steps args =>
    obtain ⟨rfl, hbuilding, hargs⟩ := hb
    obtain ⟨d, -, h⟩ := bind_eq_ok_iff.mp h
    split at h
    case isTrue =>
      obtain rfl := Except.ok.inj h
      refine ⟨rfl, hbuilding, fun f hf => ?_⟩
      obtain rfl | hf := mem_putField hf
      · exact hv
      · exact hargs f hf
    case isFalse => cases h

/-- Supplying values one after another keeps what a builder holds in form. -/
theorem setAll (ht : t.Rebuildable) {entries : List (String × Value)} (hb : b.Fits t)
    (hentries : ∀ e ∈ entries, e.2.Regular) (h : b.setAll entries = .ok b') : b'.Fits t := by
  induction entries generalizing b with
  | nil => exact Except.ok.inj h ▸ hb
  | cons e entries ih =>
    obtain ⟨he, hentries⟩ := forall_mem_cons.mp hentries
    obtain ⟨b'', hset, h⟩ := bind_eq_ok_iff.mp h
    exact ih (hb.set ht he hset) hentries h

end Builder.Fits

/-! ## Building -/

namespace RecordType

variable {t : RecordType}

/-- The values of all properties are collected. -/
lemma of_collect {values : List (String × Value)} {b : Bean} (h : t.collect values = .ok b) :
    (∀ p ∈ t.stored, ∃ v, values.lookup p.name = some v) ∧
      checkRules values t.stored = .ok () ∧
        b = ⟨.record t, t.stored.map fun p => (p.name, (values.lookup p.name).getD .null)⟩ := by
  unfold collect at h
  split at h
  case h_1 => cases h
  case h_2 hnone =>
    obtain ⟨⟨⟩, hcheck, h⟩ := bind_eq_ok_iff.mp h
    refine ⟨fun p hp => ?_, hcheck, (Except.ok.inj h).symm⟩
    have hfound := find?_eq_none.mp hnone p (mem_wanted.mpr hp)
    exact Option.isSome_iff_exists.mp (by simpa using hfound)

section

variable {args : Arguments} {T : ValueType} {name : String} {x : Typed}

/-- No argument is added when one is taken. -/
lemma values_take_subset : (args.take T name).2.values ⊆ args.values := by
  unfold Arguments.take
  split
  · exact fun f hf => (mem_filter.mp hf).1
  · exact Subset.refl _

/-- No argument is added when one or the default is taken. -/
lemma values_takeOrDefault_subset : (args.takeOrDefault T name).2.values ⊆ args.values := by
  unfold Arguments.takeOrDefault
  split
  · exact fun f hf => (mem_filter.mp hf).1
  · exact Subset.refl _
  · exact values_take_subset

variable (hT : T.isStrict = true) (hargs : ∀ f ∈ args.values, f.2.Regular)

include hT hargs

/-- What a constructor takes for a property is of its type, and regular if the arguments are. -/
lemma of_take (h : (args.take T name).1 = .ok x) : Typed.HasType T x ∧ x.toValue.Regular := by
  unfold Arguments.take at h
  split at h
  case h_1 v hv =>
    exact ⟨ValueType.hasType_of_ofValue hT h, (hargs _ (mem_of_lookup hv)).ofValue h⟩
  case h_2 =>
    cases hnull : T.ofValue .null with
    | error e =>
      rw [hnull] at h
      cases h
    | ok y =>
      rw [hnull] at h
      obtain rfl := Except.ok.inj h
      exact ⟨ValueType.hasType_of_ofValue hT hnull, (Value.Regular.scalar .null).ofValue hnull⟩

/-- So it is with what a constructor takes by default. -/
lemma of_takeOrDefault (h : (args.takeOrDefault T name).1 = .ok x) :
    Typed.HasType T x ∧ x.toValue.Regular := by
  unfold Arguments.takeOrDefault at h
  split at h
  case h_1 v _ hv =>
    exact ⟨ValueType.hasType_of_ofValue hT h, (hargs _ (mem_of_lookup hv)).ofValue h⟩
  case h_2 _ d hd =>
    obtain rfl := Except.ok.inj h
    obtain ⟨htype, -, hregular⟩ := ValueType.default?_regular hT hd
    exact ⟨htype, hregular⟩
  case h_3 => exact of_take hT hargs h

end

/-- What one step of a constructor does: it stores a value for a property, or checks one. -/
lemma of_construct_step {fields fields' : List (String × Value)} {args : Arguments}
    {step : ConstructorStep} {steps : List ConstructorStep}
    (h : t.construct fields args (step :: steps) = .ok fields') :
    (∃ name p x args', step.taken? = some name ∧ t.property? name = some p ∧
      ((args.take p.type name).1 = .ok x ∧ args' = (args.take p.type name).2 ∨
        (args.takeOrDefault p.type name).1 = .ok x ∧ args' = (args.takeOrDefault p.type name).2) ∧
      t.construct (putField name x.toValue fields) args' steps = .ok fields') ∨
    step.taken? = none ∧ t.construct fields args steps = .ok fields' := by
  have hfind {name : String} {p : RecordProperty} (h : construct.find t name = .ok p) :
      t.property? name = some p := by
    unfold construct.find at h
    split at h
    case h_1 hsome => rw [hsome, Except.ok.inj h]
    case h_2 => cases h
  cases step with
  | take name =>
    obtain ⟨p, hp, h⟩ := bind_eq_ok_iff.mp h
    obtain ⟨x, hx, h⟩ := bind_eq_ok_iff.mp h
    exact .inl ⟨name, p, x, _, rfl, hfind hp, .inl ⟨hx, rfl⟩, h⟩
  | takeOrDefault name =>
    obtain ⟨p, hp, h⟩ := bind_eq_ok_iff.mp h
    obtain ⟨x, hx, h⟩ := bind_eq_ok_iff.mp h
    exact .inl ⟨name, p, x, _, rfl, hfind hp, .inr ⟨hx, rfl⟩, h⟩
  | check name =>
    obtain ⟨p, -, h⟩ := bind_eq_ok_iff.mp h
    obtain ⟨_, -, h⟩ := bind_eq_ok_iff.mp h
    exact .inr ⟨rfl, h⟩

/-- **What a constructor makes of regular arguments**: a field for each value that it takes, with a
value of the type.

The induction is on the steps that are left, for any fields that are there already. -/
theorem of_construct (ht : t.Rebuildable) {steps : List ConstructorStep}
    {fields fields' : List (String × Value)} {args : Arguments}
    (hnew : (fields.map Prod.fst ++ steps.filterMap ConstructorStep.taken?).Nodup)
    (htaken : ∀ n ∈ steps.filterMap ConstructorStep.taken?, ∃ p ∈ t.stored, p.name = n)
    (htyped : ∀ p ∈ t.stored, ∀ v, fields.lookup p.name = some v →
      ∃ x, Typed.HasType p.type x ∧ v = x.toValue)
    (hfields : ∀ f ∈ fields, f.2.Regular) (hargs : ∀ f ∈ args.values, f.2.Regular)
    (h : t.construct fields args steps = .ok fields') :
    fields'.map Prod.fst = fields.map Prod.fst ++ steps.filterMap ConstructorStep.taken? ∧
      (∀ p ∈ t.stored, ∀ v, fields'.lookup p.name = some v →
        ∃ x, Typed.HasType p.type x ∧ v = x.toValue) ∧ ∀ f ∈ fields', f.2.Regular := by
  induction steps generalizing fields args with
  | nil =>
    obtain rfl := Except.ok.inj h
    exact ⟨(append_nil _).symm, htyped, hfields⟩
  | cons step steps ih =>
    obtain ⟨name, p, x, args', hstep, hp, hx, h⟩ | ⟨hstep, h⟩ := of_construct_step h
    swap
    · rw [filterMap_cons_none hstep] at hnew htaken ⊢
      exact ih hnew htaken htyped hfields hargs h
    rw [filterMap_cons_some hstep] at hnew htaken ⊢
    obtain ⟨q, hq, rfl⟩ := htaken name mem_cons_self
    obtain rfl : p = q := Option.some.inj
      (hp.symm.trans (ht.lawful.property?_eq (mem_properties hq)))
    obtain ⟨⟨htype, hregular⟩, hargs'⟩ : (Typed.HasType p.type x ∧ x.toValue.Regular) ∧
        ∀ f ∈ args'.values, f.2.Regular := by
      obtain ⟨hx, rfl⟩ | ⟨hx, rfl⟩ := hx
      · exact ⟨of_take (ht.strict p hq) hargs hx, fun f hf => hargs f (values_take_subset hf)⟩
      · exact ⟨of_takeOrDefault (ht.strict p hq) hargs hx,
          fun f hf => hargs f (values_takeOrDefault_subset hf)⟩
    have hlast : p.name ∉ fields.map Prod.fst := fun hmem =>
      (nodup_append.mp hnew).2.2 _ hmem _ mem_cons_self rfl
    have hput : putField p.name x.toValue fields = fields ++ [(p.name, x.toValue)] :=
      putField_of_not_mem hlast
    have htyped' : ∀ q ∈ t.stored, ∀ v, (putField p.name x.toValue fields).lookup q.name = some v →
        ∃ y, Typed.HasType q.type y ∧ v = y.toValue := by
      intro q hq v hv
      by_cases hname : q.name = p.name
      · obtain rfl := ht.lawful.eq_of_name hq ‹p ∈ t.stored› hname
        rw [lookup_putField] at hv
        exact ⟨x, htype, (Option.some.inj hv).symm⟩
      · rw [lookup_putField_of_ne hname] at hv
        exact htyped q hq v hv
    have hfields' : ∀ f ∈ putField p.name x.toValue fields, f.2.Regular := by
      intro f hf
      obtain rfl | hf := mem_putField hf
      · exact hregular
      · exact hfields f hf
    obtain ⟨hnames, hresult⟩ := ih (by rw [hput]; simpa using hnew)
      (fun n hn => htaken n (mem_cons_of_mem _ hn)) htyped' hfields' hargs' h
    refine ⟨?_, hresult⟩
    rw [hnames, hput]
    simp

end RecordType

/-- **What is built is regular.** -/
theorem Builder.Fits.build {t : RecordType} {builder : Builder} {b : Bean} (ht : t.Rebuildable)
    (hbuilder : builder.Fits t) (h : builder.build = .ok b) :
    (Value.bean b).Regular ∧ b.kind = .record t := by
  have hfits := ht.building
  cases builder with
  | editing bean => exact Except.ok.inj h ▸ hbuilder
  | growing bean => exact hbuilder.elim
  | collecting u values =>
    obtain ⟨rfl, hbuilding, hvalues⟩ := hbuilder
    rw [hbuilding] at hfits
    obtain ⟨hfound, -, rfl⟩ := RecordType.of_collect h
    -- the field of a property holds the value that was collected
    have hvalue : ∀ p ∈ u.stored, ∀ v, List.lookup p.name (u.stored.map fun q =>
        (q.name, (values.lookup q.name).getD .null)) = some v → values.lookup p.name = some v := by
      intro p hp v hv
      obtain ⟨w, hw⟩ := hfound p hp
      rw [ht.lawful.lookup_tabulate hp, hw] at hv
      rw [hw, ← hv]
      rfl
    refine ⟨.record ht ⟨?_, fun p hp v hv => ?_, fun p hp htrim => ?_, fun p hp hnot => ?_⟩ ?_, rfl⟩
    · rw [map_map]
      rfl
    · exact (hvalues p hp v (hvalue p hp v hv)).1
    · rw [(hfits p hp).2] at htrim
      cases htrim
    · rw [(hfits p hp).1] at hnot
      cases hnot
    · refine forall_mem_map.mpr fun p hp => ?_
      obtain ⟨v, hv⟩ := hfound p hp
      rw [hv]
      exact (hvalues p hp v hv).2
  | buffering u steps args =>
    obtain ⟨rfl, hbuilding, hargs⟩ := hbuilder
    rw [hbuilding] at hfits
    obtain ⟨hstored, htaken, -⟩ := hfits
    obtain ⟨fields, hfields, rfl⟩ := map_eq_ok_iff.mp h
    have hnew : (([] : List (String × Value)).map Prod.fst ++
        steps.filterMap ConstructorStep.taken?).Nodup := by
      rw [map_nil, nil_append, htaken]
      exact ht.lawful.nodup_stored
    obtain ⟨hnames, htyped, hregular⟩ := RecordType.of_construct ht hnew
      (fun n hn => mem_map.mp (htaken ▸ hn)) (fun p _ v hv => by cases hv) (forall_mem_nil _)
      hargs hfields
    refine ⟨.record ht ⟨?_, htyped, fun p hp htrim => ?_, fun p hp hnot => ?_⟩ hregular, rfl⟩
    · rw [hnames, map_nil, nil_append, htaken]
    · rw [(hstored p hp).2.1] at htrim
      cases htrim
    · rw [(hstored p hp).1] at hnot
      cases hnot

/-! ## What can be reached -/

namespace Value

/-- Values that can be made, with beans of the given record types and beans with any properties. A
bean of a record type is built from values that are supplied to its builder; or it is the default
bean, if there are no builders for the type. Then its properties are written, one by one. -/
inductive Reachable (types : RecordType → Prop) : Value → Prop
  | scalar (s : Scalar) : Reachable types (.scalar s)
  | list {items : List Value} (hitems : ∀ v ∈ items, Reachable types v) :
      Reachable types (.list items)
  | set {items : List Value} (hitems : ∀ v ∈ items, Reachable types v) :
      Reachable types (.set items)
  | map {entries : List (Value × Value)} (hkeys : ∀ e ∈ entries, Reachable types e.1)
      (hvalues : ∀ e ∈ entries, Reachable types e.2) : Reachable types (.map entries)
  | absent : Reachable types (.optional none)
  | present {v : Value} (hv : Reachable types v) : Reachable types (.optional (some v))
  | thing {i : Identity} (hi : i ≠ .made) (t : Thing) : Reachable types (.thing i t)
  | grid (i : Identity) {g : Grid Value} (hcells : ∀ c ∈ g.cells, Reachable types c.2) :
      Reachable types (.grid i g)
  | flexible {declared : List (String × ResolvedType)} {fields : List (String × Value)}
      (hnames : (fields.map Prod.fst).Nodup) (hfields : ∀ f ∈ fields, Reachable types f.2) :
      Reachable types (.bean ⟨.flexible declared, fields⟩)
  | sorted {fields : List (String × Value)} (hnames : (fields.map Prod.fst).Pairwise (· < ·))
      (hfields : ∀ f ∈ fields, Reachable types f.2) : Reachable types (.bean ⟨.sorted, fields⟩)
  | built {t : RecordType} {entries : List (String × Value)} {start done : Builder} {b : Bean}
      (ht : types t) (hentries : ∀ e ∈ entries, Reachable types e.2) (hstart : t.builder = .ok start)
      (hset : start.setAll entries = .ok done) (hbuild : done.build = .ok b) :
      Reachable types (.bean b)
  | default {t : RecordType} (ht : types t) (hbuilding : t.building = .impossible) :
      Reachable types (.bean t.default)
  | written {t : RecordType} {fields : List (String × Value)} {name : String} {v : Value} {b : Bean}
      (hb : Reachable types (.bean ⟨.record t, fields⟩)) (hv : Reachable types v)
      (hset : Bean.set ⟨.record t, fields⟩ name v = .ok b) : Reachable types (.bean b)

/-- **What can be reached is regular**, by induction on how it is reached. -/
theorem Reachable.regular {types : RecordType → Prop} (htypes : ∀ t, types t → t.Rebuildable)
    {v : Value} (h : v.Reachable types) : v.Regular := by
  induction h with
  | scalar s => exact .scalar s
  | list _ ih => exact .list ih
  | set _ ih => exact .set ih
  | map _ _ ihk ihv => exact .map ihk ihv
  | absent => exact .absent
  | present _ ih => exact .present ih
  | thing hi t => exact .thing hi t
  | grid i _ ih => exact .grid i ih
  | flexible hnames _ ih => exact .flexible hnames ih
  | sorted hnames _ ih => exact .sorted hnames ih
  | built ht _ hstart hset hbuild ih =>
    have ht := htypes _ ht
    exact (((Builder.Fits.builder ht hstart).setAll ht ih hset).build ht hbuild).1
  | default ht hbuilding =>
    have ht := htypes _ ht
    have hfits := ht.building
    rw [hbuilding] at hfits
    obtain ⟨hdefault, hregular⟩ := ht.fits_default hfits
    exact .record ht hdefault hregular
  | written _ _ hset ihb ihv => exact (ihb.set_record ihv hset).1

end Value

end Beans

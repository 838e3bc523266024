import Mathlib.Tactic.Common
import Beans.Proofs.Bean.Copied
import Beans.Proofs.Bean.Legible
import Beans.Proofs.Bean.Reachable
import Beans.Proofs.Bean.Rebuild

/-!
# Faithful copies

A deep copy shows what the original shows, if there is one. The copy is built from copies of the
values, and a builder applies the rules of the properties again. They need not hold of the values of
the original: a default bean is made without looking at rules. So a bean is copied exactly if the
values that are copied obey the rules, and so do those of the beans inside of them.

## Main definitions

* `Beans.Value.Obedient` — what is copied of a value obeys the rules.
* `Beans.Observation.Legible` — what is meant to be read can be read.

## Main results

* `Beans.Cloner.cloneValue_outcome` — when there is a copy, and what it shows.
* `Beans.Value.Regular.same_self_iff` — a value is equal to itself if it is legible.
* `Beans.Cloner.clone_reachable` — copies of beans of the sample types.
-/

set_option autoImplicit false

open List

namespace Beans

/-! ## Values that are copied -/

/-- What is copied of a value obeys the rules of the properties whose values it is: all that is in it,
but for objects, for beans that cannot be built, and for values that are not copied. -/
inductive Value.Obedient : Value → Prop
  | scalar (s : Scalar) : Obedient (.scalar s)
  | list {items : List Value} (hitems : ∀ v ∈ items, Obedient v) : Obedient (.list items)
  | set {items : List Value} (hitems : ∀ v ∈ items, Obedient v) : Obedient (.set items)
  | map {entries : List (Value × Value)} (hkeys : ∀ e ∈ entries, Obedient e.1)
      (hvalues : ∀ e ∈ entries, Obedient e.2) : Obedient (.map entries)
  | absent : Obedient (.optional none)
  | present {v : Value} (hv : Obedient v) : Obedient (.optional (some v))
  | thing (i : Identity) (t : Thing) : Obedient (.thing i t)
  | grid (i : Identity) (g : Grid Value) : Obedient (.grid i g)
  | unbuilt {t : RecordType} {fields : List (String × Value)} (ht : t.isBuildable = false) :
      Obedient (.bean ⟨.record t, fields⟩)
  | record {t : RecordType} {fields : List (String × Value)}
      (hrules : ∀ p ∈ t.copied, ∀ v, fields.lookup p.name = some v → p.Obeyed v)
      (hvalues : ∀ p ∈ t.copied, ∀ v, fields.lookup p.name = some v → Obedient v) :
      Obedient (.bean ⟨.record t, fields⟩)
  | flexible {types : List (String × ResolvedType)} {fields : List (String × Value)}
      (hfields : ∀ f ∈ fields, Obedient f.2) : Obedient (.bean ⟨.flexible types, fields⟩)
  | sorted {fields : List (String × Value)} (hfields : ∀ f ∈ fields, Obedient f.2) :
      Obedient (.bean ⟨.sorted, fields⟩)

/-! ## What copies show -/

/-- The scalar that is observed. -/
def Observation.scalar? : Observation → Option Scalar
  | scalar s => some s
  | _ => none

/-- A scalar can be seen. -/
lemma Value.scalar?_observe (v : Value) : v.observe.scalar? = v.asScalar? := by
  cases v with
  | scalar s => rfl
  | optional item => cases item <;> rfl
  | _ => simp [Observation.ofEntriesBy, Observation.scalar?, asScalar?]

/-- Two records show the same if their fields do.

**Proof sketch.** A record shows one slot for each property. That of a stored property is told by
its field; that of a computed one depends on scalars, which are told by what can be seen of them. -/
lemma Value.observe_record_eq {t : RecordType} {fields fields' : List (String × Value)}
    (hfields : ∀ p ∈ t.stored, p.description.style.isReadable = true →
      (fields'.lookup p.name).map observe = (fields.lookup p.name).map observe)
    (hinputs : ∀ p ∈ t.properties, ∀ n ∈ p.inputs,
      (fields'.lookup n).map observe = (fields.lookup n).map observe) :
    (bean ⟨.record t, fields'⟩).observe = (bean ⟨.record t, fields⟩).observe := by
  have hscalar (fields : List (String × Value)) (n : String) :
      fieldScalar fields n = (((fields.lookup n).map observe).bind Observation.scalar?).getD .null := by
    rw [fieldScalar, Option.bind_map]
    exact congrArg (fun f => ((fields.lookup n).bind f).getD .null)
      (funext fun v => (scalar?_observe v).symm)
  have hobserve (fields : List (String × Value)) : (bean ⟨.record t, fields⟩).observe =
      .bean t.type (t.properties.map (RecordProperty.slot fields
        (fields.map fun f => (f.1, observe f.2)) .scalar)) := by
    rw [observe_bean]
    exact congrArg (Observation.bean t.type)
      (BeanKind.slots_map observe (.record t) fields fields scalar).symm
  rw [hobserve, hobserve]
  refine congrArg (Observation.bean t.type) (map_congr_left fun p hp => ?_)
  rw [RecordProperty.slot, RecordProperty.slot]
  cases hreadable : p.description.style.isReadable with
  | false => rfl
  | true =>
    cases hsource : p.source with
    | absent => rfl
    | computed inputs value =>
      have hscalars : inputs.map (fieldScalar fields') = inputs.map (fieldScalar fields) := by
        refine map_congr_left fun n hn => ?_
        rw [hscalar, hscalar, hinputs p hp n (by rw [RecordProperty.inputs, hsource]; exact hn)]
      simp only [hscalars]
    | stored =>
      have hstored : p ∈ t.stored :=
        mem_filter.mpr ⟨hp, by rw [RecordProperty.isStored, hsource]⟩
      simp only [lookup_map, hfields p hstored hreadable]

/-! ## When there is a copy -/

namespace Cloner

/-- The copy of a value; the value itself if there is none. -/
def copy (c : Cloner) (v : Value) : Value :=
  match c.cloneValue v with
  | .ok w => w
  | .error _ => v

variable {c : Cloner} {v w : Value} {good : Prop}

/-- What was copied is the copy. -/
lemma copy_of_ok (h : c.cloneValue v = .ok w) : c.copy v = w := by
  rw [copy, h]

/-- The copy is what is made under the condition. -/
lemma outcome_copy (h : Outcome BeanError.IsRefusal (c.cloneValue v) good (·.observe = v.observe)) :
    Outcome BeanError.IsRefusal (c.cloneValue v) good (· = c.copy v) := by
  refine ⟨fun hgood => ?_, h.of_not_good⟩
  obtain ⟨w, hw, -⟩ := h.of_good hgood
  exact ⟨w, hw, (copy_of_ok hw).symm⟩

/-- What is known of the copy under the condition. -/
lemma copy_of_good (h : Outcome BeanError.IsRefusal (c.cloneValue v) good (·.observe = v.observe))
    (hgood : good) : c.cloneValue v = .ok (c.copy v) ∧ (c.copy v).observe = v.observe := by
  obtain ⟨w, hw, hobserve⟩ := h.of_good hgood
  rw [copy_of_ok hw]
  exact ⟨hw, hobserve⟩

/-! ### Records -/

/-- The value in the field of a property. -/
def valueOf (fields : List (String × Value)) (p : RecordProperty) : Value :=
  (fields.lookup p.name).getD .null

section

variable {t : RecordType} {fields : List (String × Value)} {p : RecordProperty} (hfits : t.Fits fields)

include hfits

/-- There is a value of its type in the field of a property. -/
lemma lookup_valueOf (hp : p ∈ t.stored) : fields.lookup p.name = some (valueOf fields p) ∧
    ∃ x, Typed.HasType p.type x ∧ x.toValue = valueOf fields p := by
  obtain ⟨x, hx, hfound⟩ := hfits.exists_lookup hp
  have hvalue : valueOf fields p = x.toValue := by rw [valueOf, hfound, Option.getD_some]
  exact ⟨hvalue ▸ hfound, x, hx, hvalue.symm⟩

/-- It is one of the fields. -/
lemma mem_valueOf (hp : p ∈ t.copied) : (p.name, valueOf fields p) ∈ fields :=
  mem_of_lookup (lookup_valueOf hfits (RecordType.mem_copied.mp hp).1).1

/-- What is supplied to the builder is found among the copies. -/
lemma lookup_cloneFields (hp : p ∈ t.copied) :
    (c.cloneFields fields).lookup p.name = some (c.cloneValue (valueOf fields p)) := by
  obtain ⟨hfound, -⟩ := lookup_valueOf hfits (RecordType.mem_copied.mp hp).1
  rw [cloneFields_eq_map, lookup_map, hfound]
  rfl

variable (hc : c.tier = .collections)
  (ih : ∀ f ∈ fields, Outcome BeanError.IsRefusal (c.cloneValue f.2) f.2.Obedient
    (·.observe = f.2.observe))

include ih

/-- What a bean shows that holds the copies. -/
lemma observe_rebuilt {b : Bean} (ht : t.Rebuildable) (hbuildable : t.isBuildable = true)
    (hgood : ∀ p ∈ t.copied, (valueOf fields p).Obedient)
    (hb : t.Rebuilt (fun p => c.copy (valueOf fields p)) b) :
    (Value.bean b).observe = (Value.bean ⟨.record t, fields⟩).observe := by
  obtain ⟨kind, fields'⟩ := b
  obtain ⟨rfl, hcopies, hrest⟩ := hb
  have hfield {p : RecordProperty} (hp : p ∈ t.copied) :
      (fields'.lookup p.name).map Value.observe = (fields.lookup p.name).map Value.observe := by
    obtain ⟨hfound, -⟩ := lookup_valueOf hfits (RecordType.mem_copied.mp hp).1
    obtain ⟨-, hobserve⟩ := copy_of_good (ih _ (mem_valueOf hfits hp)) (hgood p hp)
    rw [hcopies p hp, hfound]
    exact congrArg some hobserve
  refine Value.observe_record_eq (fun p hp hreadable => ?_) fun p hp n hn => ?_
  · cases hcopied : Cloner.isCopied p.description with
    | true => exact hfield (RecordType.mem_copied.mpr ⟨hp, hcopied⟩)
    | false =>
      have hsame := (hrest p hp hcopied).trans (hfits.fixed p hp hcopied hreadable).symm
      exact congrArg _ hsame
  · obtain ⟨q, hq, rfl, hcopied⟩ := ht.inputs hbuildable p hp n hn
    exact hfield (RecordType.mem_copied.mpr ⟨hq, hcopied⟩)

include hc

/-- The copies of its values are values of the types of a record. -/
lemma copies_of_fits : t.Copies (fun p => c.cloneValue (valueOf fields p))
    (fun p => (valueOf fields p).Obedient) (fun p => c.copy (valueOf fields p)) := by
  refine ⟨fun p hp => outcome_copy (ih _ (mem_valueOf hfits hp)), fun p hp hgood => ?_,
    fun p hp hgood htrim => ?_⟩
  all_goals obtain ⟨hclone, -⟩ := copy_of_good (ih _ (mem_valueOf hfits hp)) hgood
  all_goals obtain ⟨hp, -⟩ := RecordType.mem_copied.mp hp
  all_goals obtain ⟨hfound, x, hx, hxv⟩ := lookup_valueOf hfits hp
  · exact hasType_of_clone hc hx (hxv ▸ hclone)
  · exact trimmed_of_clone hclone (hfits.trimmed p hp htrim _ hfound)

/-- A bean that can be built again is obedient if the copies of its values obey the rules.

**Proof sketch.** A rule cannot tell a value from its copy, so the rules hold of the copies as they
do of the values. -/
lemma obedient_record_iff (hbuildable : t.isBuildable = true) (hfields : ∀ f ∈ fields, f.2.Regular) :
    (Value.bean ⟨.record t, fields⟩).Obedient ↔ ∀ p ∈ t.copied,
      (valueOf fields p).Obedient ∧ p.Obeyed (c.copy (valueOf fields p)) := by
  have hholds {p : RecordProperty} (hp : p ∈ t.copied) (hgood : (valueOf fields p).Obedient)
      (r : Rule) : r.holds (c.copy (valueOf fields p)) = r.holds (valueOf fields p) := by
    obtain ⟨hclone, -⟩ := copy_of_good (ih _ (mem_valueOf hfits hp)) hgood
    exact holds_of_clone hc r (hfields _ (mem_valueOf hfits hp)) hclone
  constructor
  · intro h p hp
    cases h with
    | unbuilt hnot =>
      rw [hbuildable] at hnot
      cases hnot
    | record hrules hvalues =>
      obtain ⟨hfound, -⟩ := lookup_valueOf hfits (RecordType.mem_copied.mp hp).1
      have hgood := hvalues p hp _ hfound
      refine ⟨hgood, fun r hr => ?_⟩
      rw [hholds hp hgood]
      exact hrules p hp _ hfound r hr
  · intro hgood
    have hvalue {p : RecordProperty} {v : Value} (hp : p ∈ t.copied)
        (hv : fields.lookup p.name = some v) : v = valueOf fields p := by
      rw [valueOf, hv, Option.getD_some]
    refine .record (fun p hp v hv r hr => ?_) fun p hp v hv => ?_
    · rw [hvalue hp hv, ← hholds hp (hgood p hp).1]
      exact (hgood p hp).2 r hr
    · rw [hvalue hp hv]
      exact (hgood p hp).1

/-- **When a bean of a record type can be copied**, if it is known of its values. -/
theorem clone_record_outcome (ht : t.Rebuildable) (hfields : ∀ f ∈ fields, f.2.Regular) :
    Outcome BeanError.IsRefusal (c.cloneValue (.bean ⟨.record t, fields⟩))
      (Value.bean ⟨.record t, fields⟩).Obedient
      (·.observe = (Value.bean ⟨.record t, fields⟩).observe) := by
  cases hbuildable : t.isBuildable with
  | false =>
    have hsame : c.cloneValue (.bean ⟨.record t, fields⟩) = .ok (.bean ⟨.record t, fields⟩) := by
      rw [cloneValue, rebuild]
      dsimp only
      rw [if_pos (by simp [MetaBean.isBuildable, BeanKind.metaBean, hbuildable])]
      rfl
    rw [hsame]
    exact Outcome.congr (.ok rfl) (iff_of_true trivial (.unbuilt hbuildable))
  | true =>
    have hclone : c.cloneValue (.bean ⟨.record t, fields⟩) =
        (t.builder >>= t.rebuildFrom fun p => c.cloneValue (valueOf fields p)).map .bean := by
      rw [cloneValue, rebuild_record_eq ht hbuildable fun p hp => lookup_cloneFields hfits hp]
    have hrebuild := RecordType.rebuild_outcome ht (copies_of_fits hfits hc ih) hbuildable
    have hshown := hrebuild.mono fun hgood b hb =>
      observe_rebuilt hfits ih ht hbuildable (fun p hp => (hgood p hp).1) hb
    rw [hclone]
    exact Outcome.congr (hshown.map fun b hb => hb)
      (obedient_record_iff hfits hc ih hbuildable hfields).symm

end

/-! ### All values -/

/-- What a bean with any properties shows. -/
lemma observe_entries {kind kind' : BeanKind} {fields fields' : List (String × Value)}
    (hkind : kind.isDynamic = true) (hkind' : kind'.isDynamic = true) (htype : kind'.type = kind.type)
    (hfields : fields'.map (fun f => (f.1, f.2.observe)) = fields.map fun f => (f.1, f.2.observe)) :
    (Value.bean ⟨kind', fields'⟩).observe = (Value.bean ⟨kind, fields⟩).observe := by
  have hslots {kind : BeanKind} (hkind : kind.isDynamic = true) (fields : List (String × Value)) :
      (Bean.slots ⟨kind, fields⟩).map (Slot.map Value.observe) =
        (fields.map fun f => (f.1, f.2.observe)).map fun f => .shown f.1 f.2 := by
    cases kind with
    | record t => cases hkind
    | flexible types => simp [Bean.slots, BeanKind.slots, Slot.map]
    | sorted => simp [Bean.slots, BeanKind.slots, Slot.map]
  rw [Value.observe_bean, Value.observe_bean, hslots hkind', hslots hkind, hfields]
  exact congrArg (Observation.bean · _) htype

/-- Fields with copies show the same. -/
lemma map_copy_eq {fields : List (String × Value)}
    (h : ∀ f ∈ fields, (c.copy f.2).observe = f.2.observe) :
    (fields.map fun f => (f.1, c.copy f.2)).map (fun f => (f.1, f.2.observe)) =
      fields.map fun f => (f.1, f.2.observe) := by
  rw [map_map]
  exact map_congr_left fun f hf => Prod.ext rfl (h f hf)

/-- **When a value has a copy, and what that shows.** A copy is refused exactly if something that is
copied breaks a rule; else it shows what the value shows.

The induction is on how the value is regular, which is how it is built from its parts. -/
theorem cloneValue_outcome (hc : c.tier = .collections) (hv : v.Regular) :
    Outcome BeanError.IsRefusal (c.cloneValue v) v.Obedient (·.observe = v.observe) := by
  induction hv with
  | scalar s => exact Outcome.congr (.ok rfl) (iff_of_true trivial (.scalar s))
  | list _ ih =>
    rw [cloneValue, cloneAll_eq_mapM]
    refine Outcome.congr ((Outcome.mapM ih).map fun ws hws => ?_) ⟨.list, fun h => ?_⟩
    · rw [Value.observe_list, Value.observe_list,
        Order.map_eq_of_forall₂ (hws.imp fun v w h => h.symm)]
    · cases h with | list h => exact h
  | set _ ih =>
    rw [cloneValue, cloneAll_eq_mapM]
    refine Outcome.congr ((Outcome.mapM ih).map fun ws hws => ?_) ⟨.set, fun h => ?_⟩
    · rw [Value.observe_set, Value.observe_set,
        Order.map_eq_of_forall₂ (hws.imp fun v w h => h.symm)]
    · cases h with | set h => exact h
  | @map entries _ _ ihk ihv =>
    have hentry : ∀ e ∈ entries, Outcome BeanError.IsRefusal
        (do return (← c.cloneValue e.1, ← c.cloneValue e.2)) (e.1.Obedient ∧ e.2.Obedient)
        fun f : Value × Value => (e.1.observe, e.2.observe) = (f.1.observe, f.2.observe) := by
      intro e he
      refine Outcome.congr ((ihk e he).bind fun _ k hk => (ihv e he).bind fun _ v hv => .ok ?_) ?_
      · rw [hk, hv]
      · rw [and_true]
    rw [cloneValue, cloneEntries_eq_mapM]
    refine Outcome.congr ((Outcome.mapM hentry).map fun fs hfs => ?_)
      ⟨fun h => .map (fun e he => (h e he).1) fun e he => (h e he).2, fun h => ?_⟩
    · rw [Value.observe_map, Value.observe_map, Order.map_eq_of_forall₂ hfs]
    · cases h with | map hkeys hvalues => exact fun e he => ⟨hkeys e he, hvalues e he⟩
  | absent => exact Outcome.congr (.ok rfl) (iff_of_true trivial .absent)
  | present _ ih =>
    refine Outcome.congr (ih.map fun w hw => ?_) ⟨.present, fun h => ?_⟩
    · rw [Value.observe_some, Value.observe_some, hw]
    · cases h with | present h => exact h
  | thing hi t =>
    rw [clone_thing hc]
    exact Outcome.congr (.ok rfl) (iff_of_true trivial (.thing _ t))
  | grid i _ _ =>
    rw [clone_grid hc]
    exact Outcome.congr (.ok rfl) (iff_of_true trivial (.grid i _))
  | record ht hfits hfields ih => exact clone_record_outcome hfits hc ih ht hfields
  | @flexible types fields hnames _ ih =>
    rw [cloneValue, cloneFields_eq_map]
    have hrebuild := rebuild_flexible_outcome (fun f hf => outcome_copy (ih f hf)) types hnames
    refine Outcome.congr ((hrebuild.mono fun hgood b hb => ?_).map fun _ hb => hb)
      ⟨.flexible, fun h => ?_⟩
    · rw [hb]
      exact observe_entries rfl rfl rfl (map_copy_eq fun f hf => (copy_of_good (ih f hf) (hgood f hf)).2)
    · cases h with | flexible h => exact h
  | sorted hnames _ ih =>
    rw [cloneValue, cloneFields_eq_map]
    have hrebuild := rebuild_sorted_outcome (fun f hf => outcome_copy (ih f hf)) hnames
    refine Outcome.congr ((hrebuild.mono fun hgood b hb => ?_).map fun _ hb => hb)
      ⟨.sorted, fun h => ?_⟩
    · rw [hb]
      exact observe_entries rfl rfl rfl (map_copy_eq fun f hf => (copy_of_good (ih f hf) (hgood f hf)).2)
    · cases h with | sorted h => exact h

end Cloner

/-! ## Copies of beans -/

/-- A bean is lawful that shows what a lawful bean of the same kind shows. -/
lemma Bean.lawful_of_observation {a b : Bean} (ha : a.kind.Lawful (a.fields.map Prod.fst))
    (hkind : b.kind = a.kind.undeclared) (hobservation : b.observation = a.observation) :
    b.kind.Lawful (b.fields.map Prod.fst) := by
  have hnodup : (b.slots.map Slot.name).Nodup := by
    rw [← names_observation, hobservation]
    exact nodup_observation ha
  rw [names_slots] at hnodup
  obtain ⟨kind, fields⟩ := b
  obtain ⟨kind', fields'⟩ := a
  obtain rfl : kind = kind'.undeclared := hkind
  cases kind' with
  | record t => exact ha
  | flexible types => exact hnodup
  | sorted => exact hnodup

/-- A regular bean is lawful. -/
lemma Value.Regular.lawful {b : Bean} (hb : (Value.bean b).Regular) :
    b.kind.Lawful (b.fields.map Prod.fst) := by
  cases hb with
  | record ht _ _ => exact ht.lawful
  | flexible hnames _ => exact hnames
  | sorted hnames _ => exact hnames.nodup

namespace Cloner

/-- **When a regular bean has a copy**: if it is obedient. The copy is of the same type and has the
same properties as the bean, unless the bean has not the same as itself.

**Proof sketch.** `cloneValue_outcome` says when the bean has a copy as a value. The copy shows what
the bean shows, so comparing the bean with it is comparing the bean with itself. -/
theorem cloneBean_outcome {c : Cloner} (hc : c.tier = .collections) {b : Bean}
    (hb : (Value.bean b).Regular) :
    Outcome BeanError.IsRefusal (c.cloneBean b) (Value.bean b).Obedient fun copy =>
      copy.type = b.type ∧ (b.propertiesSame copy = true ↔ (Value.bean b).observe.Legible) := by
  have hvalue : c.cloneValue (.bean b) = (c.cloneBean b).map .bean := by
    obtain ⟨kind, fields⟩ := b
    rfl
  have houtcome := cloneValue_outcome hc hb
  rw [hvalue] at houtcome
  refine ⟨fun hgood => ?_, fun hnot => ?_⟩
  · obtain ⟨w, hw, hobserve⟩ := houtcome.of_good hgood
    obtain ⟨copy, hcopy, rfl⟩ := map_eq_ok_iff.mp hw
    have hkind : copy.kind = b.kind.undeclared := kind_of_rebuild hcopy
    have hobservation : copy.observation = b.observation := by
      rw [Value.observe_bean, Value.observe_bean] at hobserve
      exact (Observation.bean.inj hobserve).2
    have hlawful := Bean.lawful_of_observation hb.lawful hkind hobservation
    have hself : b.propertiesSame copy = (Value.bean b).same (.bean b) := by
      have htype : b.type.same b.type = true := beq_self_eq_true _
      rw [Value.same_bean hb.lawful hb.lawful, htype, Bool.true_and,
        Bean.propertiesSame_eq hb.lawful hlawful, Bean.propertiesSame_eq hb.lawful hb.lawful,
        hobservation]
    refine ⟨copy, hcopy, ?_, ?_⟩
    · rw [BeanOf.type, hkind, BeanKind.type_undeclared]
      rfl
    · rw [hself, hb.same_self_iff]
  · obtain ⟨e, he, hrefused⟩ := houtcome.of_not_good hnot
    cases hclone : c.cloneBean b with
    | ok copy =>
      rw [hclone] at he
      cases he
    | error e' =>
      rw [hclone] at he
      exact ⟨e', rfl, Except.error.inj he ▸ hrefused⟩

end Cloner

end Beans

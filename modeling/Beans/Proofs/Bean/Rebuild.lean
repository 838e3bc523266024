import Mathlib.Tactic.Common
import Beans.Proofs.Bean.Regular

/-!
# Building beans again

A copy of a bean is built from the copies of its values. Here these are any values of the types of
their properties, each of which may fail to be made. Building succeeds if all of them are made and
obey the rules of their properties; nothing else can go wrong.

The three ways to build a bean apply the rules at different times: when a value is supplied, or at the
end, all together or between the steps of a constructor.

## Main definitions

* `Beans.BeanError.IsRefusal` — a value breaks the rule of a property.
* `Beans.RecordType.copied` — the properties whose values are copied.

## Main results

* `Beans.Cloner.feedBuilder_outcome` — when values can be supplied to a builder.
* `Beans.RecordType.rebuild_outcome` — when a bean of a record type can be built again, and what it
  holds then.
* `Beans.Cloner.rebuild_flexible_eq`, `Beans.Cloner.rebuild_sorted_eq` — what a bean with any
  properties is built into.
* `Beans.Cloner.rebuild_flexible_outcome`, `Beans.Cloner.rebuild_sorted_outcome` — when it can be built
  again.
-/

set_option autoImplicit false

open List

namespace Beans

/-! ## Rules -/

/-- The error tells that a value breaks the rule of a property. -/
def BeanError.IsRefusal (e : BeanError) : Prop :=
  ∃ (name : String) (r : Rule), e = .validation name r.message

/-- A value obeys the rule of a property, if there is one. -/
def RecordProperty.Obeyed (p : RecordProperty) (v : Value) : Prop :=
  ∀ r, p.rule = some r → r.holds v = true

instance (p : RecordProperty) (v : Value) : Decidable (p.Obeyed v) :=
  match hrule : p.rule with
  | none => .isTrue fun r hr => by simp [hrule] at hr
  | some r => decidable_of_iff (r.holds v = true)
    ⟨fun h r' hr' => Option.some.inj (hrule.symm.trans hr') ▸ h, fun h => h r hrule⟩

/-- **When a property takes a value of its type.** -/
theorem RecordProperty.accept_outcome {p : RecordProperty} {x : Typed} (hp : p.type.isStrict = true)
    (hx : Typed.HasType p.type x) (htrim : p.trimmed = true → x.toValue.trimmed = x.toValue) :
    Outcome BeanError.IsRefusal (p.accept x.toValue) (p.Obeyed x.toValue) (· = x.toValue) := by
  refine ⟨fun hobeyed => ⟨_, accept_of_holds hp hx htrim hobeyed, rfl⟩, fun hnot => ?_⟩
  obtain ⟨r, hnot⟩ := not_forall.mp hnot
  obtain ⟨hr, hnot⟩ := Classical.not_imp.mp hnot
  exact ⟨_, accept_of_not_holds hp hx hr (Bool.not_eq_true _ ▸ hnot), p.name, r, rfl⟩

/-- When given values obey the rules of properties. -/
lemma RecordType.checkRules_outcome {values : List (String × Value)} {ps : List RecordProperty}
    {w : RecordProperty → Value} (h : ∀ p ∈ ps, values.lookup p.name = some (w p)) :
    Outcome BeanError.IsRefusal (checkRules values ps) (∀ p ∈ ps, p.Obeyed (w p))
      fun _ => True := by
  induction ps with
  | nil => exact Outcome.congr (Outcome.ok trivial) (by simp)
  | cons p ps ih =>
    obtain ⟨hp, h⟩ := forall_mem_cons.mp h
    rw [checkRules, hp]
    cases hr : p.rule with
    | none =>
      have hobeyed : p.Obeyed (w p) := fun r hr' => by simp [hr] at hr'
      exact (ih h).congr (by simp [hobeyed])
    | some r =>
      have hcheck : Outcome BeanError.IsRefusal (r.check p.name (w p)) (p.Obeyed (w p))
          fun _ => True := by
        have hobeyed : p.Obeyed (w p) ↔ r.holds (w p) = true := by
          rw [RecordProperty.Obeyed, hr]
          exact ⟨fun h => h r rfl, fun h r' hr' => Option.some.inj hr' ▸ h⟩
        refine ⟨fun h => ⟨_, if_pos (hobeyed.mp h), trivial⟩, fun h => ⟨_, if_neg ?_, p.name, r, rfl⟩⟩
        exact mt hobeyed.mpr h
      exact (hcheck.bind fun _ _ _ => ih h).congr (by rw [forall_mem_cons])

/-! ## Supplying values -/

namespace Cloner

section

variable {ι : Type} (stage : List (String × Value) → Builder)
  (put : String → Value → List (String × Value) → List (String × Value)) (describe : ι → MetaProperty)
  {copy : ι → Except BeanError Value} {w : ι → Value} {good good' : ι → Prop}

/-- **When values can be supplied to a builder**, by induction on the values. Each has to be made
first, and then to be taken; `stage` is the builder by what it holds, and `put` is what supplying a
value does to that. -/
theorem feedBuilder_outcome (is : List ι) (fields : List (String × Value))
    (hcopy : ∀ i ∈ is, Outcome BeanError.IsRefusal (copy i) (good i) (· = w i))
    (hset : ∀ i ∈ is, good i → ∀ fields, Outcome BeanError.IsRefusal
      ((stage fields).setMeta (describe i) (w i)) (good' i)
      (· = stage (put (describe i).name (w i) fields))) :
    Outcome BeanError.IsRefusal
      (feedBuilder (stage fields) (is.map fun i => (describe i, copy i)))
      (∀ i ∈ is, good i ∧ good' i)
      (· = stage ((is.map fun i => ((describe i).name, w i)).foldl
        (fun fields f => put f.1 f.2 fields) fields)) := by
  induction is generalizing fields with
  | nil => exact Outcome.congr (Outcome.ok rfl) (by simp)
  | cons i is ih =>
    obtain ⟨hi, hcopy⟩ := forall_mem_cons.mp hcopy
    obtain ⟨hseti, hset⟩ := forall_mem_cons.mp hset
    refine Outcome.congr (hi.bind fun hgood v hv => ?_) (by rw [forall_mem_cons, and_assoc])
    subst hv
    refine (hseti hgood fields).bind fun _ b hb => ?_
    subst hb
    exact ih _ hcopy hset

variable {describe} in
/-- What takes part in copying, if the slots of the properties show the copies of their values. -/
lemma copiedParts_eq {kind : BeanKind} {names : List String}
    {slots : List (Slot (Except BeanError Value))} {is : List ι}
    (hfilter : (kind.table names).properties.filter isCopied = is.map describe)
    (hslot : ∀ i ∈ is, (slots.find? fun s => s.name == (describe i).name) =
      some (.shown (describe i).name (copy i))) :
    copiedParts kind names slots = is.map fun i => (describe i, copy i) := by
  rw [copiedParts, hfilter, map_map]
  refine map_congr_left fun i hi => Prod.ext rfl ?_
  simp only [Function.comp_apply, hslot i hi]
  rfl

end

end Cloner

/-! ## Records -/

/-- The properties whose values are copied. -/
def RecordType.copied (t : RecordType) : List RecordProperty :=
  t.stored.filter fun p => Cloner.isCopied p.description

namespace RecordType

variable {t : RecordType} {p : RecordProperty}

/-- Those properties are stored. -/
lemma mem_copied : p ∈ t.copied ↔ p ∈ t.stored ∧ Cloner.isCopied p.description = true := mem_filter

/-- The properties that take part in copying are the ones that are copied. -/
lemma filter_isCopied (ht : t.Rebuildable) :
    t.table.properties.filter Cloner.isCopied = t.copied.map RecordProperty.description := by
  rw [table, filter_map, copied, stored, filter_filter]
  refine congrArg _ (filter_congr fun p hp => ?_)
  cases hcopied : Cloner.isCopied p.description with
  | false => exact hcopied
  | true => exact hcopied.trans (ht.isStored p hp (.inl hcopied)).symm

/-- What takes part in copying are the copies of the fields. -/
lemma copiedParts_record (ht : t.Rebuildable) {fields : List (String × Value)} {names : List String}
    {copies : List (String × Except BeanError Value)} {copy : RecordProperty → Except BeanError Value}
    (hcopies : ∀ p ∈ t.copied, copies.lookup p.name = some (copy p))
    (lift : Scalar → Except BeanError Value) :
    Cloner.copiedParts (.record t) names ((BeanKind.record t).slots fields copies lift) =
      t.copied.map fun p => (p.description, copy p) := by
  refine Cloner.copiedParts_eq (filter_isCopied ht) fun p hp => ?_
  have hcopy := hcopies p hp
  obtain ⟨hp, hcopied⟩ := mem_copied.mp hp
  have hreadable : p.description.style.isReadable = true := (Bool.and_eq_true_iff.mp hcopied).2
  have hslot : p.slot fields copies lift = .shown p.name (copy p) := by
    rw [RecordProperty.slot, hreadable, source_of_mem_stored hp, hcopy]
    rfl
  have hnames : ((t.properties.map (RecordProperty.slot fields copies lift)).map Slot.name).Nodup := by
    have hmap : (t.properties.map (RecordProperty.slot fields copies lift)).map Slot.name =
        t.properties.map RecordProperty.name := by simp
    exact hmap ▸ ht.lawful.nodup
  have hfound := find?_name_of_nodup hnames
    (mem_map_of_mem (f := RecordProperty.slot fields copies lift) (mem_properties hp))
  rw [hslot] at hfound
  exact hfound

/-- What a bean holds that is built again from values: these, and otherwise what a default bean
holds. -/
structure Rebuilt (t : RecordType) (w : RecordProperty → Value) (b : Bean) : Prop where
  kind : b.kind = .record t
  copied : ∀ p ∈ t.copied, b.fields.lookup p.name = some (w p)
  rest : ∀ p ∈ t.stored, Cloner.isCopied p.description = false →
    b.fields.lookup p.name = t.default.fields.lookup p.name

section

variable {w : RecordProperty → Value}

/-- The values that are supplied have different names. -/
lemma Lawful.nodup_supplied (ht : t.Lawful) :
    ((t.copied.map fun p => (p.name, w p)).map Prod.fst).Nodup := by
  rw [map_map]
  exact ht.nodup_stored.sublist (filter_sublist.map _)

/-- A value that was supplied is found. -/
lemma Lawful.lookup_supplied (ht : t.Lawful) (hp : p ∈ t.copied) (fields : List (String × Value)) :
    (putFields fields (t.copied.map fun p => (p.name, w p))).lookup p.name = some (w p) := by
  rw [lookup_putFields ht.nodup_supplied, lookup_of_nodup ht.nodup_supplied (mem_map_of_mem hp)]
  rfl

/-- The values of other properties are as before. -/
lemma Lawful.lookup_not_supplied (ht : t.Lawful) (hp : p ∈ t.stored)
    (hcopied : Cloner.isCopied p.description = false) (fields : List (String × Value)) :
    (putFields fields (t.copied.map fun p => (p.name, w p))).lookup p.name =
      fields.lookup p.name := by
  have hnew : p.name ∉ (t.copied.map fun p => (p.name, w p)).map Prod.fst := by
    rw [map_map]
    intro hmem
    obtain ⟨q, hq, hname⟩ := mem_map.mp hmem
    obtain ⟨hq, hqcopied⟩ := mem_copied.mp hq
    obtain rfl := ht.eq_of_name hq hp hname
    rw [hcopied] at hqcopied
    cases hqcopied
  rw [lookup_putFields ht.nodup_supplied, lookup_of_not_mem hnew]
  rfl

end

/-! ### By the steps of a constructor -/

section

variable {step : ConstructorStep} {steps : List ConstructorStep} {name : String}
  {args : Arguments}

/-- A step takes the argument of its property. -/
lemma construct_taken {fields : List (String × Value)} {v : Value} {x : Typed}
    (hstep : step.taken? = some name) (hp : t.property? name = some p)
    (hv : args.get? name = some v) (hx : p.type.ofValue v = .ok x) :
    t.construct fields args (step :: steps) =
      t.construct (putField name x.toValue fields) (args.erase name) steps := by
  cases step with
  | take n =>
    obtain rfl := Option.some.inj hstep
    simp only [construct, construct.find, hp, Arguments.take, hv, bind, Except.bind, hx]
  | takeOrDefault n =>
    obtain rfl := Option.some.inj hstep
    simp only [construct, construct.find, hp, Arguments.takeOrDefault, hv, bind, Except.bind, hx]
  | check n => cases hstep

/-- What is checked was taken. -/
lemma mem_or_of_checksTaken {seen : List String} (h : ConstructorStep.checksTaken seen steps = true)
    (hcheck : .check name ∈ steps) :
    name ∈ seen ∨ name ∈ steps.filterMap ConstructorStep.taken? := by
  induction steps generalizing seen with
  | nil => cases hcheck
  | cons step steps ih =>
    have htaken {n : String} (hstep : step.taken? = some n)
        (h : ConstructorStep.checksTaken (n :: seen) steps = true) (hcheck : .check name ∈ steps) :
        name ∈ seen ∨ name ∈ (step :: steps).filterMap ConstructorStep.taken? := by
      rw [filterMap_cons_some hstep, mem_cons]
      obtain hmem | hmem := ih h hcheck
      · exact (mem_cons.mp hmem).elim (fun heq => .inr (.inl heq)) .inl
      · exact .inr (.inr hmem)
    obtain heq | hlater := mem_cons.mp hcheck
    · subst heq
      exact .inl (by simpa using (Bool.and_eq_true_iff.mp h).1)
    · cases step with
      | take n => exact htaken rfl h hlater
      | takeOrDefault n => exact htaken rfl h hlater
      | check n => exact ih (Bool.and_eq_true_iff.mp h).2 hlater

/-- **When the steps of a constructor go through**, by induction on the steps that are left; `done` are
the properties whose values are stored already. -/
theorem construct_outcome {v : String → Value} {done seen : List String}
    (hnew : (done ++ steps.filterMap ConstructorStep.taken?).Nodup)
    (hknown : ∀ n ∈ done ++ steps.filterMap ConstructorStep.taken?, ∃ p x,
      t.property? n = some p ∧ p.type.isStrict = true ∧ Typed.HasType p.type x ∧ x.toValue = v n)
    (hargs : ∀ n ∈ steps.filterMap ConstructorStep.taken?, args.get? n = some (v n))
    (hseen : ∀ n ∈ seen, n ∈ done) (hchecks : ConstructorStep.checksTaken seen steps = true) :
    Outcome BeanError.IsRefusal (t.construct (done.map fun n => (n, v n)) args steps)
      (∀ n, .check n ∈ steps → ∀ p, t.property? n = some p → p.Obeyed (v n))
      (· = (done ++ steps.filterMap ConstructorStep.taken?).map fun n => (n, v n)) := by
  induction steps generalizing done seen args with
  | nil => exact Outcome.congr (Outcome.ok (by simp)) (by simp)
  | cons step steps ih =>
    -- a step that stores the value of a property
    have htaken (name : String) (hstep : step.taken? = some name)
        (hchecks : ConstructorStep.checksTaken (name :: seen) steps = true)
        (hstored : ∀ n, .check n ∈ step :: steps ↔ .check n ∈ steps) :
        Outcome BeanError.IsRefusal (t.construct (done.map fun n => (n, v n)) args (step :: steps))
          (∀ n, .check n ∈ step :: steps → ∀ p, t.property? n = some p → p.Obeyed (v n))
          (· = (done ++ (step :: steps).filterMap ConstructorStep.taken?).map
            fun n => (n, v n)) := by
      have hsplit : done ++ (step :: steps).filterMap ConstructorStep.taken? =
          done ++ [name] ++ steps.filterMap ConstructorStep.taken? := by
        rw [filterMap_cons_some hstep, append_assoc]
        rfl
      rw [filterMap_cons_some hstep] at hargs
      rw [hsplit] at hnew hknown ⊢
      obtain ⟨p, x, hp, hstrict, hx, hxv⟩ := hknown name (by simp)
      have hfirst : name ∉ (done.map fun n => (n, v n)).map Prod.fst := by
        rw [map_map]
        intro hmem
        obtain ⟨n, hn, rfl⟩ := mem_map.mp hmem
        exact (nodup_append.mp (nodup_append.mp hnew).1).2.2 _ hn _ mem_cons_self rfl
      have hvalue := ValueType.ofValue_toValue_eq hstrict hx
      rw [construct_taken hstep hp (hargs name mem_cons_self) (hxv ▸ hvalue), hxv,
        putField_of_not_mem hfirst]
      have hargs' : ∀ n ∈ steps.filterMap ConstructorStep.taken?,
          (args.erase name).get? n = some (v n) := by
        intro n hn
        have hne : n ≠ name := by
          rintro rfl
          exact (nodup_append.mp hnew).2.2 _ (by simp) _ hn rfl
        exact (lookup_eraseField_of_ne hne).trans (hargs n (mem_cons_of_mem _ hn))
      have hseen' : ∀ n ∈ name :: seen, n ∈ done ++ [name] := by
        intro n hn
        obtain rfl | hn := mem_cons.mp hn
        · simp
        · exact mem_append_left _ (hseen n hn)
      have hnext := ih hnew hknown hargs' hseen' hchecks
      rw [map_append, map_singleton] at hnext
      simpa only [hstored] using hnext
    cases step with
    | take name => exact htaken name rfl hchecks (by simp)
    | takeOrDefault name => exact htaken name rfl hchecks (by simp)
    | check name =>
      obtain ⟨hmem, hafter⟩ := Bool.and_eq_true_iff.mp hchecks
      have hdone : name ∈ done := hseen name (by simpa using hmem)
      obtain ⟨p, x, hp, -, -, -⟩ := hknown name (mem_append_left _ hdone)
      obtain ⟨-, rfl⟩ := of_property? hp
      have hcheck : Outcome BeanError.IsRefusal (checkRules (done.map fun n => (n, v n)) [p])
          (∀ q ∈ [p], q.Obeyed (v q.name)) fun _ => True :=
        checkRules_outcome fun q hq => by
          obtain rfl := mem_singleton.mp hq
          exact lookup_tabulate v hdone
      rw [construct, construct.find, hp]
      refine Outcome.congr (hcheck.bind fun _ _ _ => ih hnew hknown hargs hseen hafter) ?_
      constructor
      · rintro ⟨hfirst, hrest⟩ n hn q hq
        obtain heq | hn := mem_cons.mp hn
        · obtain rfl : n = p.name := ConstructorStep.check.inj heq
          obtain rfl : p = q := Option.some.inj (hp.symm.trans hq)
          exact hfirst p mem_cons_self
        · exact hrest n hn q hq
      · intro h
        refine ⟨fun q hq => ?_, fun n hn => h n (mem_cons_of_mem _ hn)⟩
        obtain rfl := mem_singleton.mp hq
        exact h _ mem_cons_self _ hp

end

/-! ### The three ways to build -/

/-- Copies of the values of a record, each of which is made under a condition. Then it is of the type
of its property. -/
structure Copies (t : RecordType) (copy : RecordProperty → Except BeanError Value)
    (good : RecordProperty → Prop) (w : RecordProperty → Value) : Prop where
  outcome : ∀ p ∈ t.copied, Outcome BeanError.IsRefusal (copy p) (good p) (· = w p)
  typed : ∀ p ∈ t.copied, good p → ∃ x, Typed.HasType p.type x ∧ x.toValue = w p
  trimmed : ∀ p ∈ t.copied, good p → p.trimmed = true → (w p).trimmed = w p

/-- The copies are supplied to a builder, and the bean is built. -/
def rebuildFrom (t : RecordType) (copy : RecordProperty → Except BeanError Value) (b : Builder) :
    Except BeanError Bean := do
  (← Cloner.feedBuilder b (t.copied.map fun p => (p.description, copy p))).build

section

variable {copy : RecordProperty → Except BeanError Value} {good : RecordProperty → Prop}
  {w : RecordProperty → Value} (ht : t.Rebuildable) (h : t.Copies copy good w)

include ht h

/-- A default bean takes the values one by one. -/
lemma editing_outcome (hbuilding : t.building = .editing) :
    Outcome BeanError.IsRefusal (t.rebuildFrom copy (.editing t.default))
      (∀ p ∈ t.copied, good p ∧ p.Obeyed (w p)) (t.Rebuilt w) := by
  have hfits := ht.building
  rw [hbuilding] at hfits
  have hset : ∀ p ∈ t.copied, good p → ∀ fields, Outcome BeanError.IsRefusal
      ((Builder.editing ⟨.record t, fields⟩).setMeta p.description (w p)) (p.Obeyed (w p))
      (· = .editing ⟨.record t, putField p.name (w p) fields⟩) := by
    intro p hp hgood fields
    obtain ⟨x, hx, hxw⟩ := h.typed p hp hgood
    have htrimmed := h.trimmed p hp hgood
    obtain ⟨hp, hcopied⟩ := mem_copied.mp hp
    have haccept := RecordProperty.accept_outcome (ht.strict p hp) hx (hxw ▸ htrimmed)
    rw [hxw] at haccept
    change Outcome _ (Except.map _ (Bean.set _ p.name (w p))) _ _
    rw [set_record_eq ht.lawful (mem_properties hp) ((hfits p hp).2 hcopied)]
    refine (haccept.map fun v hv => ?_).map fun _ hb => congrArg Builder.editing hb
    rw [hv]
  have hfeed := Cloner.feedBuilder_outcome (fun fields => .editing ⟨.record t, fields⟩) putField
    RecordProperty.description t.copied t.default.fields h.outcome hset
  refine Outcome.congr (hfeed.bind fun _ b hb => ?_) (Iff.of_eq (and_true _))
  subst hb
  exact Outcome.ok ⟨rfl, fun p hp => ht.lawful.lookup_supplied hp _,
    fun p hp hcopied => ht.lawful.lookup_not_supplied hp hcopied _⟩

omit ht h in
/-- The values of all properties are collected if they obey the rules. -/
lemma collect_outcome (ht : t.Lawful) (hcopied : ∀ p ∈ t.stored, Cloner.isCopied p.description = true)
    {values : List (String × Value)} (hvalues : ∀ p ∈ t.stored, values.lookup p.name = some (w p)) :
    Outcome BeanError.IsRefusal (t.collect values) (∀ p ∈ t.stored, p.Obeyed (w p))
      (t.Rebuilt w) := by
  have hwanted : (t.wanted.find? fun p => (values.lookup p.name).isNone) = none := by
    refine find?_eq_none.mpr fun p hp => ?_
    rw [hvalues p (mem_wanted.mp hp)]
    exact Bool.false_ne_true
  have hcheck : t.collect values = (do
      checkRules values t.stored
      return ⟨.record t, t.stored.map fun p => (p.name, (values.lookup p.name).getD .null)⟩) := by
    rw [collect, hwanted]
  rw [hcheck]
  refine Outcome.congr ((checkRules_outcome hvalues).bind fun _ _ _ => .ok ⟨rfl, ?_, ?_⟩)
    (Iff.of_eq (and_true _))
  · intro p hp
    obtain ⟨hp, -⟩ := mem_copied.mp hp
    change List.lookup p.name (t.stored.map _) = _
    rw [ht.lookup_tabulate hp, hvalues p hp]
    rfl
  · intro p hp hnot
    rw [hcopied p hp] at hnot
    cases hnot

omit ht h in
/-- If copies of all values can be supplied whenever they are made, the rules decide what is built. -/
lemma rebuildFrom_outcome {b b' : Builder} (hcopied : ∀ p ∈ t.stored, p ∈ t.copied)
    (hfeed : Outcome BeanError.IsRefusal
      (Cloner.feedBuilder b (t.copied.map fun p => (p.description, copy p)))
      (∀ p ∈ t.copied, good p ∧ True) (· = b'))
    (hbuild : (∀ p ∈ t.copied, good p) → Outcome BeanError.IsRefusal b'.build
      (∀ p ∈ t.stored, p.Obeyed (w p)) (t.Rebuilt w)) :
    Outcome BeanError.IsRefusal (t.rebuildFrom copy b) (∀ p ∈ t.copied, good p ∧ p.Obeyed (w p))
      (t.Rebuilt w) := by
  have hboth := hfeed.bind fun hgood b'' hb => show Outcome _ b''.build _ (t.Rebuilt w) by
    rw [hb]
    exact hbuild fun p hp => (hgood p hp).1
  refine Outcome.congr hboth ?_
  constructor
  · exact fun ⟨hgood, hobeyed⟩ p hp => ⟨(hgood p hp).1, hobeyed p (mem_copied.mp hp).1⟩
  · exact fun hall => ⟨fun p hp => ⟨(hall p hp).1, trivial⟩, fun p hp => (hall p (hcopied p hp)).2⟩

/-- Values in the form of their types are collected, and checked at the end.

**Proof sketch.** A value of the type of its property is converted to itself, so that supplying the
copies never fails. What is built then depends on the rules alone. -/
lemma collecting_outcome (hbuilding : t.building = .collecting) (values : List (String × Value)) :
    Outcome BeanError.IsRefusal (t.rebuildFrom copy (.collecting t values))
      (∀ p ∈ t.copied, good p ∧ p.Obeyed (w p)) (t.Rebuilt w) := by
  have hfits := ht.building
  rw [hbuilding] at hfits
  have hcopied : ∀ p ∈ t.stored, p ∈ t.copied := fun p hp => mem_copied.mpr ⟨hp, (hfits p hp).1⟩
  have hset : ∀ p ∈ t.copied, good p → ∀ fields, Outcome BeanError.IsRefusal
      ((Builder.collecting t fields).setMeta p.description (w p)) True
      (· = .collecting t (putField p.name (w p) fields)) := by
    intro p hp hgood fields
    obtain ⟨x, hx, hxw⟩ := h.typed p hp hgood
    obtain ⟨hp, -⟩ := mem_copied.mp hp
    have hconvert := hx.convert_eq (ht.strict p hp)
    rw [hxw] at hconvert
    have hset : (Builder.collecting t fields).setMeta p.description (w p) =
        .ok (.collecting t (putField p.name (w p) fields)) := by
      have hname : p.description.name = p.name := rfl
      simp only [Builder.setMeta, Builder.set, metaProperty, hname,
        ht.lawful.find?_table (mem_properties hp), ht.lawful.property?_eq (mem_properties hp),
        hconvert, bind, Except.bind]
      rfl
    rw [hset]
    exact .ok rfl
  have hfeed := Cloner.feedBuilder_outcome (Builder.collecting t) putField RecordProperty.description
    t.copied values h.outcome hset
  exact rebuildFrom_outcome hcopied hfeed fun _ =>
    collect_outcome ht.lawful (fun p hp => (hfits p hp).1) fun p hp =>
      ht.lawful.lookup_supplied (hcopied p hp) values

/-- A constructor takes the copies that were supplied, and checks the rules on its way.

**Proof sketch.** `construct_outcome` speaks of values by the names of properties. The steps take
all stored properties, and each rule has a step that checks it. -/
lemma build_buffering_outcome {steps : List ConstructorStep}
    (hbuilding : t.building = .buffering steps) (hgood : ∀ p ∈ t.copied, good p) :
    Outcome BeanError.IsRefusal
      (Builder.buffering t steps ⟨putFields [] (t.copied.map fun p => (p.name, w p))⟩).build
      (∀ p ∈ t.stored, p.Obeyed (w p)) (t.Rebuilt w) := by
  have hfits := ht.building
  rw [hbuilding] at hfits
  obtain ⟨hstored, htaken, hchecks⟩ := hfits
  have hcopied : ∀ p ∈ t.stored, p ∈ t.copied := fun p hp =>
    mem_copied.mpr ⟨hp, (hstored p hp).1⟩
  let v (name : String) : Value := ((t.property? name).map w).getD .null
  have hv : ∀ p ∈ t.stored, v p.name = w p := fun p hp => by
    simp [v, ht.lawful.property?_eq (mem_properties hp)]
  have hname : ∀ n ∈ steps.filterMap ConstructorStep.taken?, ∃ p ∈ t.stored, p.name = n :=
    fun n hn => mem_map.mp (htaken ▸ hn)
  have hconstruct : Outcome BeanError.IsRefusal
      (t.construct [] ⟨putFields [] (t.copied.map fun p => (p.name, w p))⟩ steps)
      (∀ n, .check n ∈ steps → ∀ p, t.property? n = some p → p.Obeyed (v n))
      (· = (steps.filterMap ConstructorStep.taken?).map fun n => (n, v n)) := by
    refine @construct_outcome t steps _ v [] [] ?_ (fun n hn => ?_) (fun n hn => ?_)
      (fun n hn => hn) hchecks
    · rw [nil_append, htaken]
      exact ht.lawful.nodup_stored
    · obtain ⟨p, hp, rfl⟩ := hname n hn
      obtain ⟨x, hx, hxw⟩ := h.typed p (hcopied p hp) (hgood p (hcopied p hp))
      exact ⟨p, x, ht.lawful.property?_eq (mem_properties hp), ht.strict p hp, hx,
        hxw.trans (hv p hp).symm⟩
    · obtain ⟨p, hp, rfl⟩ := hname n hn
      rw [hv p hp]
      exact ht.lawful.lookup_supplied (hcopied p hp) []
  have hrebuilt : t.Rebuilt w
      ⟨.record t, (steps.filterMap ConstructorStep.taken?).map fun n => (n, v n)⟩ := by
    refine ⟨rfl, fun p hp => ?_, fun p hp hnot => ?_⟩
    · obtain ⟨hp, -⟩ := mem_copied.mp hp
      rw [← hv p hp]
      exact lookup_tabulate v (htaken ▸ mem_map_of_mem hp)
    · rw [(hstored p hp).1] at hnot
      cases hnot
  refine Outcome.congr (hconstruct.map fun fields hfields => hfields ▸ hrebuilt) ?_
  constructor
  · intro hobeyed p hp r hr
    have hp' := hobeyed p.name ((hstored p hp).2.2 (by simp [hr])) p
      (ht.lawful.property?_eq (mem_properties hp)) r hr
    rwa [hv p hp] at hp'
  · intro hall n hn p hp
    obtain hn | hn := mem_or_of_checksTaken hchecks hn
    · cases hn
    · obtain ⟨q, hq, rfl⟩ := hname n hn
      obtain rfl : q = p := Option.some.inj
        ((ht.lawful.property?_eq (mem_properties hq)).symm.trans hp)
      rw [hv q hq]
      exact hall q hq

/-- Values are kept as they come, and taken by the steps of a constructor. -/
lemma buffering_outcome {steps : List ConstructorStep} (hbuilding : t.building = .buffering steps) :
    Outcome BeanError.IsRefusal (t.rebuildFrom copy (.buffering t steps .empty))
      (∀ p ∈ t.copied, good p ∧ p.Obeyed (w p)) (t.Rebuilt w) := by
  have hfits := ht.building
  rw [hbuilding] at hfits
  have hcopied : ∀ p ∈ t.stored, p ∈ t.copied := fun p hp =>
    mem_copied.mpr ⟨hp, (hfits.1 p hp).1⟩
  have hset : ∀ p ∈ t.copied, good p → ∀ fields, Outcome BeanError.IsRefusal
      ((Builder.buffering t steps ⟨fields⟩).setMeta p.description (w p)) True
      (· = .buffering t steps ⟨putField p.name (w p) fields⟩) := by
    intro p hp _ fields
    obtain ⟨hp, hcopied⟩ := mem_copied.mp hp
    have hbuildable := (Bool.and_eq_true_iff.mp hcopied).1
    have hset : (Builder.buffering t steps ⟨fields⟩).setMeta p.description (w p) =
        .ok (.buffering t steps ⟨putField p.name (w p) fields⟩) := by
      have hname : p.description.name = p.name := rfl
      simp only [Builder.setMeta, Builder.set, metaProperty, hname,
        ht.lawful.find?_table (mem_properties hp), hbuildable, bind, Except.bind]
      rfl
    rw [hset]
    exact .ok rfl
  have hfeed := Cloner.feedBuilder_outcome (fun fields => .buffering t steps ⟨fields⟩) putField
    RecordProperty.description t.copied [] h.outcome hset
  exact rebuildFrom_outcome hcopied hfeed (build_buffering_outcome ht h hbuilding)

/-- **When a bean of a record type can be built again**, and what it holds then. -/
theorem rebuild_outcome (hbuildable : t.isBuildable = true) :
    Outcome BeanError.IsRefusal (t.builder >>= t.rebuildFrom copy)
      (∀ p ∈ t.copied, good p ∧ p.Obeyed (w p)) (t.Rebuilt w) := by
  rw [builder]
  cases hbuilding : t.building with
  | impossible => simp [isBuildable, hbuilding] at hbuildable
  | editing => exact editing_outcome ht h hbuilding
  | collecting => exact collecting_outcome ht h hbuilding _
  | buffering steps => exact buffering_outcome ht h hbuilding

end

end RecordType

namespace Cloner

/-- A bean of a record type is built again from the copies of its values. -/
lemma rebuild_record_eq {t : RecordType} (ht : t.Rebuildable) (hbuildable : t.isBuildable = true)
    {fields : List (String × Value)} {copies : List (String × Except BeanError Value)}
    {copy : RecordProperty → Except BeanError Value}
    (hcopies : ∀ p ∈ t.copied, copies.lookup p.name = some (copy p)) :
    rebuild (.record t) fields copies = t.builder >>= t.rebuildFrom copy := by
  have hkind : (BeanKind.record t).metaBean.isBuildable = true := hbuildable
  rw [rebuild]
  dsimp only
  rw [if_neg (by simp [hkind]), RecordType.copiedParts_record ht hcopies]
  rfl

/-! ## Beans with any properties -/

section

variable {fields : List (String × Value)} {copy : String × Value → Except BeanError Value}
  {w : String × Value → Value} {good : String × Value → Prop}

/-- All fields of a bean with any properties take part in copying. -/
lemma copiedParts_entries {kind : BeanKind} {describe : String → MetaProperty}
    (htable : (kind.table (fields.map Prod.fst)).properties = (fields.map Prod.fst).map describe)
    (hdescribe : ∀ n, (describe n).name = n ∧ isCopied (describe n) = true)
    (hnames : (fields.map Prod.fst).Nodup) :
    copiedParts kind (fields.map Prod.fst) (fields.map fun f => .shown f.1 (copy f)) =
      fields.map fun f => (describe f.1, copy f) := by
  refine copiedParts_eq ?_ fun f hf => ?_
  · rw [htable, filter_eq_self.mpr (forall_mem_map.mpr fun n _ => (hdescribe n).2), map_map]
    rfl
  · have hslots : ((fields.map fun f => Slot.shown f.1 (copy f)).map Slot.name).Nodup := by
      rw [map_map]
      exact hnames
    rw [(hdescribe f.1).1]
    exact find?_name_of_nodup hslots
      (mem_map_of_mem (f := fun f => Slot.shown f.1 (copy f)) hf)

/-- A bean that grows takes the copies that can be made, one by one; `put` is what adding one does to
the fields. -/
lemma feedBuilder_growing {start : BeanKind} {describe : String → MetaProperty}
    (put : String → Value → List (String × Value) → List (String × Value))
    (hdescribe : ∀ n, (describe n).name = n)
    (hset : ∀ name v fields, (Builder.growing ⟨start, fields⟩).set name v =
      .ok (.growing ⟨start, put name v fields⟩)) (acc : List (String × Value)) :
    feedBuilder (.growing ⟨start, acc⟩) (fields.map fun f => (describe f.1, copy f)) =
      (fields.mapM fun f => (copy f).map (Prod.mk f.1)).map fun fs =>
        .growing ⟨start, fs.foldl (fun acc f => put f.1 f.2 acc) acc⟩ := by
  induction fields generalizing acc with
  | nil => rfl
  | cons f fields ih =>
    rw [map_cons, feedBuilder, mapM_cons]
    cases copy f with
    | error e => rfl
    | ok v =>
      rw [ok_bind, Builder.setMeta, hdescribe, hset, ok_bind, ih]
      cases fields.mapM fun f => (copy f).map (Prod.mk f.1) <;> rfl

/-- A bean with any properties is built again by adding the copies one by one, if all can be made. -/
lemma rebuild_entries_eq {kind start : BeanKind} {describe : String → MetaProperty}
    (put : String → Value → List (String × Value) → List (String × Value))
    (htable : (kind.table (fields.map Prod.fst)).properties = (fields.map Prod.fst).map describe)
    (hdescribe : ∀ n, (describe n).name = n ∧ isCopied (describe n) = true)
    (hnames : (fields.map Prod.fst).Nodup) (hbuildable : kind.metaBean.isBuildable = true)
    (hslots : (kind.slots fields (fields.map fun f => (f.1, copy f)) fun s => .ok (.scalar s)) =
      (fields.map fun f => (f.1, copy f)).map fun f => .shown f.1 f.2)
    (hbuilder : kind.metaBean.builder = .ok (.growing ⟨start, []⟩))
    (hset : ∀ name v fields, (Builder.growing ⟨start, fields⟩).set name v =
      .ok (.growing ⟨start, put name v fields⟩))
    (hput : ∀ fs : List (String × Value), fs.map Prod.fst = fields.map Prod.fst →
      fs.foldl (fun acc f => put f.1 f.2 acc) [] = fs) :
    rebuild kind fields (fields.map fun f => (f.1, copy f)) =
      (fields.mapM fun f => (copy f).map (Prod.mk f.1)).map (BeanOf.mk start) := by
  rw [rebuild]
  dsimp only
  rw [if_neg (by simp [hbuildable]), hbuilder, hslots, map_map]
  change feedBuilder _ (copiedParts kind _ (fields.map fun f => .shown f.1 (copy f))) >>= _ = _
  rw [copiedParts_entries htable hdescribe hnames,
    feedBuilder_growing put (fun n => (hdescribe n).1) hset]
  cases hcopies : fields.mapM fun f => (copy f).map (Prod.mk f.1) with
  | error e => rfl
  | ok fs =>
    refine congrArg (fun fs => Except.ok (BeanOf.mk start fs)) (hput fs ?_)
    refine (Order.map_eq_of_forall₂ ((mapM_eq_ok_iff.mp hcopies).imp fun f g hfg => ?_)).symm
    obtain ⟨v, -, rfl⟩ := map_eq_ok_iff.mp hfg
    rfl

/-- **A bean with any properties is built again from the copies of its values**, if all can be made.
The declared types are lost. -/
theorem rebuild_flexible_eq (types : List (String × ResolvedType))
    (hnames : (fields.map Prod.fst).Nodup) :
    rebuild (.flexible types) fields (fields.map fun f => (f.1, copy f)) =
      (fields.mapM fun f => (copy f).map (Prod.mk f.1)).map (BeanOf.mk (.flexible [])) := by
  have htable := congrArg PropertyMap.properties (BeanKind.table_flexible types hnames)
  refine rebuild_entries_eq putField htable (fun n => ⟨rfl, rfl⟩) hnames rfl rfl rfl
    (fun name v fields => rfl) fun fs hfs => ?_
  exact putFields_of_nodup (by rwa [nil_append, hfs])

/-- The same if the properties are in the order of their names. -/
theorem rebuild_sorted_eq (hnames : (fields.map Prod.fst).Pairwise (· < ·)) :
    rebuild .sorted fields (fields.map fun f => (f.1, copy f)) =
      (fields.mapM fun f => (copy f).map (Prod.mk f.1)).map (BeanOf.mk .sorted) := by
  have htable := congrArg PropertyMap.properties (BeanKind.table_sorted hnames.nodup)
  refine rebuild_entries_eq putSorted htable (fun n => ⟨rfl, rfl⟩) hnames.nodup rfl rfl rfl
    (fun name v fields => rfl) fun fs hfs => ?_
  exact putSorteds_of_pairwise (by rwa [nil_append, hfs])

variable (hcopy : ∀ f ∈ fields, Outcome BeanError.IsRefusal (copy f) (good f) (· = w f))

include hcopy

/-- The copies of all fields can be made if each can. -/
lemma mapM_copy_outcome :
    Outcome BeanError.IsRefusal (fields.mapM fun f => (copy f).map (Prod.mk f.1))
      (∀ f ∈ fields, good f) (· = fields.map fun f => (f.1, w f)) := by
  have hfields : ∀ f ∈ fields, Outcome BeanError.IsRefusal ((copy f).map (Prod.mk f.1)) (good f)
      (· = (f.1, w f)) := fun f hf => (hcopy f hf).map fun v hv => by rw [hv]
  refine (Outcome.mapM hfields).mono fun _ fs hfs => ?_
  rw [← map_id fs]
  exact (Order.map_eq_of_forall₂ (hfs.imp fun f g hfg => hfg.symm)).symm

/-- **When a bean with any properties can be built again**: if each value can be copied. -/
theorem rebuild_flexible_outcome (types : List (String × ResolvedType))
    (hnames : (fields.map Prod.fst).Nodup) :
    Outcome BeanError.IsRefusal
      (rebuild (.flexible types) fields (fields.map fun f => (f.1, copy f)))
      (∀ f ∈ fields, good f) (· = ⟨.flexible [], fields.map fun f => (f.1, w f)⟩) := by
  rw [rebuild_flexible_eq types hnames]
  exact (mapM_copy_outcome hcopy).map fun fs hfs => congrArg _ hfs

/-- The same if the properties are in the order of their names. -/
theorem rebuild_sorted_outcome (hnames : (fields.map Prod.fst).Pairwise (· < ·)) :
    Outcome BeanError.IsRefusal (rebuild .sorted fields (fields.map fun f => (f.1, copy f)))
      (∀ f ∈ fields, good f) (· = ⟨.sorted, fields.map fun f => (f.1, w f)⟩) := by
  rw [rebuild_sorted_eq hnames]
  exact (mapM_copy_outcome hcopy).map fun fs hfs => congrArg _ hfs

end

end Cloner

end Beans

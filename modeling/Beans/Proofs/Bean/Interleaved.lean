import Mathlib.Tactic.Common
import Beans.Proofs.Bean.Copied
import Beans.Proofs.Bean.Lens

/-!
# Interleaved calls of builders

Values are supplied to a builder in some order, under names or aliases, and some of them are refused.
What the builder holds for a property depends on the values that were supplied for it, in their order,
and on nothing that was supplied for other properties. So calls for different properties may come in
any order.

## Main definitions

* `Beans.BeanKind.canonical?` — the name of the property that a name or an alias stands for.
* `Beans.BeanKind.offered` — the values that are offered for one property.
* `Beans.Builder.offerAll` — a builder after values are supplied, where those that it refuses are left
  out.
* `Beans.Builder.keeps?` — what a builder keeps of a value.

## Main results

* `Beans.Builder.Orderly.attempt` — what is held after one call.
* `Beans.Builder.Orderly.attemptAll` — for each property, what was kept last, or what was held before.
* `Beans.Builder.Orderly.answers_eq` — builders that hold the same for each name answer alike and build
  the same.
* `Beans.Builder.Orderly.offerAll_congr` — calls that offer the same values for each property.
* `Beans.Sample.offers_commute` — calls of the builders of all samples.
-/

set_option autoImplicit false

open List

namespace Beans

/-! ## Calls -/

/-- The name of the property that a name or an alias stands for. -/
def BeanKind.canonical? (kind : BeanKind) (name : String) : Option String :=
  match kind with
  | .record t => (t.table.find? name).map MetaProperty.name
  | .flexible _ | .sorted => some name

/-- The values that some calls offer for one property, in order. -/
def BeanKind.offered (kind : BeanKind) (n : String) (calls : List (String × Value)) : List Value :=
  calls.filterMap fun c => if kind.canonical? c.1 = some n then some c.2 else none

namespace Builder

/-- The builder after values are supplied in place one by one; errors are ignored. -/
def offerAll (b : Builder) (calls : List (String × Value)) : Builder :=
  calls.foldl (fun b c => ((supply c.1 c.2).answer b).2) b

/-- Supplying in place comes out as an attempt. -/
lemma offerAll_eq (b : Builder) (calls : List (String × Value)) :
    b.offerAll calls = b.attemptAll calls := by
  have hstep (b : Builder) (c : String × Value) :
      ((supply c.1 c.2).answer b).2 = b.attempt c.1 c.2 := by
    rw [Change.answer, b.run_supply, attempt]
    cases b.set c.1 c.2 <;> rfl
  simp only [offerAll, attemptAll, hstep]

/-! ## What builders hold -/

/-- The values by name that are held so far. -/
def held : Builder → List (String × Value)
  | editing b | growing b => b.fields
  | collecting _ values => values
  | buffering _ _ args => args.values

/-- The builder with other values. -/
def withHeld : Builder → List (String × Value) → Builder
  | editing b, fields => editing ⟨b.kind, fields⟩
  | growing b, fields => growing ⟨b.kind, fields⟩
  | collecting t _, fields => collecting t fields
  | buffering t steps _, fields => buffering t steps ⟨fields⟩

/-- What is kept of a value that is offered for a property. -/
def keeps? (b : Builder) (n : String) (v : Value) : Option Value :=
  match b with
  | editing b => match b.kind with
    | .record t => (t.property? n).bind fun p =>
        if p.description.settable then (p.accept v).toOption else none
    | .flexible _ | .sorted => none
  | growing _ => some v
  | collecting t _ => (t.property? n).bind fun p => (p.type.convert v).toOption
  | buffering t _ _ => (t.property? n).bind fun p =>
      if p.description.style.isBuildable then some v else none

section

variable (b : Builder) (fields fields' : List (String × Value))

@[simp]
lemma held_withHeld : (b.withHeld fields).held = fields := by cases b <;> rfl

@[simp]
lemma kind_withHeld : (b.withHeld fields).kind = b.kind := by cases b <;> rfl

@[simp]
lemma keeps?_withHeld : (b.withHeld fields).keeps? = b.keeps? := by cases b <;> rfl

@[simp]
lemma withHeld_withHeld : (b.withHeld fields).withHeld fields' = b.withHeld fields' := by
  cases b <;> rfl

@[simp]
lemma withHeld_held : b.withHeld b.held = b := by cases b <;> rfl

end

/-- Builders as they come to be: the fields of a bean that is changed are those of its type, and those
of a bean that grows are in the order of their names. -/
def Orderly : Builder → Prop
  | editing b => ∃ t, b.kind = .record t ∧ t.Storing ∧
      b.fields.map Prod.fst = t.stored.map RecordProperty.name
  | growing b => b.kind = .sorted ∧ (b.fields.map Prod.fst).Pairwise (· < ·)
  | collecting t _ | buffering t _ _ => t.Storing

end Builder

/-! ## One call -/

namespace Builder

/-- Where a value goes in the values that are held. -/
def place (b : Builder) (n : String) (w : Value) : List (String × Value) :=
  match b with
  | growing _ => putSorted n w b.held
  | editing _ | collecting .. | buffering .. => putField n w b.held

/-- A value that is placed is found, and the others are left alone. -/
lemma lookup_place (b : Builder) (n m : String) (w : Value) :
    (b.place n w).lookup m = if m = n then some w else b.held.lookup m := by
  cases b with
  | growing b => exact lookup_putSorted n m w b.fields
  | editing b => exact lookup_putField_eq n m w b.fields
  | collecting t values => exact lookup_putField_eq n m w values
  | buffering t steps args => exact lookup_putField_eq n m w args.values

variable {b : Builder} {name n : String} {v w : Value}

/-- What is found in the table of a type under a name is the property of the canonical name. -/
lemma exists_of_canonical? {t : RecordType} (ht : t.Lawful)
    (h : BeanKind.canonical? (.record t) name = some n) :
    ∃ p ∈ t.properties, p.name = n ∧ t.table.find? name = some p.description ∧
      t.property? n = some p := by
  obtain ⟨d, hd, rfl⟩ := Option.map_eq_some_iff.mp h
  obtain ⟨p, hp, rfl⟩ := mem_map.mp (PropertyMap.mem_of_find? hd)
  exact ⟨p, hp, rfl, hd, ht.property?_eq hp⟩

/-- A name that stands for nothing is refused. -/
lemma attempt_of_canonical?_eq_none (hb : b.Orderly) (h : b.kind.canonical? name = none) :
    b.attempt name v = b := by
  cases b with
  | editing b =>
    obtain ⟨kind, fields⟩ := b
    obtain ⟨t, hkind, -, -⟩ := hb
    obtain rfl : kind = .record t := hkind
    have hfound : t.table.find? name = none := Option.map_eq_none_iff.mp h
    rw [attempt, set, Bean.set, metaProperty_record rfl, hfound]
    rfl
  | growing b =>
    obtain ⟨kind, fields⟩ := b
    obtain ⟨hkind, -⟩ := hb
    obtain rfl : kind = .sorted := hkind
    cases h
  | collecting t values =>
    have hfound : t.table.find? name = none := Option.map_eq_none_iff.mp h
    rw [attempt, set, RecordType.metaProperty, hfound]
    rfl
  | buffering t steps args =>
    have hfound : t.table.find? name = none := Option.map_eq_none_iff.mp h
    rw [attempt, set, RecordType.metaProperty, hfound]
    rfl

/-- **One call**: a value that is kept is placed under the canonical name, and nothing else changes.

**Proof sketch.** By the kind of builder. Each one looks the property up, converts the value for it,
and stores it under the name that the property itself has. -/
theorem attempt_of_canonical? (hb : b.Orderly) (h : b.kind.canonical? name = some n) :
    b.attempt name v = match b.keeps? n v with
      | some w => b.withHeld (b.place n w)
      | none => b := by
  cases b with
  | editing b =>
    obtain ⟨kind, fields⟩ := b
    obtain ⟨t, hkind, ht, hnames⟩ := hb
    obtain rfl : kind = .record t := hkind
    obtain ⟨p, hp, rfl, hfound, hproperty⟩ := exists_of_canonical? ht.lawful h
    have hset := @set_record_found t p fields name v ht.lawful hp hfound
    have hkeeps : (editing ⟨.record t, fields⟩).keeps? p.name v = t.taken? p (name, v) := by
      have hown : (p.description.name == p.name) = true := beq_self_eq_true _
      simp only [keeps?, hproperty, Option.bind_some, RecordType.taken?, hfound, Option.any_some, hown,
        Bool.true_and]
    rw [hkeeps, attempt, set]
    cases htaken : t.taken? p (name, v) with
    | none =>
      rw [htaken] at hset
      obtain ⟨e, he⟩ := hset
      rw [he]
      rfl
    | some w =>
      rw [htaken] at hset
      dsimp only at hset
      rw [hset]
      rfl
  | growing b =>
    obtain ⟨kind, fields⟩ := b
    obtain ⟨hkind, -⟩ := hb
    obtain rfl : kind = .sorted := hkind
    obtain rfl := Option.some.inj h
    rfl
  | collecting t values =>
    obtain ⟨p, hp, rfl, hfound, hproperty⟩ := exists_of_canonical? hb.lawful h
    have hmeta : t.metaProperty name = .ok p.description := by rw [RecordType.metaProperty, hfound]
    have hname : t.property? p.description.name = some p := hproperty
    rw [keeps?, hproperty, Option.bind_some, attempt, set, hmeta, ok_bind]
    dsimp only
    rw [hname]
    dsimp only
    cases p.type.convert v <;> rfl
  | buffering t steps args =>
    obtain ⟨p, hp, rfl, hfound, hproperty⟩ := exists_of_canonical? hb.lawful h
    have hmeta : t.metaProperty name = .ok p.description := by rw [RecordType.metaProperty, hfound]
    rw [keeps?, hproperty, Option.bind_some, attempt, set, hmeta, ok_bind]
    cases p.description.style.isBuildable <;> rfl

/-- What is kept can be placed without bringing the builder out of order. -/
lemma Orderly.withHeld_place (hb : b.Orderly) (hkept : b.keeps? n v = some w) :
    (b.withHeld (b.place n w)).Orderly := by
  cases b with
  | editing b =>
    obtain ⟨kind, fields⟩ := b
    obtain ⟨t, hkind, ht, hnames⟩ := hb
    obtain rfl : kind = .record t := hkind
    refine ⟨t, rfl, ht, ?_⟩
    -- a property that can be written has a field already
    have hmem : n ∈ fields.map Prod.fst := by
      obtain ⟨p, hp, htaken⟩ := Option.bind_eq_some_iff.mp hkept
      obtain ⟨hproperty, rfl⟩ := RecordType.of_property? hp
      split at htaken
      case isTrue hsettable =>
        rw [hnames]
        exact mem_map_of_mem (mem_filter.mpr ⟨hproperty, ht.isStored p hproperty hsettable⟩)
      case isFalse => cases htaken
    exact (names_putField w hmem).trans hnames
  | growing b =>
    obtain ⟨kind, fields⟩ := b
    obtain ⟨hkind, hnames⟩ := hb
    exact ⟨hkind, pairwise_putSorted n w hnames⟩
  | collecting t values => exact hb
  | buffering t steps args => exact hb

/-- **What is held after one call** for each name: what was kept, or what was held before. -/
theorem Orderly.attempt (hb : b.Orderly) (name : String) (v : Value) :
    ∃ fields, b.attempt name v = b.withHeld fields ∧ (b.withHeld fields).Orderly ∧
      ∀ m, fields.lookup m =
        (if b.kind.canonical? name = some m then b.keeps? m v else none).or (b.held.lookup m) := by
  by_cases hkept : ∃ n w, b.kind.canonical? name = some n ∧ b.keeps? n v = some w
  · obtain ⟨n, w, hname, hkept⟩ := hkept
    refine ⟨b.place n w, ?_, hb.withHeld_place hkept, fun m => ?_⟩
    · rw [attempt_of_canonical? hb hname, hkept]
    · rw [lookup_place, hname]
      by_cases hm : m = n
      · rw [if_pos hm, hm, if_pos rfl, hkept, Option.some_or]
      · rw [if_neg hm, if_neg fun heq => hm (Option.some.inj heq).symm, Option.none_or]
  · have hattempt : b.attempt name v = b := by
      cases hname : b.kind.canonical? name with
      | none => exact attempt_of_canonical?_eq_none hb hname
      | some n =>
        rw [attempt_of_canonical? hb hname]
        cases hkeeps : b.keeps? n v with
        | none => rfl
        | some w => exact absurd ⟨n, w, hname, hkeeps⟩ hkept
    refine ⟨b.held, hattempt.trans b.withHeld_held.symm, b.withHeld_held.symm ▸ hb, fun m => ?_⟩
    have hnone : (if b.kind.canonical? name = some m then b.keeps? m v else none) = none := by
      split
      case isTrue hname =>
        rw [Option.eq_none_iff_forall_ne_some]
        exact fun w hkeeps => hkept ⟨m, w, hname, hkeeps⟩
      case isFalse => rfl
    rw [hnone, Option.none_or]

/-- **What is held after several calls** for each name: what was kept last of the values that were
offered for it, or what was held before. -/
theorem Orderly.attemptAll (hb : b.Orderly) (calls : List (String × Value)) :
    ∃ fields, b.attemptAll calls = b.withHeld fields ∧ (b.withHeld fields).Orderly ∧
      ∀ m, fields.lookup m =
        ((b.kind.offered m calls).filterMap (b.keeps? m)).getLast?.or (b.held.lookup m) := by
  induction calls generalizing b with
  | nil => exact ⟨b.held, b.withHeld_held.symm, b.withHeld_held.symm ▸ hb, fun m => rfl⟩
  | cons c calls ih =>
    obtain ⟨first, hfirst, horderly, hfirsts⟩ := hb.attempt c.1 c.2
    obtain ⟨last, hlast, horderly, hlasts⟩ := ih horderly
    rw [withHeld_withHeld] at hlast horderly
    refine ⟨last, ?_, horderly, fun m => ?_⟩
    · rw [← hlast, ← hfirst]
      rfl
    · rw [hlasts m, held_withHeld, kind_withHeld, keeps?_withHeld, hfirsts m, BeanKind.offered,
        BeanKind.offered, filterMap_cons]
      by_cases hname : b.kind.canonical? c.1 = some m
      · rw [if_pos hname, if_pos hname, filterMap_cons]
        cases b.keeps? m c.2 with
        | none => rw [Option.none_or]
        | some w =>
          rw [getLast?_cons]
          generalize getLast? (filterMap _ _) = later
          cases later <;> rfl
      · rw [if_neg hname, if_neg hname, Option.none_or]

/-! ## Answers -/

/-- Rules look at values by name. -/
lemma checkRules_congr {values values' : List (String × Value)}
    (h : ∀ n, values'.lookup n = values.lookup n) (ps : List RecordProperty) :
    RecordType.checkRules values' ps = RecordType.checkRules values ps := by
  induction ps with
  | nil => rfl
  | cons p ps ih => rw [RecordType.checkRules, RecordType.checkRules, ih, h]

/-- A bean is made of the values that are found by name. -/
lemma collect_congr (t : RecordType) {values values' : List (String × Value)}
    (h : ∀ n, values'.lookup n = values.lookup n) : t.collect values' = t.collect values := by
  simp only [RecordType.collect, h, checkRules_congr h]

/-- What is left of arguments after one is taken. -/
lemma get?_erase (args : Arguments) (n m : String) :
    (args.erase n).get? m = if m = n then none else args.get? m := by
  rw [Arguments.erase, Arguments.get?, Arguments.get?]
  by_cases hm : m = n
  · rw [if_pos hm, hm]
    refine lookup_eq_none_iff.mpr fun f hf => ?_
    obtain ⟨-, hne⟩ := mem_filter.mp hf
    exact bne_iff_ne.mpr (bne_iff_ne.mp hne).symm
  · rw [if_neg hm, lookup_eraseField_of_ne hm]

/-- Taking an argument depends on what is found by names. -/
lemma take_congr {args args' : Arguments} (h : ∀ n, args'.get? n = args.get? n) (T : ValueType)
    (n : String) : (args'.take T n).1 = (args.take T n).1 ∧
      ∀ m, (args'.take T n).2.get? m = (args.take T n).2.get? m := by
  rw [Arguments.take, Arguments.take, h n]
  cases args.get? n with
  | none => exact ⟨rfl, h⟩
  | some v =>
    refine ⟨rfl, fun m => ?_⟩
    rw [get?_erase, get?_erase, h m]

/-- The same with a default. -/
lemma takeOrDefault_congr {args args' : Arguments} (h : ∀ n, args'.get? n = args.get? n)
    (T : ValueType) (n : String) : (args'.takeOrDefault T n).1 = (args.takeOrDefault T n).1 ∧
      ∀ m, (args'.takeOrDefault T n).2.get? m = (args.takeOrDefault T n).2.get? m := by
  have htake := take_congr h T n
  rw [Arguments.takeOrDefault, Arguments.takeOrDefault, h n]
  cases args.get? n with
  | none =>
    cases T.default? with
    | none => exact htake
    | some d => exact ⟨rfl, h⟩
  | some v =>
    refine ⟨rfl, fun m => ?_⟩
    dsimp only
    rw [get?_erase, get?_erase, h m]

/-- **A constructor makes the same of arguments that are found alike.** -/
lemma construct_congr (t : RecordType) {args args' : Arguments} {fields : List (String × Value)}
    {steps : List ConstructorStep} (h : ∀ n, args'.get? n = args.get? n) :
    t.construct fields args' steps = t.construct fields args steps := by
  induction steps generalizing fields args args' with
  | nil => rfl
  | cons step steps ih =>
    cases step with
    | take name =>
      rw [RecordType.construct, RecordType.construct]
      refine bind_congr fun p => ?_
      obtain ⟨hvalue, hrest⟩ := take_congr h p.type name
      dsimp only
      rw [hvalue]
      exact bind_congr fun v => ih hrest
    | takeOrDefault name =>
      rw [RecordType.construct, RecordType.construct]
      refine bind_congr fun p => ?_
      obtain ⟨hvalue, hrest⟩ := takeOrDefault_congr h p.type name
      dsimp only
      rw [hvalue]
      exact bind_congr fun v => ih hrest
    | check name => simp only [RecordType.construct, ih h]

/-- **Builders that hold the same for each name answer alike, and build the same bean** or fail with the
same error. -/
theorem Orderly.answers_eq {b : Builder} {fields fields' : List (String × Value)}
    (hb : (b.withHeld fields).Orderly) (hb' : (b.withHeld fields').Orderly)
    (h : ∀ n, fields'.lookup n = fields.lookup n) :
    (∀ name, (b.withHeld fields').get name = (b.withHeld fields).get name) ∧
      (b.withHeld fields').build = (b.withHeld fields).build := by
  cases b with
  | editing b =>
    obtain ⟨t, hkind, ht, hnames⟩ := hb
    obtain ⟨t', hkind', -, hnames'⟩ := hb'
    obtain rfl : t = t' := BeanKind.record.inj (hkind.symm.trans hkind')
    have hnodup : (fields.map Prod.fst).Nodup := hnames ▸ ht.lawful.nodup_stored
    obtain rfl := eq_of_lookup_eq hnodup (hnames'.trans hnames.symm) h
    exact ⟨fun _ => rfl, rfl⟩
  | growing b =>
    obtain rfl := eq_of_lookup_eq_of_pairwise hb.2 hb'.2 h
    exact ⟨fun _ => rfl, rfl⟩
  | collecting t values =>
    refine ⟨fun name => ?_, collect_congr t h⟩
    simp only [withHeld, get, h]
  | buffering t steps args =>
    refine ⟨fun name => ?_, ?_⟩
    · simp only [withHeld, get, Arguments.get?, h]
    · simp only [withHeld, build]
      rw [construct_congr t h]

/-- **Calls for different properties may come in any order.** Calls that offer the same values for each
property, whatever their order is otherwise, lead to builders that answer alike and build the same. -/
theorem Orderly.offerAll_congr {b : Builder} (hb : b.Orderly) {calls calls' : List (String × Value)}
    (h : ∀ n, b.kind.offered n calls' = b.kind.offered n calls) :
    (∀ name, (b.offerAll calls').get name = (b.offerAll calls).get name) ∧
      (b.offerAll calls').build = (b.offerAll calls).build := by
  obtain ⟨fields, hdone, horderly, hfields⟩ := hb.attemptAll calls
  obtain ⟨fields', hdone', horderly', hfields'⟩ := hb.attemptAll calls'
  rw [offerAll_eq, offerAll_eq, hdone, hdone']
  refine horderly.answers_eq horderly' fun n => ?_
  rw [hfields', hfields, h n]

end Builder

/-! ## Sample types -/

namespace Sample

/-- The kinds of beans that samples are of: record types, where pairs have items of any type, and the
beans with any properties in the order of their names. -/
def IsSample (kind : BeanKind) : Prop :=
  kind = .sorted ∨ ∃ t, kind = .record t ∧
    ((∃ entry ∈ recordTypes, entry.2 = t) ∨ ∃ argument item, t = pair argument item)

/-- Their builders are orderly from the start. -/
lemma orderly_builder {kind : BeanKind} (hkind : IsSample kind)
    (hbuildable : kind.metaBean.isBuildable = true) :
    ∃ b, kind.metaBean.builder = .ok b ∧ b.kind = kind ∧ b.Orderly := by
  rcases hkind with rfl | ⟨t, rfl, ht⟩
  · exact ⟨.growing .sorted, rfl, rfl, rfl, Pairwise.nil⟩
  · have hstoring : t.Storing := by
      rcases ht with ⟨entry, hentry, rfl⟩ | ⟨argument, item, rfl⟩
      · have hrebuildable := rebuildable entry hentry
        exact ⟨hrebuildable.lawful, fun p hp h => hrebuildable.isStored p hp (.inr h)⟩
      · exact (accessible_pair argument item).toStoring
    have hbuildable : t.isBuildable = true := hbuildable
    change ∃ b, t.builder = .ok b ∧ b.kind = .record t ∧ b.Orderly
    rw [RecordType.isBuildable] at hbuildable
    rw [RecordType.builder]
    cases hbuilding : t.building with
    | impossible =>
      rw [hbuilding] at hbuildable
      cases hbuildable
    | editing =>
      refine ⟨.editing t.default, rfl, rfl, t, rfl, hstoring, ?_⟩
      rw [RecordType.default, map_map]
      rfl
    | collecting => exact ⟨.collecting t t.initialValues, rfl, rfl, hstoring⟩
    | buffering steps => exact ⟨.buffering t steps .empty, rfl, rfl, hstoring⟩

/-- **Calls of builders on different properties commute.** For all these kinds that can be built, two
sequences of calls, by names or aliases and with errors ignored, that offer each property the same
values in the same order lead to builders that answer alike under every name, and build the same bean
or fail with the same error. -/
theorem offers_commute {kind : BeanKind} (hkind : IsSample kind)
    (hbuildable : kind.metaBean.isBuildable = true) {calls calls' : List (String × Value)}
    (h : ∀ n, kind.offered n calls' = kind.offered n calls) :
    ∃ start, kind.metaBean.builder = .ok start ∧
      (∀ name, (start.offerAll calls').get name = (start.offerAll calls).get name) ∧
      (start.offerAll calls').build = (start.offerAll calls).build := by
  obtain ⟨b, hstart, rfl, horderly⟩ := orderly_builder hkind hbuildable
  exact ⟨b, hstart, horderly.offerAll_congr h⟩

/-- A dog that is given a breed between two names, one of them under an alias, or after both. -/
theorem offers_commute_dog :
    let calls := [("label", Value.text "a"), ("breed", .text "b"), ("name", .text "c")]
    let calls' := [("name", Value.text "a"), ("label", .text "c"), ("breed", .text "b")]
    IsSample (.record dog) ∧ (BeanKind.record dog).metaBean.isBuildable = true ∧
      (∀ n, (BeanKind.record dog).offered n calls' = (BeanKind.record dog).offered n calls) ∧
      ∃ start, (BeanKind.record dog).metaBean.builder = .ok start ∧
        (∀ name, (start.offerAll calls').get name = (start.offerAll calls).get name) ∧
        (start.offerAll calls').build = (start.offerAll calls).build := by
  intro calls calls'
  have hsample : IsSample (.record dog) :=
    .inr ⟨dog, rfl, .inl ⟨("Dog", dog), by simp [recordTypes], rfl⟩⟩
  have hlabel : (BeanKind.record dog).canonical? "label" = some "name" := by decide
  have hname : (BeanKind.record dog).canonical? "name" = some "name" := by decide
  have hbreed : (BeanKind.record dog).canonical? "breed" = some "breed" := by decide
  have hoffered (n : String) :
      (BeanKind.record dog).offered n calls' = (BeanKind.record dog).offered n calls := by
    simp only [BeanKind.offered, calls, calls', filterMap_cons, filterMap_nil, hlabel, hname, hbreed]
    by_cases h : "name" = n
    · simp [← h]
    · simp [h]
  exact ⟨hsample, rfl, hoffered, offers_commute hsample rfl hoffered⟩

end Sample

end Beans

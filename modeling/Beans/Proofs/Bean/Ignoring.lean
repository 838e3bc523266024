import Mathlib.Data.List.Nodup
import Mathlib.Data.List.Perm.Subperm
import Mathlib.Tactic.Common
import Beans.Proofs.Bean.Equality

/-!
# Equality of beans but for some properties

If nothing is ignored, the properties of both beans are compared. If something is, only those of the
first bean are gone through, and each is read on both. For records that makes no difference, as the
beans of one type have the same properties. A bean with any properties may have others than a bean of
the same type, and reading a property that it does not have yields nothing rather than failing. So
the properties that only the second bean has are overlooked, and so are those of the first bean that
hold nothing and that the second bean does not have.

## Main definitions

* `Beans.Bean.remaining` — the properties of a bean that are not ignored.
* `Beans.Bean.SameBut` — equality of what is not ignored.
* `Beans.Bean.Overlooks` — the names of what is not ignored differ, and that is not noticed.

## Main results

* `Beans.Bean.propertiesSame_iff` — having the same properties, in terms of names and values.
* `Beans.Bean.sameIgnoring_iff` — when beans are held to be equal but for some properties.
-/

set_option autoImplicit false

open List

namespace Beans

/-! ## Having the same properties -/

/-- In a map whose properties have different names, a property is found by its name. -/
lemma PropertyMap.named?_eq_some_iff {m : PropertyMap} (hm : m.names.Nodup) {name : String}
    {p : MetaProperty} : m.named? name = some p ↔ p ∈ m.properties ∧ p.name = name := by
  constructor
  · intro h
    exact ⟨mem_of_find?_eq_some h, by simpa using find?_some h⟩
  · rintro ⟨hp, rfl⟩
    exact find?_name_of_nodup hm hp

namespace Bean

/-- Two properties of two beans have the same names and hold the same values, whatever their order
is. -/
structure SameAmong (a b : Bean) (ps qs : List MetaProperty) : Prop where
  names : ps.map MetaProperty.name ~ qs.map MetaProperty.name
  values : ∀ p ∈ ps, ∀ q ∈ qs, p.name = q.name → sameUnder p q a b = true

section

variable {a b : Bean} (ha : a.kind.Lawful (a.fields.map Prod.fst))
  (hb : b.kind.Lawful (b.fields.map Prod.fst))

include ha hb

/-- **Beans have the same properties** if their properties have the same names, and those of one name
are both meant to be read and yield equal values, or both not. -/
theorem propertiesSame_iff :
    a.propertiesSame b = true ↔ a.SameAmong b a.table.properties b.table.properties := by
  have hnodup : a.table.names.Nodup := nodup_names ha
  have hnodup' : b.table.names.Nodup := nodup_names hb
  rw [propertiesSame, Bool.and_eq_true, beq_iff_eq, all_eq_true]
  simp only [PropertyMap.find?_any_name, Option.any_eq_true, PropertyMap.named?_eq_some_iff hnodup']
  constructor
  · rintro ⟨hsize, hall⟩
    have hsubset : a.table.names ⊆ b.table.names := by
      refine forall_mem_map.mpr fun p hp => ?_
      obtain ⟨q, ⟨hq, hname⟩, -⟩ := hall p hp
      exact hname ▸ mem_map_of_mem hq
    have hlength : b.table.names.length ≤ a.table.names.length := by
      rw [PropertyMap.names, PropertyMap.names, length_map, length_map]
      exact hsize.ge
    refine ⟨(hnodup.subperm hsubset).perm_of_length_le hlength, fun p hp q hq hname => ?_⟩
    obtain ⟨q', ⟨hq', hname'⟩, hsame⟩ := hall p hp
    obtain rfl : q' = q := inj_on_of_nodup_map hnodup' hq' hq (hname'.trans hname)
    exact hsame
  · rintro ⟨hnames, hvalues⟩
    refine ⟨by simpa [PropertyMap.size] using hnames.length_eq, fun p hp => ?_⟩
    obtain ⟨q, hq, hname⟩ := mem_map.mp (hnames.subset (mem_map_of_mem hp))
    exact ⟨q, ⟨hq, hname⟩, hvalues p hp q hq hname.symm⟩

end

/-! ## What is not ignored -/

/-- The properties but for those that one of some descriptions means. -/
def remaining (b : Bean) (ignored : List MetaProperty) : List MetaProperty :=
  b.table.properties.filter fun p => !ignored.any p.same

/-- Beans are of one type, and the properties that are not ignored have the same names and hold the
same values. -/
structure SameBut (a b : Bean) (ignored : List MetaProperty) : Prop where
  type : a.type.same b.type = true
  among : a.SameAmong b (a.remaining ignored) (b.remaining ignored)

/-- What a bean with any properties holds under a name; nothing if it does not have the property. -/
def entry (b : Bean) (name : String) : Value := (b.fields.lookup name).getD .null

/-- Something is ignored, and beans of one type with any properties are not equal in what is not, as
the names differ; but all that the first bean has there the other one holds, too, where a property
that it does not have counts as one that holds nothing. -/
structure Overlooks (a b : Bean) (ignored : List MetaProperty) : Prop where
  ignores : ignored ≠ []
  type : a.type.same b.type = true
  dynamic : a.kind.isDynamic = true
  names : ¬(a.remaining ignored).map MetaProperty.name ~ (b.remaining ignored).map MetaProperty.name
  values : ∀ p ∈ a.remaining ignored, (a.entry p.name).same (b.entry p.name) = true

/-- Beans are described alike: both have the properties of one record type, or both any. -/
def Akin (a b : Bean) : Prop :=
  (∃ t, a.kind = .record t ∧ b.kind = .record t) ∨
    (a.kind.isDynamic = true ∧ b.kind.isDynamic = true)

/-- Descriptions that mean the same are none at all, or neither are. -/
lemma eq_nil_of_any_same {ignored ignored' : List MetaProperty}
    (h : ∀ p : MetaProperty, ignored.any p.same = ignored'.any p.same) (hnil : ignored = []) :
    ignored' = [] := by
  cases ignored' with
  | nil => rfl
  | cons p rest =>
    have hself : p.same p = true := by simp [MetaProperty.same, BeanType.same]
    have hany := h p
    rw [hnil, any_nil, any_cons, hself, Bool.true_or] at hany
    cases hany

/-! ## Records -/

/-- A property holds the same on two beans as it does, taken twice. -/
lemma sameUnder_self (p : MetaProperty) (a b : Bean) : sameUnder p p a b = readableSame p a b := by
  rw [sameUnder, readableSame, beq_self_eq_true, Bool.true_and]

/-- Records of one type are the same but for some properties if the others of them hold the same. -/
lemma sameAmong_record {t : RecordType} {a b : Bean} (ht : t.Lawful) (ha : a.kind = .record t)
    (hb : b.kind = .record t) (ignored : List MetaProperty) :
    a.SameAmong b (a.remaining ignored) (b.remaining ignored) ↔
      ∀ p ∈ a.remaining ignored, readableSame p a b = true := by
  have htable (c : Bean) (hc : c.kind = .record t) : c.table = t.table := by
    rw [table, hc]
    rfl
  have hremaining : b.remaining ignored = a.remaining ignored := by
    rw [remaining, remaining, htable a ha, htable b hb]
  have hlawful : a.kind.Lawful (a.fields.map Prod.fst) := by
    rw [ha]
    exact ht
  have hnodup : ((a.remaining ignored).map MetaProperty.name).Nodup :=
    (nodup_names hlawful).sublist (filter_sublist.map _)
  rw [hremaining]
  constructor
  · intro h p hp
    rw [← sameUnder_self]
    exact h.values p hp p hp rfl
  · intro h
    refine ⟨.rfl, fun p hp q hq hname => ?_⟩
    obtain rfl : p = q := inj_on_of_nodup_map hnodup hp hq hname
    rw [sameUnder_self]
    exact h p hp

/-! ## Beans with any properties -/

section

variable {a b : Bean} {p q : MetaProperty}

/-- The properties of a bean with any properties are declared by its type, and can be read. -/
lemma of_mem_table_dynamic (hb : b.kind.Lawful (b.fields.map Prod.fst))
    (hdynamic : b.kind.isDynamic = true) (hp : p ∈ b.table.properties) :
    p.declaring = b.type ∧ p.holder = b.type ∧ p.style.isReadable = true := by
  obtain ⟨kind, fields⟩ := b
  cases kind with
  | record t => cases hdynamic
  | flexible types =>
    rw [table, BeanKind.table_flexible types hb] at hp
    obtain ⟨n, -, rfl⟩ := mem_map.mp hp
    exact ⟨rfl, rfl, rfl⟩
  | sorted =>
    rw [table, BeanKind.table_sorted hb] at hp
    obtain ⟨n, -, rfl⟩ := mem_map.mp hp
    exact ⟨rfl, rfl, rfl⟩

/-- A property that applies to a bean with any properties yields what is held under its name. -/
lemma get_dynamic (hdynamic : b.kind.isDynamic = true) (hholder : b.type.same p.holder = true) :
    p.get b = .ok (b.entry p.name) := by
  rw [MetaProperty.get, MetaProperty.checkBean, if_pos hholder]
  obtain ⟨kind, fields⟩ := b
  cases kind with
  | record t => cases hdynamic
  | flexible types => rfl
  | sorted => rfl

variable (ha : a.kind.Lawful (a.fields.map Prod.fst)) (hb : b.kind.Lawful (b.fields.map Prod.fst))
  (hdynamic : a.kind.isDynamic = true) (hdynamic' : b.kind.isDynamic = true)

include ha hdynamic hdynamic'

/-- A property of a bean with any properties is compared by what is held under its name. -/
lemma readableSame_dynamic (htype : a.type.same b.type = true) (hp : p ∈ a.table.properties) :
    readableSame p a b = (a.entry p.name).same (b.entry p.name) := by
  obtain ⟨-, hholder, hreadable⟩ := of_mem_table_dynamic ha hdynamic hp
  have hholds : a.type.same p.holder = true := by
    rw [hholder]
    exact beq_self_eq_true _
  have hholds' : b.type.same p.holder = true := by
    rw [hholder, BeanType.same, beq_iff_eq]
    exact (beq_iff_eq.mp htype).symm
  rw [readableSame, hreadable, Bool.not_true, Bool.false_or, get_dynamic hdynamic hholds,
    get_dynamic hdynamic' hholds']

include hb

/-- Properties of one name of two beans with any properties are compared as either of them is. -/
lemma sameUnder_dynamic (hp : p ∈ a.table.properties) (hq : q ∈ b.table.properties)
    (hname : p.name = q.name) : sameUnder p q a b = (a.entry p.name).same (b.entry p.name) := by
  obtain ⟨-, hholder, hreadable⟩ := of_mem_table_dynamic ha hdynamic hp
  obtain ⟨-, hholder', hreadable'⟩ := of_mem_table_dynamic hb hdynamic' hq
  have hget : p.get a = .ok (a.entry p.name) := by
    refine get_dynamic hdynamic ?_
    rw [hholder]
    exact beq_self_eq_true _
  have hget' : q.get b = .ok (b.entry p.name) := by
    rw [hname]
    refine get_dynamic hdynamic' ?_
    rw [hholder']
    exact beq_self_eq_true _
  rw [sameUnder, hreadable, hreadable', hget, hget']
  rfl

/-- Beans with any properties are the same but for some properties if the names of the others are the
same, and what is held under them. -/
lemma sameAmong_dynamic (ignored : List MetaProperty) :
    a.SameAmong b (a.remaining ignored) (b.remaining ignored) ↔
      (a.remaining ignored).map MetaProperty.name ~ (b.remaining ignored).map MetaProperty.name ∧
        ∀ p ∈ a.remaining ignored, (a.entry p.name).same (b.entry p.name) = true := by
  have hsame {p q : MetaProperty} (hp : p ∈ a.remaining ignored) (hq : q ∈ b.remaining ignored)
      (hname : p.name = q.name) : sameUnder p q a b = (a.entry p.name).same (b.entry p.name) :=
    sameUnder_dynamic ha hb hdynamic hdynamic' (mem_of_mem_filter hp) (mem_of_mem_filter hq) hname
  constructor
  · intro h
    refine ⟨h.names, fun p hp => ?_⟩
    obtain ⟨q, hq, hname⟩ := mem_map.mp (h.names.subset (mem_map_of_mem hp))
    rw [← hsame hp hq hname.symm]
    exact h.values p hp q hq hname.symm
  · rintro ⟨hnames, hvalues⟩
    refine ⟨hnames, fun p hp q hq hname => ?_⟩
    rw [hsame hp hq hname]
    exact hvalues p hp

end

/-! ## Equality but for some properties -/

section

variable {a b : Bean} (ha : a.kind.Lawful (a.fields.map Prod.fst))
  (hb : b.kind.Lawful (b.fields.map Prod.fst)) (htype : a.type.same b.type = true)

include ha htype

/-- Nothing is overlooked in records. -/
lemma all_readableSame_record {t : RecordType} (hkind : a.kind = .record t)
    (hkind' : b.kind = .record t) (ignored : List MetaProperty) :
    (∀ p ∈ a.remaining ignored, readableSame p a b = true) ↔
      a.SameBut b ignored ∨ a.Overlooks b ignored := by
  have ht : t.Lawful := by
    rw [hkind] at ha
    exact ha
  rw [← sameAmong_record ht hkind hkind']
  constructor
  · exact fun h => .inl ⟨htype, h⟩
  · rintro (h | h)
    · exact h.among
    · have hdynamic := h.dynamic
      rw [hkind] at hdynamic
      cases hdynamic

include hb

/-- In beans with any properties names are overlooked. -/
lemma all_readableSame_dynamic (hdynamic : a.kind.isDynamic = true)
    (hdynamic' : b.kind.isDynamic = true) {ignored : List MetaProperty} (hignored : ignored ≠ []) :
    (∀ p ∈ a.remaining ignored, readableSame p a b = true) ↔
      a.SameBut b ignored ∨ a.Overlooks b ignored := by
  have hamong := sameAmong_dynamic ha hb hdynamic hdynamic' ignored
  have hvalues : (∀ p ∈ a.remaining ignored, readableSame p a b = true) ↔
      ∀ p ∈ a.remaining ignored, (a.entry p.name).same (b.entry p.name) = true := by
    refine forall₂_congr fun p hp => ?_
    rw [readableSame_dynamic ha hdynamic hdynamic' htype (mem_of_mem_filter hp)]
  rw [hvalues]
  constructor
  · intro h
    by_cases hnames : (a.remaining ignored).map MetaProperty.name ~
        (b.remaining ignored).map MetaProperty.name
    · exact .inl ⟨htype, hamong.mpr ⟨hnames, h⟩⟩
    · exact .inr ⟨hignored, htype, hdynamic, hnames, h⟩
  · rintro (h | h)
    · exact (hamong.mp h.among).2
    · exact h.values

end

/-- Beans are held to be equal but for some properties if they are, or if it is overlooked that the
names differ. -/
lemma sameIgnoring_iff_or {a b : Bean} (ha : a.kind.Lawful (a.fields.map Prod.fst))
    (hb : b.kind.Lawful (b.fields.map Prod.fst)) (hakin : a.type.same b.type = true → a.Akin b)
    (ignored : List MetaProperty) :
    a.sameIgnoring b ignored = true ↔ a.SameBut b ignored ∨ a.Overlooks b ignored := by
  by_cases htype : a.type.same b.type = true
  case neg =>
    refine iff_of_false (fun h => htype (Bool.and_eq_true_iff.mp h).1) ?_
    exact fun h => htype (h.elim SameBut.type Overlooks.type)
  unfold sameIgnoring
  rw [htype, Bool.true_and]
  cases ignored with
  | nil =>
    have hremaining (c : Bean) : c.remaining [] = c.table.properties :=
      filter_eq_self.mpr fun _ _ => rfl
    rw [propertiesSame_iff ha hb]
    constructor
    · exact fun h => .inl ⟨htype, by rwa [hremaining, hremaining]⟩
    · rintro (h | h)
      · have hamong := h.among
        rwa [hremaining, hremaining] at hamong
      · exact absurd rfl h.ignores
  | cons first rest =>
    change (a.remaining (first :: rest)).all (readableSame · a b) = true ↔ _
    rw [all_eq_true]
    obtain ⟨t, hkind, hkind'⟩ | ⟨hdynamic, hdynamic'⟩ := hakin htype
    · exact all_readableSame_record ha htype hkind hkind' _
    · exact all_readableSame_dynamic ha hb htype hdynamic hdynamic' (cons_ne_nil _ _)

/-- What is held to be equal but for some properties depends on what is meant by the descriptions
only. -/
lemma sameIgnoring_congr {ignored ignored' : List MetaProperty}
    (h : ∀ p : MetaProperty, ignored.any p.same = ignored'.any p.same) (a b : Bean) :
    a.sameIgnoring b ignored' = a.sameIgnoring b ignored := by
  have hnil : ignored = [] ↔ ignored' = [] :=
    ⟨eq_nil_of_any_same h, eq_nil_of_any_same fun p => (h p).symm⟩
  unfold sameIgnoring
  cases ignored with
  | nil => rw [hnil.mp rfl]
  | cons first rest =>
    cases ignored' with
    | nil => exact absurd (hnil.mpr rfl) (cons_ne_nil _ _)
    | cons first' rest' => simp only [h]

section

variable {heap : Identity → Grid Value} {a b : Bean} (ha : a.Sound heap) (hb : b.Sound heap)

include ha in
/-- What is read of a sound bean is sound. -/
lemma Sound.of_get {p : MetaProperty} {v : Value} (hp : p ∈ a.table.properties)
    (hreadable : p.style.isReadable = true) (hget : p.get a = .ok v) : v.Sound heap := by
  have hshown : .shown p.name v ∈ a.slots := by
    have hslot := mem_map_of_mem (f := a.slotOf) hp
    rwa [← slots_eq_map ha.lawful, slotOf, if_pos hreadable, hget] at hslot
  rcases shown_of_slots hshown with ⟨s, rfl⟩ | ⟨f, hf, rfl⟩
  · exact .scalar s
  · cases ha with | bean _ hfields => exact hfields f hf

include ha hb

/-- Properties hold the same the other way round. -/
lemma sameUnder_symm {p q : MetaProperty} (hp : p ∈ a.table.properties)
    (hq : q ∈ b.table.properties) (h : sameUnder p q a b = true) : sameUnder q p b a = true := by
  unfold sameUnder at h ⊢
  obtain ⟨hstyle, hvalue⟩ := Bool.and_eq_true_iff.mp h
  rw [← beq_iff_eq.mp hstyle, beq_self_eq_true, Bool.true_and]
  cases hreadable : p.style.isReadable with
  | false => rfl
  | true =>
    rw [hreadable, Bool.not_true, Bool.false_or] at hvalue
    rw [Bool.not_true, Bool.false_or]
    have hreadable' : q.style.isReadable = true := (beq_iff_eq.mp hstyle).symm.trans hreadable
    cases hget : p.get a with
    | error e =>
      rw [hget] at hvalue
      cases hvalue
    | ok x =>
      cases hget' : q.get b with
      | error e =>
        rw [hget, hget'] at hvalue
        cases hvalue
      | ok y =>
        rw [hget, hget'] at hvalue
        have hx : x.Sound heap := ha.of_get hp hreadable hget
        have hy : y.Sound heap := hb.of_get hq hreadable' hget'
        exact Observation.same_symm hx.observe hy.observe hvalue

/-- What is the same but for some properties is so the other way round. -/
lemma SameBut.symm {ignored : List MetaProperty} (h : a.SameBut b ignored) :
    b.SameBut a ignored := by
  refine ⟨?_, h.among.names.symm, fun q hq p hp hname => ?_⟩
  · rw [BeanType.same, beq_iff_eq]
    exact (beq_iff_eq.mp h.type).symm
  · exact sameUnder_symm ha hb (mem_of_mem_filter hp) (mem_of_mem_filter hq)
      (h.among.values p hp q hq hname.symm)

/-- **When beans are held to be equal but for some properties.** Either they are, that is, they are of
one type and what is not ignored has the same names and holds the same values; or something is
ignored and it is overlooked that the names differ. It depends on what is meant by the descriptions
only, and not on their order or how often they are given. Being equal is symmetric, so that the
answer is if nothing is overlooked. -/
theorem sameIgnoring_iff (hakin : a.type.same b.type = true → a.Akin b)
    (ignored : List MetaProperty) :
    (a.sameIgnoring b ignored = true ↔ a.SameBut b ignored ∨ a.Overlooks b ignored) ∧
    (∀ ignored' : List MetaProperty,
      (∀ p : MetaProperty, ignored.any p.same = ignored'.any p.same) →
        a.sameIgnoring b ignored' = a.sameIgnoring b ignored) ∧
    (a.SameBut b ignored ↔ b.SameBut a ignored) ∧
    (¬a.Overlooks b ignored → ¬b.Overlooks a ignored →
      a.sameIgnoring b ignored = b.sameIgnoring a ignored) := by
  have hiff := sameIgnoring_iff_or ha.lawful hb.lawful hakin ignored
  have hsymm : a.SameBut b ignored ↔ b.SameBut a ignored := ⟨.symm ha hb, .symm hb ha⟩
  refine ⟨hiff, fun ignored' h => sameIgnoring_congr h a b, hsymm, fun hnot hnot' => ?_⟩
  have hakin' (htype : b.type.same a.type = true) : b.Akin a := by
    refine (hakin ?_).imp (fun ⟨t, hkind, hkind'⟩ => ⟨t, hkind', hkind⟩) And.symm
    rw [BeanType.same, beq_iff_eq]
    exact (beq_iff_eq.mp htype).symm
  have hiff' := sameIgnoring_iff_or hb.lawful ha.lawful hakin' ignored
  rw [or_iff_left hnot] at hiff
  rw [or_iff_left hnot'] at hiff'
  rw [Bool.eq_iff_iff, hiff, hiff', hsymm]

end

/-- Two beans with any properties that are equal but for one, which is given twice. -/
theorem sameIgnoring_iff_flexible :
    let a : Bean := ⟨.flexible [], [("x", .int 1), ("y", .int 2)]⟩
    let b : Bean := ⟨.flexible [], [("y", .int 3), ("x", .int 1)]⟩
    let y : MetaProperty := .ofEntry flexibleType "y" .any
    a.SameBut b [y] ∧ b.SameBut a [y] ∧ a.sameIgnoring b [y, y] = true := by
  intro a b y
  have ha : a.Sound fun _ => .empty 0 0 := .bean (by decide : ["x", "y"].Nodup)
    (forall_mem_cons.mpr ⟨.scalar _, forall_mem_singleton.mpr (.scalar _)⟩)
  have hb : b.Sound fun _ => .empty 0 0 := .bean (by decide : ["y", "x"].Nodup)
    (forall_mem_cons.mpr ⟨.scalar _, forall_mem_singleton.mpr (.scalar _)⟩)
  obtain ⟨hiff, hcongr, hsymm, -⟩ := sameIgnoring_iff ha hb (fun _ => .inr ⟨rfl, rfl⟩) [y]
  have hnames : (a.remaining [y]).map MetaProperty.name ~ (b.remaining [y]).map MetaProperty.name := by
    decide +kernel
  have hsame : a.sameIgnoring b [y] = true := by decide +kernel
  have hbut : a.SameBut b [y] := (hiff.mp hsame).resolve_right fun h => h.names hnames
  have htwice (p : MetaProperty) : [y].any p.same = [y, y].any p.same := by
    rw [any_cons, any_cons, any_cons, any_nil, Bool.or_false, Bool.or_self]
  exact ⟨hbut, hsymm.mp hbut, (hcongr [y, y] htwice).trans hsame⟩

/-- That beans are held to be equal does not mean that they are: that the second one has a further
property is overlooked, and not the other way round. -/
theorem exists_sameIgnoring_not_sameBut : ∃ (a b : Bean) (ignored : List MetaProperty),
    (a.Sound fun _ => .empty 0 0) ∧ (b.Sound fun _ => .empty 0 0) ∧ a.Akin b ∧
      a.sameIgnoring b ignored = true ∧ ¬a.SameBut b ignored ∧
        b.sameIgnoring a ignored = false := by
  refine ⟨⟨.flexible [], [("x", .int 1)]⟩, ⟨.flexible [], [("x", .int 1), ("y", .int 2)]⟩,
    [.ofEntry flexibleType "x" .any], ?_, ?_, .inr ⟨rfl, rfl⟩, ?_, fun h => ?_, ?_⟩
  · exact .bean (by decide : ["x"].Nodup) (forall_mem_singleton.mpr (.scalar _))
  · exact .bean (by decide : ["x", "y"].Nodup)
      (forall_mem_cons.mpr ⟨.scalar _, forall_mem_singleton.mpr (.scalar _)⟩)
  · decide +kernel
  · exact absurd h.among.names (by decide +kernel)
  · decide +kernel

end Bean

end Beans

import Mathlib.Tactic.Common
import Beans.Bean.Traits
import Beans.Proofs.Bean.Promise
import Beans.Proofs.Generation.Comparison
import Beans.Proofs.Model.Resolution
import Beans.Proofs.Value.TypedEquality
import Beans.Sample.Index

/-!
# Equal beans hash equally

A record whose equality and hash are generated compares the fields that it feeds to a hasher. In a
bean that is made by a builder, and then written, hashed, cloned and built again in any order, the
fields hold values of the types of their properties, and the hash code that is kept, if one is, is
that of the fields: codes are only kept in beans that cannot be changed. So beans that are equal feed
the same bytes to a hasher, whatever was done to them before.

## Main definitions

* `Beans.RecordType.Hashable` — what is asked of a record type.
* `Beans.RecordType.Attained` — what is at hand after beans are made, written, hashed and copied.
* `Beans.Bean.IsTyped`, `Beans.Builder.IsTyped` — what is held has the types of the properties.
* `Beans.HashedBean.Holds` — the fields have their types, and the hash code is that of the fields.
* `Beans.BeanDecl.Declares` — a declaration says of equality and hash what a record type says.

## Main results

* `Beans.RecordType.Hashable.of_attained` — what is attained holds what it should.
* `Beans.RecordType.Hashable.hash?_eq_of_attained` — equal beans feed the same bytes to a hasher.
* `Beans.equality_fits_hash` — generated equality and hash fit each other.
-/

set_option autoImplicit false

open List

namespace Beans

open Digest

/-! ## Fields -/

/-- Whether the values of a type hold neither beans nor values of any type. -/
def ValueType.isClosed : ValueType → Bool
  | any | bean _ => false
  | int _ | double | single | bool | char | text => true
  | option item | wrapper _ item | sequence _ item | set _ item | grid item => item.isClosed
  | map _ key value => key.isClosed && value.isClosed

/-- Values without beans inside of them are sound. -/
lemma Typed.HasType.sound {T : ValueType} {x : Typed} (hx : HasType T x) (hT : T.isClosed = true)
    (heap : Identity → Grid Value) : x.toValue.Sound heap := by
  induction hx with
  | any | bean => cases hT
  | signed | unsigned | double | single | bool | char | text => exact .scalar _
  | absent => exact .absent
  | present _ ih => exact .present (ih hT)
  | wrapper _ _ ih => exact ih hT
  | sequence _ _ ih =>
    rw [toValue_sequence]
    exact .list (forall_mem_map.mpr fun a ha => ih a ha hT)
  | set _ _ _ ih =>
    rw [toValue_set]
    exact .set (forall_mem_map.mpr fun a ha => ih a ha hT)
  | map _ _ _ _ ihk ihv =>
    obtain ⟨hkey, hvalue⟩ := Bool.and_eq_true_iff.mp hT
    rw [toValue_map]
    exact .map (forall_mem_map.mpr fun e he => ihk e he hkey)
      (forall_mem_map.mpr fun e he => ihv e he hvalue)
  | grid _ ih =>
    rw [toValue_grid]
    exact .grid (fun hmade => absurd rfl hmade) (forall_mem_map.mpr fun c hc => ih c hc hT)

/-- Fields of one such type that are equal feed the same bytes. -/
lemma FieldValue.agrees {T : ValueType} {x y : Typed} (hT : T.isClosed = true)
    (hx : Typed.HasType T x) (hy : Typed.HasType T y) : rule.Agrees ⟨T, x⟩ ⟨T, y⟩ := by
  let heap : Identity → Grid Value := fun _ => .empty 0 0
  have hfeed : T.same x y = true → T.feed x = T.feed y :=
    hx.feed_eq hy (hx.sound hT heap) (hy.sound hT heap)
  exact ⟨hfeed, hfeed⟩

/-! ## Record types -/

/-- Whether beans are made by changing a default, or of values that are collected. -/
def Building.isStepwise : Building → Bool
  | editing | collecting => true
  | impossible | buffering _ => false

namespace RecordType

/-- What is asked of a record type so that its beans can be hashed. -/
structure Hashable (t : RecordType) : Prop where
  rebuildable : t.Rebuildable
  stepwise : t.building.isStepwise = true
  closed : ∀ p ∈ t.stored, p.type.isClosed = true
  hasTraits : t.hasTraits = true
  /-- Hash codes are kept in beans that stay as they are. -/
  immutable : t.cachesHash = true → t.Immutable

instance (t : RecordType) : Decidable t.Hashable :=
  decidable_of_iff (t.Rebuildable ∧ t.building.isStepwise = true ∧
      (∀ p ∈ t.stored, p.type.isClosed = true) ∧ t.hasTraits = true ∧
      (t.cachesHash = true → t.Immutable))
    ⟨fun ⟨hrebuildable, hstepwise, hclosed, htraits, himmutable⟩ =>
      ⟨hrebuildable, hstepwise, hclosed, htraits, himmutable⟩,
      fun h => ⟨h.rebuildable, h.stepwise, h.closed, h.hasTraits, h.immutable⟩⟩

/-- Each field holds a value of the type of its property. -/
def Holds (t : RecordType) (fields : List (String × Value)) : Prop :=
  ∀ p ∈ t.stored, ∃ x, Typed.HasType p.type x ∧ fields.lookup p.name = some x.toValue

section

variable {t : RecordType} {fields fields' : List (String × Value)} {p : RecordProperty} {x : Typed}

/-- Storing a value of its type in a field keeps this so. -/
lemma Holds.putField (h : t.Holds fields) (ht : t.Lawful) (hp : p ∈ t.stored)
    (hx : Typed.HasType p.type x) : t.Holds (Beans.putField p.name x.toValue fields) := by
  intro q hq
  by_cases hname : q.name = p.name
  · obtain rfl := ht.eq_of_name hq hp hname
    exact ⟨x, hx, lookup_putField _ _ _⟩
  · rw [lookup_putField_of_ne hname]
    exact h q hq

/-- A field that is compared is that of a stored property. -/
lemma exists_mem_stored {c : Comparison} (hc : c ∈ t.comparisons) :
    ∃ p ∈ t.stored, c.field = p.name := by
  obtain ⟨p, hp, hcomparison⟩ := mem_filterMap.mp hc
  have hfield := PartStyle.map_field_comparison? p.equality p.shown p.name
  rw [hcomparison] at hfield
  split at hfield
  · cases hfield
  · exact ⟨p, hp, Option.some.inj hfield⟩

/-- Equality and hash of a record type belong together. -/
lemma comparisons_fit (t : RecordType) : Forall₂ Comparison.Fits t.comparisons t.feedings :=
  Comparison.forall₂_fits RecordProperty.equality RecordProperty.shown RecordProperty.name _

variable (ht : t.Hashable)

include ht

/-- The value of a field is found in it. -/
lemma Hashable.exists_fieldValue (h : t.Holds fields) (hp : p ∈ t.stored) :
    ∃ x, Typed.HasType p.type x ∧ t.fieldValue fields p.name = ⟨p.type, x⟩ := by
  obtain ⟨x, hx, hlookup⟩ := h p hp
  have hproperty := ht.rebuildable.lawful.property?_eq (mem_properties hp)
  refine ⟨x, hx, ?_⟩
  simp only [fieldValue, hproperty, hlookup, Option.getD_some,
    ValueType.ofValue_toValue_eq (ht.rebuildable.strict p hp) hx]

/-- Fields that are equal feed the same bytes. -/
theorem Hashable.fed_eq_of_holds (h : t.Holds fields) (h' : t.Holds fields')
    (hsame : t.comparisons.all (Comparison.holds FieldValue.rule (t.fieldValue fields)
      (t.fieldValue fields')) = true) : t.fed fields = t.fed fields' := by
  refine congrArg flatten (bytes_eq_of_holds t.comparisons_fit (fun c hc => ?_) hsame)
  obtain ⟨p, hp, hfield⟩ := exists_mem_stored hc
  obtain ⟨x, hx, hvalue⟩ := ht.exists_fieldValue h hp
  obtain ⟨y, hy, hvalue'⟩ := ht.exists_fieldValue h' hp
  rw [hfield, hvalue, hvalue']
  exact FieldValue.agrees (ht.closed p hp) hx hy

end

end RecordType

/-! ## Builders -/

/-- A bean of the type, with a value of its type in each field. -/
def Bean.IsTyped (t : RecordType) (b : Bean) : Prop := b.kind = .record t ∧ t.Holds b.fields

/-- A builder holds values of the types of the properties. -/
def Builder.IsTyped (t : RecordType) : Builder → Prop
  | editing b => b.IsTyped t
  | collecting u values => u = t ∧ ∀ p ∈ t.stored, ∀ v, values.lookup p.name = some v →
      ∃ x, Typed.HasType p.type x ∧ v = x.toValue
  | growing _ | buffering .. => False

section

variable {t : RecordType} {b b' : Builder} {bean bean' : Bean} {name : String} {v : Value}

/-- A builder that starts with the values of a bean holds them. -/
lemma Bean.IsTyped.toBuilder (hb : bean.IsTyped t) (h : bean.toBuilder? = some b) : b.IsTyped t := by
  obtain ⟨hkind, hfields⟩ := hb
  rw [Bean.toBuilder?, hkind] at h
  dsimp only at h
  split at h
  case h_1 =>
    obtain rfl := Option.some.inj h
    refine ⟨rfl, fun p hp v hv => ?_⟩
    obtain ⟨x, hx, hlookup⟩ := hfields p hp
    exact ⟨x, hx, Option.some.inj (hv.symm.trans hlookup)⟩
  all_goals cases h

variable (ht : t.Hashable)

include ht

/-- Writing a bean keeps its fields as they should be. -/
lemma Bean.IsTyped.set (hb : bean.IsTyped t) (h : bean.set name v = .ok bean') :
    bean'.IsTyped t := by
  obtain ⟨kind, fields⟩ := bean
  obtain ⟨rfl, hfields⟩ := hb
  obtain ⟨p, hp, hsettable, w, hw, rfl⟩ := of_set_record ht.rebuildable.lawful h
  have hstored : p ∈ t.stored := mem_filter.mpr ⟨hp, ht.rebuildable.isStored p hp (.inr hsettable)⟩
  obtain ⟨⟨x, hx, rfl⟩, -⟩ := RecordProperty.accepted (ht.rebuildable.strict p hstored) hw
  exact ⟨rfl, hfields.putField ht.rebuildable.lawful hstored hx⟩

namespace Builder.IsTyped

/-- A new builder holds defaults, or nothing. -/
lemma builder (h : t.builder = .ok b) : b.IsTyped t := by
  have hfits := Builder.Fits.builder ht.rebuildable h
  have hstepwise := ht.stepwise
  cases b with
  | editing bean =>
    obtain ⟨kind, fields⟩ := bean
    obtain ⟨hregular, rfl⟩ := hfits
    cases hregular with | record _ hrecord _ =>
    exact ⟨rfl, fun p hp => hrecord.exists_lookup hp⟩
  | growing bean => exact hfits.elim
  | collecting u values =>
    obtain ⟨hu, -, hvalues⟩ := hfits
    exact ⟨hu, fun p hp v hv => (hvalues p hp v hv).1⟩
  | buffering u steps args =>
    obtain ⟨-, hbuilding, -⟩ := hfits
    rw [hbuilding] at hstepwise
    cases hstepwise

/-- It does so when it takes a value. -/
lemma set (hb : b.IsTyped t) (h : b.set name v = .ok b') : b'.IsTyped t := by
  cases b with
  | editing bean =>
    obtain ⟨bean', hset, rfl⟩ := map_eq_ok_iff.mp h
    exact Bean.IsTyped.set ht hb hset
  | growing bean => exact hb.elim
  | buffering u steps args => exact hb.elim
  | collecting u values =>
    obtain ⟨rfl, hvalues⟩ := hb
    obtain ⟨p, hp, w, hw, rfl⟩ := of_set_collecting h
    obtain ⟨x, hx, rfl⟩ := map_eq_ok_iff.mp hw
    refine ⟨rfl, fun q hq w hw => ?_⟩
    by_cases hname : q.name = p.name
    · obtain rfl : q = p := inj_on_of_nodup_map ht.rebuildable.lawful.nodup
        (RecordType.mem_properties hq) hp hname
      rw [lookup_putField] at hw
      obtain rfl := Option.some.inj hw
      exact ⟨x, ValueType.hasType_of_ofValue (ht.rebuildable.strict q hq) hx, rfl⟩
    · rw [lookup_putField_of_ne hname] at hw
      exact hvalues q hq w hw

/-- It does so when a value is offered to it. -/
lemma attempt (hb : b.IsTyped t) (name : String) (v : Value) : (b.attempt name v).IsTyped t := by
  rcases attempt_eq_or b name v with h | h
  · rwa [h]
  · exact set ht hb h

/-- What is built holds it. -/
lemma build (hb : b.IsTyped t) (h : b.build = .ok bean) : bean.IsTyped t := by
  cases b with
  | editing bean => exact Except.ok.inj h ▸ hb
  | growing bean => exact hb.elim
  | buffering u steps args => exact hb.elim
  | collecting u values =>
    obtain ⟨rfl, hvalues⟩ := hb
    obtain ⟨hfound, -, rfl⟩ := RecordType.of_collect h
    refine ⟨rfl, fun p hp => ?_⟩
    obtain ⟨v, hv⟩ := hfound p hp
    obtain ⟨x, hx, rfl⟩ := hvalues p hp v hv
    refine ⟨x, hx, ?_⟩
    rw [ht.rebuildable.lawful.lookup_tabulate hp, hv]
    rfl

end Builder.IsTyped

/-- A deep copy is built again. -/
lemma Bean.IsTyped.copy {c : Cloner} (hb : bean.IsTyped t) (h : c.cloneBean bean = .ok bean') :
    bean'.IsTyped t := by
  have hbuilding : t.building ≠ .impossible := by
    intro himpossible
    have hstepwise := ht.stepwise
    rw [himpossible] at hstepwise
    cases hstepwise
  obtain ⟨start, parts, done, hstart, hfeed, hbuild⟩ := Cloner.of_cloneBean_record hb.1 hbuilding h
  have hdone : done.IsTyped t :=
    Cloner.of_feedBuilder (Builder.IsTyped.set ht) (Builder.IsTyped.builder ht hstart) hfeed
  exact hdone.build ht hbuild

end

/-! ## What can be attained -/

/-- What is at hand while beans are made and hashed. -/
inductive HashedPiece
  | builder (b : Builder)
  | bean (h : HashedBean)

/-- What is at hand after builders for a type are made, values are offered to them, beans are built,
written, hashed and cloned, builders are made of beans, and beans are copied, in any order. -/
inductive RecordType.Attained (t : RecordType) : HashedPiece → Prop
  | started {b : Builder} (h : t.builder = .ok b) : Attained t (.builder b)
  | offered {b : Builder} (hb : Attained t (.builder b)) (name : String) (v : Value) :
      Attained t (.builder (b.attempt name v))
  | built {b : Builder} {bean : Bean} (hb : Attained t (.builder b)) (h : b.build = .ok bean) :
      Attained t (.bean (.fresh bean))
  | reopened {a : HashedBean} {b : Builder} (ha : Attained t (.bean a))
      (h : a.bean.toBuilder? = some b) : Attained t (.builder b)
  | written {a a' : HashedBean} {name : String} {v : Value} (ha : Attained t (.bean a))
      (h : a.set name v = .ok a') : Attained t (.bean a')
  | hashed {a a' : HashedBean} {bytes : Feed} (ha : Attained t (.bean a))
      (h : a.hash? = some (bytes, a')) : Attained t (.bean a')
  | cloned {a : HashedBean} (ha : Attained t (.bean a)) : Attained t (.bean a.clone)
  | copied {c : Cloner} {a : HashedBean} {copy : Bean} (ha : Attained t (.bean a))
      (h : c.cloneBean a.bean = .ok copy) : Attained t (.bean (.fresh copy))

/-- The fields of a bean hold values of their types, and the hash code that it keeps, if it keeps
one, is that of the fields. -/
structure HashedBean.Holds (t : RecordType) (a : HashedBean) : Prop where
  bean : a.bean.IsTyped t
  code : KeepsCode t.cachesHash (t.fed a.bean.fields) a.code

/-- What a builder or a bean of the type holds. -/
def RecordType.HoldsPiece (t : RecordType) : HashedPiece → Prop
  | .builder b => b.IsTyped t
  | .bean a => a.Holds t

section

variable {t : RecordType} {a a' : HashedBean} {bytes : Feed} {name : String} {v : Value}

/-- A bean that was just made keeps no code. -/
lemma Bean.IsTyped.fresh {b : Bean} (hb : b.IsTyped t) : (HashedBean.fresh b).Holds t :=
  ⟨hb, .inl rfl⟩

variable (ht : t.Hashable)

include ht

/-- What a hasher gets, and what becomes of the bean. -/
lemma HashedBean.Holds.hash?_eq (ha : a.Holds t) :
    a.hash? = some ((hashWith t.cachesHash (t.fed a.bean.fields) a.code).1,
      ⟨a.bean, (hashWith t.cachesHash (t.fed a.bean.fields) a.code).2⟩) := by
  rw [hash?, ha.bean.1]
  exact if_pos ht.hasTraits

/-- Hashing keeps the code of the fields. -/
lemma HashedBean.Holds.hash (ha : a.Holds t) (h : a.hash? = some (bytes, a')) : a'.Holds t := by
  rw [ha.hash?_eq ht] at h
  obtain ⟨-, rfl⟩ := Prod.mk.inj (Option.some.inj h)
  exact ⟨ha.bean, ha.code.hashWith⟩

/-- A bean that is written keeps no code: one that keeps codes cannot be written. -/
lemma HashedBean.Holds.set (ha : a.Holds t) (h : a.set name v = .ok a') : a'.Holds t := by
  obtain ⟨bean', hset, rfl⟩ := map_eq_ok_iff.mp h
  refine ⟨ha.bean.set ht hset, ?_⟩
  obtain hnone | ⟨hcaches, -⟩ := ha.code
  · exact .inl hnone
  · rw [(ht.immutable hcaches).set_eq ha.bean.1] at hset
    cases hset

namespace RecordType.Hashable

/-- **What is attained holds what it should**, by induction on how it is attained. -/
theorem of_attained {w : HashedPiece} (h : t.Attained w) : t.HoldsPiece w := by
  induction h with
  | started h => exact Builder.IsTyped.builder ht h
  | offered _ name v ih => exact Builder.IsTyped.attempt ht ih name v
  | built _ h ih => exact (Builder.IsTyped.build ht ih h).fresh
  | reopened _ h ih => exact (HashedBean.Holds.bean ih).toBuilder h
  | written _ h ih => exact HashedBean.Holds.set ht ih h
  | hashed _ h ih => exact HashedBean.Holds.hash ht ih h
  | cloned _ ih => exact ih
  | copied _ h ih => exact ((HashedBean.Holds.bean ih).copy ht h).fresh

/-- **Equal beans feed the same bytes to a hasher**, whatever was done to them. -/
theorem hash?_eq_of_attained (ha : t.Attained (.bean a)) (ha' : t.Attained (.bean a')) :
    ∃ same bytes bytes' kept kept', a.bean.ownSame? a'.bean = some same ∧
      a.hash? = some (bytes, kept) ∧ a'.hash? = some (bytes', kept') ∧
      (same = true → bytes = bytes') := by
  have hholds : a.Holds t := ht.of_attained ha
  have hholds' : a'.Holds t := ht.of_attained ha'
  have hsame : a.bean.ownSame? a'.bean = some (t.comparisons.all
      (Comparison.holds FieldValue.rule (t.fieldValue a.bean.fields)
        (t.fieldValue a'.bean.fields))) := by
    rw [Bean.ownSame?, hholds.bean.1, hholds'.bean.1]
    exact if_pos (by simp [ht.hasTraits, RecordType.same, BeanType.same])
  refine ⟨_, _, _, _, _, hsame, hholds.hash?_eq ht, hholds'.hash?_eq ht, fun hsame => ?_⟩
  have hfed := ht.fed_eq_of_holds hholds.bean.2 hholds'.bean.2 hsame
  rw [hholds.code.hashWith_eq, hholds'.code.hashWith_eq, hfed]

end RecordType.Hashable

end

/-! ## Declared types -/

/-- What a declared property says of its part in equality and hashing. -/
def PropertyDecl.part (p : PropertyDecl) : String × PartStyle × Bool :=
  (p.name.name, p.options.equals, p.options.ty.isSome)

/-- What the property of a record type says of it. -/
def RecordProperty.part (p : RecordProperty) : String × PartStyle × Bool :=
  (p.name, p.equality, p.shown)

/-- A declaration without a parent says of equality and hash what a record type says. -/
structure BeanDecl.Declares (d : BeanDecl) (t : RecordType) : Prop where
  isRoot : d.isRoot = true
  parts : d.properties.map PropertyDecl.part = t.stored.map RecordProperty.part
  caches : d.options.cacheHash = t.cachesHash

/-- The model of a declared property says the same. -/
lemma PropertyModel.part_of_resolve {p : PropertyDecl} {immutable : Bool} {params : List String}
    {s : Settings} {m : PropertyModel} (h : resolve p immutable params s = .ok m) :
    (m.field, m.equals, m.shown) = p.part := by
  obtain ⟨getter, -, h⟩ := bind_eq_ok_iff.mp h
  cases immutable with
  | true => exact Except.ok.inj h ▸ rfl
  | false =>
    obtain ⟨setter, -, h⟩ := bind_eq_ok_iff.mp h
    exact Except.ok.inj h ▸ rfl

/-- The generated equality and hash of a declared type are those of the record type. -/
theorem BeanDecl.Declares.comparisons_eq {d : BeanDecl} {t : RecordType} {s : Settings}
    {b : BeanModel} (hd : d.Declares t) (h : BeanModel.resolve d s = .ok b) :
    b.comparisons = t.comparisons ∧ b.feedings = t.feedings ∧ b.cacheHash = t.cachesHash := by
  have hparent := (BeanModel.resolves_of_resolve h).parent_eq_none hd.isRoot
  obtain ⟨models, hmodels, h⟩ := bind_eq_ok_iff.mp h
  obtain rfl := Except.ok.inj h
  have hparts : models.map (fun m => (m.field, m.equals, m.shown)) =
      t.stored.map RecordProperty.part :=
    (Order.map_eq_of_forall₂ ((resolveProperties_eq_ok_iff.mp hmodels).imp
      fun _ _ hm => (PropertyModel.part_of_resolve hm).symm)).symm.trans hd.parts
  have hlists {γ : Type} (f : PartStyle → Bool → String → Option γ) :
      models.filterMap (fun m => f m.equals m.shown m.field) =
        t.stored.filterMap fun p => f p.equality p.shown p.name := by
    have hmap := congrArg (filterMap fun e => f e.2.1 e.2.2 e.1) hparts
    rwa [filterMap_map, filterMap_map] at hmap
  refine ⟨?_, ?_, hd.caches⟩
  · rw [BeanModel.comparisons, hparent]
    exact hlists PartStyle.comparison?
  · rw [BeanModel.feedings, hparent]
    exact hlists PartStyle.feeding?

/-! ## Generated equality and hash -/

/-- The generated equality of a bean makes some comparisons, and its generated hash some feedings, and
they belong together. -/
structure BeanModel.Compares (b : BeanModel) (cs : List Comparison) (fs : List Feeding) : Prop where
  /-- The function that compares two beans makes these comparisons and no others. -/
  equality : ∀ cs', equalityOf cs' = b.equalityFunction ↔ cs' = cs
  equality_generated : b.generates.partialEq = true →
    b.traitImpl "PartialEq" b.equalityFunction <:+: b.objectImpls
  /-- The function that feeds a bean to a hasher feeds this and nothing else. -/
  hash : ∀ fs', hashOf b.cacheHash fs' = b.hashFunction ↔ fs' = fs
  hash_generated : b.generates.hash = true →
    b.traitImpl "::std::hash::Hash" b.hashFunction <:+: b.objectImpls
  fits : Forall₂ Comparison.Fits cs fs
  /-- The parent comes first, then the properties that are not left out. -/
  fields : cs.map Comparison.field = b.parent.toList.map ParentField.field ++
    (b.properties.filter fun p => p.equals ≠ .omit).map PropertyModel.field

/-- Equality and hash of any bean belong together. -/
theorem BeanModel.compares (b : BeanModel) : b.Compares b.comparisons b.feedings where
  equality _ := equalityOf_injective.eq_iff
  equality_generated := b.equalityFunction_generated
  hash _ := (hashOf_injective b.cacheHash).eq_iff
  hash_generated := b.hashFunction_generated
  fits := b.comparisons_fit
  fields := b.map_field_comparisons

namespace Sample

/-- The types whose equality and hash are generated. -/
def hashedTypes : List RecordType := [tag, all, key]

/-- Their beans can be hashed. -/
lemma hashable_of_mem : ∀ t ∈ hashedTypes, t.Hashable := by decide +kernel

end Sample

namespace Sample

/-- A declaration of keys, with the field for the hash code. -/
def keyDecl : BeanDecl :=
  let named (name : String) : Syntax.Ty := .path (.mk false [.mk name .none])
  let properties : List PropertyDecl :=
    [.plain 4 "id" (named "u64") {}, .plain 6 "parts" (named "Parts") {}]
  { BeanDecl.plain "Key" { immutable := true, cacheHash := true } properties [] with
    fields := properties.map (fun p => ⟨p.name, p.ty, p.tyLine, true⟩) ++
      [⟨⟨"hash_cache", 7⟩, named "OnceLock", 7, false⟩] }

/-- A key. -/
def letterKey : Bean := ⟨.record key, [("id", .uint 7), ("parts", .set [.text "a"])]⟩

/-- The key is attained. -/
lemma attained_letterKey : key.Attained (.bean (.fresh letterKey)) := by
  have hstart : key.builder = .ok (.collecting key key.initialValues) := rfl
  have hoffered := ((RecordType.Attained.started hstart).offered "id" (.int 7)).offered "parts"
    (.list [.text "a"])
  exact hoffered.built rfl

end Sample

end Beans
